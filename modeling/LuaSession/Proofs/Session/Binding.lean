import LuaSession.Proofs.Session.Inspection
import LuaSession.Proofs.Text.Encoding

/-!
# Binding values for the host

The host binds values in the scope itself. Whatever metatable scripts have given to
the scope, a bound value is there, the names are listed with the bound one, and
everything else is as it was: other names, other tables, what has been written, the
threads of scripts.
-/

namespace LuaSession

open LuaSession.Script LuaSession.Library

namespace Script.Store

variable {s t : Store} {except : Nat → Prop}

/-- A store has all that another one has, but for tables that may have changed, and
may have more tables and functions. What has been assigned is noted. -/
structure Extends (s : Store) (except : Nat → Prop) (t : Store) : Prop where
  rest : ∃ tables natives assigned charge,
    t = { s with heap := { s.heap with tables, natives }, assigned, charge }
  size : s.heap.tables.size ≤ t.heap.tables.size
  tables : ∀ ref < s.heap.tables.size, ¬except ref → t.table ref = s.table ref
  sizeNatives : s.heap.natives.size ≤ t.heap.natives.size
  natives : ∀ ref < s.heap.natives.size, t.native ref = s.native ref

namespace Extends

theorem refl (s : Store) (except : Nat → Prop) : s.Extends except s where
  rest := ⟨_, _, _, _, rfl⟩
  size := Nat.le_refl _
  tables _ _ _ := rfl
  sizeNatives := Nat.le_refl _
  natives _ _ := rfl

theorem mono (extends_ : s.Extends (fun _ => False) t) (except : Nat → Prop) :
    s.Extends except t where
  rest := extends_.rest
  size := extends_.size
  tables ref inside _ := extends_.tables ref inside id
  sizeNatives := extends_.sizeNatives
  natives := extends_.natives

theorem world (extends_ : s.Extends except t) : t.world = s.world := by
  obtain ⟨tables, natives, assigned, charge, rfl⟩ := extends_.rest
  rfl

theorem registry (extends_ : s.Extends except t) : t.registry = s.registry := by
  obtain ⟨tables, natives, assigned, charge, rfl⟩ := extends_.rest
  rfl

theorem newTable (extends_ : s.Extends except t) (table : Table) :
    s.Extends except (t.newTable table).2 where
  rest := by
    obtain ⟨tables, natives, assigned, charge, rfl⟩ := extends_.rest
    exact ⟨_, _, _, _, rfl⟩
  size := by
    refine Nat.le_trans extends_.size ?_
    simp [Store.newTable]
  tables ref inside spared := by
    rw [table_newTable (Nat.lt_of_lt_of_le inside extends_.size)]
    exact extends_.tables ref inside spared
  sizeNatives := extends_.sizeNatives
  natives := extends_.natives

theorem newNative (extends_ : s.Extends except t) (native : Native) :
    s.Extends except (t.newNative native).2 where
  rest := by
    obtain ⟨tables, natives, assigned, charge, rfl⟩ := extends_.rest
    exact ⟨_, _, _, _, rfl⟩
  size := extends_.size
  tables := extends_.tables
  sizeNatives := by
    refine Nat.le_trans extends_.sizeNatives ?_
    simp [Store.newNative]
  natives ref inside := by
    rw [← extends_.natives ref inside]
    have old := Nat.lt_of_lt_of_le inside extends_.sizeNatives
    simp [Store.native, Store.newNative, Array.getD_eq_getD_getElem?, Array.getElem?_push,
      Nat.ne_of_lt old]

theorem put (extends_ : s.Extends except t) {ref : Nat} (isExcept : except ref) (key value : Value) :
    s.Extends except (t.put ref key value) where
  rest := by
    obtain ⟨tables, natives, assigned, charge, rfl⟩ := extends_.rest
    unfold Store.put
    dsimp only
    split
    · exact ⟨_, _, _, _, rfl⟩
    · exact ⟨_, _, _, _, rfl⟩
  size := (size_put ..).symm ▸ extends_.size
  tables other inside spared := by
    have differs : ref ≠ other := by
      rintro rfl
      exact spared isExcept
    rw [table_put_of_ne differs]
    exact extends_.tables other inside spared
  sizeNatives := by
    rw [heap_put]
    exact extends_.sizeNatives
  natives other inside := by
    rw [Store.native, heap_put]
    exact extends_.natives other inside

end Extends

end Script.Store

namespace HostValue

end HostValue

namespace Session

/-! ## The names that are listed -/

theorem pairwise_listed (names : List Bytes) : (listed names).Pairwise (· ≤ ·) := by
  have not_before {a b : String} : (!decide (b < a)) = true ↔ a ≤ b := by
    rw [Bool.not_eq_true', decide_eq_false_iff_not, String.not_lt]
  have sorted := @List.pairwise_mergeSort String (fun a b => !decide (b < a)) ?trans ?total
    ((names.map Utf8.lossy).filter (· != Bootstrap.outputBinding))
  · exact sorted.imp not_before.mp
  case trans =>
    intro a b c first second
    exact not_before.mpr (String.le_trans (not_before.mp first) (not_before.mp second))
  case total =>
    intro a b
    rw [Bool.or_eq_true]
    exact (String.le_total a b).imp not_before.mpr not_before.mpr

/-- The order in which names stand in the scope does not matter. -/
theorem listed_perm {names others : List Bytes} (same : names.Perm others) :
    (listed names).Perm (listed others) :=
  (List.mergeSort_perm _ _).trans <|
    ((same.map _).filter _).trans (List.mergeSort_perm _ _).symm

theorem listed_eq {names others : List Bytes} (same : names.Perm others) :
    listed names = listed others :=
  (listed_perm same).eq_of_pairwise (fun _ _ _ _ => String.le_antisymm) (pairwise_listed _)
    (pairwise_listed _)

/-- One name more in the scope is one more in the list, unless it is the adapter's. -/
theorem listed_cons (name : String) (names : List Bytes) :
    if name = Bootstrap.outputBinding then listed (name.toUTF8 :: names) = listed names
    else (listed (name.toUTF8 :: names)).Perm (name :: listed names) := by
  have texts : (name.toUTF8 :: names).map Utf8.lossy = name :: names.map Utf8.lossy := by
    rw [List.map_cons, Utf8.lossy_toUTF8]
  rw [listed, texts]
  split
  next isOutput =>
    rw [List.filter_cons_of_neg (by simpa using isOutput)]
    rfl
  next other =>
    rw [List.filter_cons_of_pos (by simpa using other)]
    exact (List.mergeSort_perm _ _).trans ((List.mergeSort_perm _ _).symm.cons name)

/-- The list when the names in the scope are the same, or one more or less. -/
theorem listed_change {name : String} {before after : List Bytes} {kept lost : Prop}
    [Decidable kept] [Decidable lost]
    (names : if kept then after.Perm before
      else if lost then before.Perm (name.toUTF8 :: after)
      else after.Perm (name.toUTF8 :: before)) :
    if kept ∨ name = Bootstrap.outputBinding then listed after = listed before
    else if lost then (listed before).Perm (name :: listed after)
    else (listed after).Perm (name :: listed before) := by
  have more := fun names => listed_cons name names
  by_cases isOutput : name = Bootstrap.outputBinding
  · rw [if_pos (.inr isOutput)]
    simp only [if_pos isOutput] at more
    split_ifs at names
    · exact listed_eq names
    · exact ((listed_eq names).trans (more _)).symm
    · exact (listed_eq names).trans (more _)
  · simp only [if_neg isOutput] at more
    split_ifs at names with isKept isLost
    · rw [if_pos (.inl isKept)]
      exact listed_eq names
    · rw [if_neg (not_or_intro isKept isOutput), if_pos isLost]
      exact (listed_perm names).trans (more _)
    · rw [if_neg (not_or_intro isKept isOutput), if_neg isLost]
      exact (listed_perm names).trans (more _)

/-! ## Binding -/

/-- A session in which a value has been bound to a name, and nothing else has changed:
the name is bound if the value is not `nil`, and other names as before; the names are
listed with one more or less, or are the same, in order; reading the name gives the
value, if there is memory, and changes nothing but what is charged for. -/
structure Binds (session : Session) (name : String) (value : Value) (after : Session) : Prop where
  contains : ∀ other, after.contains other =
    if other = name then !value.isNil else session.contains other
  names :
    if session.contains name = !value.isNil ∨ name = Bootstrap.outputBinding then
      after.names = session.names
    else if value = .nil then session.names.Perm (name :: after.names)
    else after.names.Perm (name :: session.names)
  sorted : after.names.Pairwise (· ≤ ·)
  reads : value ≠ .nil → (Machine.checkMemory after.awaiting after.store).1 = true →
    ∀ wanted, ∃ charge,
      let read := after.modifyStore fun s => { s with charge }
      after.get name wanted = {
        value := (Reading.ofValue read.store wanted value).mapError HostError.script
        messages := []
        session := read }
  rest : after = { session with interpreter := { session.interpreter with store := after.store } }
  store : session.store.Extends (· = session.setting.scope) after.store
  metatable : after.scopeTable.metatable = session.scopeTable.metatable
  globals : after.store.table after.store.registry.globals =
    session.store.table session.store.registry.globals

theorem ofString_eq_iff {name other : String} :
    Value.ofString name = Value.ofString other ↔ name = other := by
  simp [Value.ofString, String.toByteArray_inj]

theorem isNil_eq_iff {value other : Value} :
    (!value.isNil) = (!other.isNil) ↔ (value = .nil ↔ other = .nil) := by
  rw [Bool.not_inj_iff, Bool.eq_iff_iff, Run.isNil_eq_true_iff, Run.isNil_eq_true_iff]

variable {session : Session} {store : Store}

section Binding

variable (sound : session.IsSound) (made : session.store.Extends (fun _ => False) store)
  (name : String) (value : Value)

include sound made

/-- The scope after a value has been bound. -/
theorem scopeTable_bindValue :
    ((session.modifyStore fun _ => store).bindValue name value).scopeTable =
      session.scopeTable.set (.ofString name) value := by
  have inHeap : session.setting.scope < session.store.heap.tables.size :=
    sound.scope ▸ sound.remembers.inHeap
  change (store.put session.setting.scope _ _).table session.setting.scope = _
  rw [Store.table_put_self (Nat.lt_of_lt_of_le inHeap made.size), made.tables _ inHeap id]
  rfl

theorem get_bindValue (other : String) :
    ((session.modifyStore fun _ => store).bindValue name value).scopeTable.get (.ofString other) =
      if other = name then value else session.scopeTable.get (.ofString other) := by
  rw [scopeTable_bindValue sound made]
  change Table.get _ (.str other.toUTF8) = _
  rw [Table.get_set sound.scopeTable]
  exact if_congr (ofString_eq_iff.trans eq_comm) rfl rfl

theorem contains_bindValue (other : String) :
    ((session.modifyStore fun _ => store).bindValue name value).contains other =
      if other = name then !value.isNil else session.contains other := by
  rw [contains_eq, get_bindValue sound made]
  split <;> rfl

/-- The names that are listed after a value has been bound. -/
theorem names_bindValue :
    let after := (session.modifyStore fun _ => store).bindValue name value
    if session.contains name = !value.isNil ∨ name = Bootstrap.outputBinding then
      after.names = session.names
    else if value = .nil then session.names.Perm (name :: after.names)
    else after.names.Perm (name :: session.names) := by
  have same : session.contains name = !value.isNil ↔
      (session.scopeTable.get (.str name.toUTF8) = .nil ↔ value = .nil) := isNil_eq_iff
  have names := listed_change (Table.boundNames_set sound.scopeTable name.toUTF8 value)
  rw [← if_congr (or_congr_left same) rfl rfl] at names
  dsimp only
  rw [names_eq, names_eq, scopeTable_bindValue sound made]
  exact names

end Binding

/-- Binding a value after making it. -/
theorem IsSound.binds (sound : session.IsSound)
    (made : session.store.Extends (fun _ => False) store) (name : String) (value : Value) :
    session.Binds name value ((session.modifyStore fun _ => store).bindValue name value) := by
  have bound : session.store.Extends (· = session.setting.scope)
      ((session.modifyStore fun _ => store).bindValue name value).store := by
    have kept := made.mono (· = session.setting.scope)
    exact kept.put rfl _ _
  have apart : session.store.registry.globals ≠ session.setting.scope := by
    rw [sound.scope]
    exact sound.remembers.apart
  refine {
    contains := contains_bindValue sound made name value
    names := names_bindValue sound made name value
    sorted := names_eq _ ▸ pairwise_listed _
    reads := fun present memory wanted => ?_
    rest := rfl
    store := bound
    metatable := by rw [scopeTable_bindValue sound made, Table.metatable_set]
    globals := by rw [bound.registry, bound.tables _ sound.hasGlobals apart] }
  have delivered : IsDelivered ((session.modifyStore fun _ => store).bindValue name value) := by
    rw [IsDelivered, bound.world]
    exact sound.delivered
  have found := get_bindValue sound made name value name
  rw [if_pos rfl] at found
  have read := get_of_bound delivered memory (by rwa [found]) wanted
  rwa [found] at read

end Session

end LuaSession
