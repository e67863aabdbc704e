import LuaSession.Proofs.Script.Becoming
import LuaSession.Proofs.Script.Table

/-!
# The scope remembers what was assigned last

Whatever scripts do, the table of the scope has, for each name, the value that was
last assigned to the name in it: it is changed by assignments only, and every
assignment is noted. No change takes a note away, and none moves the scope.
-/

namespace LuaSession.Script

namespace Store

/-- What was last assigned to a name in the scope, if anything was. -/
def lastAssigned? (s : Store) (name : Bytes) : Option Value :=
  (s.assigned.find? fun pair => pair.key == .str name).map Pair.value

/-- The scope has the value that was last assigned to each name. -/
structure Remembers (s : Store) : Prop where
  inHeap : s.scope < s.heap.tables.size
  apart : s.registry.globals ≠ s.scope
  sound : (s.table s.scope).Sound
  remembers : ∀ name : Bytes,
    (s.table s.scope).get (.str name) = (s.lastAssigned? name).getD .nil

/-- A store comes after another one: the scope and the globals are where they
were, and what was assigned in the scope before is still noted. -/
structure Follows (s t : Store) : Prop where
  scope : t.scope = s.scope
  globals : t.registry.globals = s.registry.globals
  assigned : s.assigned <:+ t.assigned

variable {s t : Store} {ref other : Nat}

/-! ## Changing tables -/

theorem table_modifyTable_self (inHeap : ref < s.heap.tables.size) (f : Table → Table) :
    (s.modifyTable ref f).table ref = f (s.table ref) := by
  simp [table, modifyTable, Array.getD_eq_getD_getElem?, inHeap, Array.getElem_modify_self]

theorem table_modifyTable_of_ne (differs : ref ≠ other) (f : Table → Table) :
    (s.modifyTable ref f).table other = s.table other := by
  simp [table, modifyTable, Array.getD_eq_getD_getElem?, Array.getElem?_modify, differs]

/-- The tables that there were stay where they are. -/
theorem table_newTable (old : ref < s.heap.tables.size) (table : Table) :
    (s.newTable table).2.table ref = s.table ref := by
  simp [Store.table, newTable, Array.getD_eq_getD_getElem?, Array.getElem?_push, Nat.ne_of_lt old]

theorem heap_put (s : Store) (ref : Nat) (key value : Value) :
    (s.put ref key value).heap = (s.modifyTable ref (·.set key value)).heap := by
  unfold put
  dsimp only
  split <;> rfl

theorem scope_put (s : Store) (ref : Nat) (key value : Value) :
    (s.put ref key value).scope = s.scope := by
  unfold put
  dsimp only
  split <;> rfl

theorem registry_put (s : Store) (ref : Nat) (key value : Value) :
    (s.put ref key value).registry = s.registry := by
  unfold put
  dsimp only
  split <;> rfl

theorem assigned_put (s : Store) (ref : Nat) (key value : Value) :
    (s.put ref key value).assigned =
      if ref = s.scope then ⟨key, value⟩ :: s.assigned else s.assigned := by
  simp only [put, modifyTable, beq_iff_eq]
  split <;> rfl

theorem table_congr (same : t.heap.tables = s.heap.tables) (ref : Nat) :
    t.table ref = s.table ref := by
  rw [table, table, same]

theorem table_put_self (inHeap : ref < s.heap.tables.size) (key value : Value) :
    (s.put ref key value).table ref = (s.table ref).set key value :=
  (table_congr (congrArg Heap.tables (heap_put s ref key value)) ref).trans
    (table_modifyTable_self inHeap _)

theorem table_put_of_ne (differs : ref ≠ other) (key value : Value) :
    (s.put ref key value).table other = s.table other :=
  (table_congr (congrArg Heap.tables (heap_put s ref key value)) other).trans
    (table_modifyTable_of_ne differs _)

theorem size_modifyTable (s : Store) (ref : Nat) (f : Table → Table) :
    (s.modifyTable ref f).heap.tables.size = s.heap.tables.size :=
  Array.size_modify

theorem size_put (s : Store) (ref : Nat) (key value : Value) :
    (s.put ref key value).heap.tables.size = s.heap.tables.size :=
  (congrArg (·.tables.size) (heap_put s ref key value)).trans (size_modifyTable ..)

theorem heap_sweep (s : Store) (ref : Nat) (test : Value → Value → Bool) :
    (s.sweep ref test).heap = (s.modifyTable ref (·.keep test)).heap := by
  unfold sweep
  dsimp only
  split <;> rfl

theorem scope_sweep (s : Store) (ref : Nat) (test : Value → Value → Bool) :
    (s.sweep ref test).scope = s.scope := by
  unfold sweep
  dsimp only
  split <;> rfl

theorem registry_sweep (s : Store) (ref : Nat) (test : Value → Value → Bool) :
    (s.sweep ref test).registry = s.registry := by
  unfold sweep
  dsimp only
  split <;> rfl

theorem assigned_sweep (s : Store) (ref : Nat) (test : Value → Value → Bool) :
    (s.sweep ref test).assigned =
      if ref = s.scope then
        ((s.table ref).pairs.toList.filter fun pair => !test pair.key pair.value).map
          (fun pair => { pair with value := .nil }) ++ s.assigned
      else s.assigned := by
  simp only [sweep, modifyTable, beq_iff_eq]
  split <;> rfl

/-! ## Following -/

namespace Follows

theorem refl (s : Store) : s.Follows s := ⟨rfl, rfl, List.suffix_rfl⟩

theorem trans {u : Store} (first : s.Follows t) (second : t.Follows u) : s.Follows u :=
  ⟨second.scope.trans first.scope, second.globals.trans first.globals,
    first.assigned.trans second.assigned⟩

theorem change (change : Change s t) : s.Follows t := by
  cases change with
  | put ref key value =>
      refine ⟨scope_put .., congrArg _ (registry_put ..), ?_⟩
      rw [assigned_put]
      split
      · exact List.suffix_cons _ _
      · exact List.suffix_rfl
  | sweep ref test =>
      refine ⟨scope_sweep .., congrArg _ (registry_sweep ..), ?_⟩
      rw [assigned_sweep]
      split
      · exact List.suffix_append _ _
      · exact List.suffix_rfl
  | _ => exact ⟨rfl, rfl, List.suffix_rfl⟩

end Follows

instance : Stable s.Follows where
  change change follows := follows.trans (.change change)
  publish _ _ := fun _ follows => follows.trans ⟨rfl, rfl, List.suffix_rfl⟩

/-- What a store becomes comes after it. -/
theorem Becomes.follows (becomes : s.Becomes t) : s.Follows t :=
  becomes.keeps (fun _ follows => follows.trans ⟨rfl, rfl, List.suffix_rfl⟩) (.refl s)

/-! ## Remembering -/

theorem lastAssigned?_cons {pair : Pair} (found : t.assigned = pair :: s.assigned) (name : Bytes) :
    t.lastAssigned? name =
      if pair.key = .str name then some pair.value else s.lastAssigned? name := by
  simp only [lastAssigned?, found, List.find?_cons]
  by_cases same : pair.key = .str name
  · simp [same]
  · simp [same, beq_eq_false_iff_ne.mpr same]

theorem lastAssigned?_congr (same : t.assigned = s.assigned) (name : Bytes) :
    t.lastAssigned? name = s.lastAssigned? name := by
  rw [lastAssigned?, lastAssigned?, same]

namespace Remembers

/-- Only the tables, the places of the scope and the globals, and what was
assigned count. -/
theorem congr (remembers : s.Remembers) (tables : t.heap.tables = s.heap.tables)
    (scope : t.scope = s.scope) (globals : t.registry.globals = s.registry.globals)
    (assigned : t.assigned = s.assigned) : t.Remembers where
  inHeap := by
    rw [scope, tables]
    exact remembers.inHeap
  apart := by
    rw [scope, globals]
    exact remembers.apart
  sound := by
    rw [scope, table_congr tables]
    exact remembers.sound
  remembers name := by
    rw [scope, table_congr tables, lastAssigned?_congr assigned]
    exact remembers.remembers name

/-- Changing a table such that its names have the values they had. -/
theorem modifyTable (remembers : s.Remembers) (ref : Nat) {f : Table → Table}
    (sound : ∀ t : Table, t.Sound → (f t).Sound)
    (same : ∀ t : Table, t.Sound → ∀ name : Bytes, (f t).get (.str name) = t.get (.str name)) :
    (s.modifyTable ref f).Remembers := by
  have table : (s.modifyTable ref f).table s.scope = f (s.table s.scope) ∨
      (s.modifyTable ref f).table s.scope = s.table s.scope := by
    by_cases isScope : ref = s.scope
    · subst isScope
      exact .inl (table_modifyTable_self remembers.inHeap f)
    · exact .inr (table_modifyTable_of_ne isScope f)
  refine ⟨(size_modifyTable s ref f).symm ▸ remembers.inHeap, remembers.apart, ?_, fun name => ?_⟩
  · change ((s.modifyTable ref f).table s.scope).Sound
    obtain changed | kept := table
    · rw [changed]
      exact sound _ remembers.sound
    · rw [kept]
      exact remembers.sound
  · change ((s.modifyTable ref f).table s.scope).get (.str name) = _
    refine Eq.trans ?_ (remembers.remembers name)
    obtain changed | kept := table
    · rw [changed, same _ remembers.sound]
    · rw [kept]

theorem newTable (remembers : s.Remembers) (table : Table) : (s.newTable table).2.Remembers := by
  have same := table_newTable remembers.inHeap table
  refine ⟨?_, remembers.apart, ?_, fun name => ?_⟩
  · change s.scope < (s.heap.tables.push table).size
    rw [Array.size_push]
    exact Nat.lt_succ_of_lt remembers.inHeap
  · change ((s.newTable table).2.table s.scope).Sound
    rw [same]
    exact remembers.sound
  · change ((s.newTable table).2.table s.scope).get (.str name) = _
    rw [same]
    exact remembers.remembers name

theorem put (remembers : s.Remembers) (ref : Nat) (key value : Value) :
    (s.put ref key value).Remembers := by
  by_cases isScope : ref = s.scope
  · subst isScope
    have table := table_put_self remembers.inHeap key value
    have assigned := assigned_put s s.scope key value
    rw [if_pos rfl] at assigned
    refine ⟨?_, ?_, ?_, fun name => ?_⟩
    · rw [scope_put, size_put]
      exact remembers.inHeap
    · rw [scope_put, registry_put]
      exact remembers.apart
    · rw [scope_put, table]
      exact remembers.sound.set key value
    · rw [scope_put, table, Table.get_set remembers.sound, lastAssigned?_cons assigned,
        remembers.remembers]
      split <;> rfl
  · have assigned := assigned_put s ref key value
    rw [if_neg isScope] at assigned
    have table := table_put_of_ne (s := s) isScope key value
    refine ⟨?_, ?_, ?_, fun name => ?_⟩
    · rw [scope_put, size_put]
      exact remembers.inHeap
    · rw [scope_put, registry_put]
      exact remembers.apart
    · rw [scope_put, table]
      exact remembers.sound
    · rw [scope_put, table, lastAssigned?_congr assigned]
      exact remembers.remembers name

/-- That a name is lost is noted. -/
theorem lastAssigned?_sweep (remembers : s.Remembers) (test : Value → Value → Bool)
    (name : Bytes) :
    ((s.sweep s.scope test).lastAssigned? name).getD .nil =
      if test (.str name) ((s.table s.scope).get (.str name)) then
        (s.table s.scope).get (.str name)
      else .nil := by
  have before := remembers.remembers name
  rw [lastAssigned?, assigned_sweep, if_pos rfl, List.find?_append]
  cases found : (((s.table s.scope).pairs.toList.filter fun pair =>
      !test pair.key pair.value).map fun pair => { pair with value := .nil : Pair }).find?
        fun pair => pair.key == .str name with
  | some pair =>
      obtain ⟨lost, isLost, rfl⟩ := List.mem_map.mp (List.mem_of_find?_eq_some found)
      obtain ⟨isMember, fails⟩ := List.mem_filter.mp isLost
      have named : lost.key = .str name := beq_iff_eq.mp (List.find?_some found :)
      obtain ⟨key, value⟩ := lost
      obtain rfl : key = .str name := named
      rw [remembers.sound.get_of_mem isMember, if_neg (by simpa using fails)]
      rfl
  | none =>
      rw [Option.none_or]
      change (s.lastAssigned? name).getD .nil = _
      rw [← before]
      split
      next => rfl
      next fails =>
        refine Decidable.byContradiction fun present => ?_
        have isLost := List.mem_filter (p := fun pair : Pair => !test pair.key pair.value) |>.mpr
          ⟨remembers.sound.mem_of_get present, by simpa using fails⟩
        exact List.find?_eq_none.mp found _ (List.mem_map_of_mem isLost) (beq_self_eq_true _)

theorem sweep (remembers : s.Remembers) (ref : Nat) (test : Value → Value → Bool) :
    (s.sweep ref test).Remembers := by
  have tables : ∀ other, (s.sweep ref test).table other =
      (s.modifyTable ref (·.keep test)).table other :=
    fun other => table_congr (congrArg Heap.tables (heap_sweep s ref test)) other
  have inHeap : (s.sweep ref test).scope < (s.sweep ref test).heap.tables.size := by
    rw [scope_sweep, heap_sweep, size_modifyTable]
    exact remembers.inHeap
  have apart : (s.sweep ref test).registry.globals ≠ (s.sweep ref test).scope := by
    rw [scope_sweep, registry_sweep]
    exact remembers.apart
  by_cases isScope : ref = s.scope
  · subst isScope
    have table := (tables s.scope).trans (table_modifyTable_self remembers.inHeap _)
    refine ⟨inHeap, apart, ?_, fun name => ?_⟩
    · rw [scope_sweep, table]
      exact remembers.sound.keep test
    · rw [scope_sweep, table, Table.get_keep remembers.sound,
        remembers.lastAssigned?_sweep test name]
  · have table := (tables s.scope).trans (table_modifyTable_of_ne isScope _)
    have assigned := assigned_sweep s ref test
    rw [if_neg isScope] at assigned
    refine ⟨inHeap, apart, ?_, fun name => ?_⟩
    · rw [scope_sweep, table]
      exact remembers.sound
    · rw [scope_sweep, table, lastAssigned?_congr assigned]
      exact remembers.remembers name

end Remembers

instance : Stable Remembers where
  change change remembers := by
    cases change with
    | newTable table => exact remembers.newTable table
    | put ref key value => exact remembers.put ref key value
    | fill ref values =>
        exact remembers.modifyTable ref (fun _ sound => sound.fill values)
          fun _ sound => Table.get_fill sound values
    | metatable ref metatable =>
        exact remembers.modifyTable ref (fun _ sound => sound.congr rfl rfl) fun _ _ _ => rfl
    | sweep ref test => exact remembers.sweep ref test
    | _ => exact remembers.congr rfl rfl rfl rfl
  publish _ _ := fun _ remembers => remembers.congr rfl rfl rfl rfl

end Store

end LuaSession.Script
