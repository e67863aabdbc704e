import LuaSession.Proofs.Session.Globals

/-!
# What the first script finds

The first script puts fields into tables that globals stand for. Putting one into a table
changes what that table holds, and no other.
-/

namespace LuaSession

open LuaSession.Script LuaSession.Library LuaSession.Library.Opening

/-- Putting a field into a table other than the scope. -/
theorem Script.Store.put_of_ne {s : Store} {ref : Nat} (differs : ref ≠ s.scope) (key value : Value) :
    s.put ref key value = s.modifyTable ref (·.set key value) :=
  if_neg fun same => differs (eq_of_beq same)

/-- A table after a field was put into one. -/
theorem Script.Store.table_put {s : Store} {ref : Nat} (inHeap : ref < s.heap.tables.size)
    (key value : Value) (other : Nat) :
    (s.put ref key value).table other =
      if ref = other then (s.table other).set key value else s.table other := by
  rw [table_congr (congrArg Heap.tables (heap_put ..))]
  split
  next same =>
    subst same
    exact table_modifyTable_self inHeap _
  next differs => exact table_modifyTable_of_ne differs _

namespace Library.Opening

/-- A global stands for a table without a metatable, which has nothing to do with the
scope. -/
structure Offers (name : String) (ref : Nat) (s : Store) : Prop where
  binds : Binds name (.table ref) s
  inHeap : ref < s.heap.tables.size
  sound : (s.table ref).Sound
  plain : (s.table ref).metatable = none
  notScope : ref ≠ s.scope
  notFallback : (s.table s.scope).metatable ≠ some ref

variable {s : Store} {name field : String} {ref : Nat} {value : Value}

/-- A table that has a field which neither the scope nor its metatable has. -/
theorem offers_of_field (field : String) (remembers : s.Remembers) (fallsBack : s.FallsBack)
    (binds : Binds name (.table ref) s) (inHeap : ref < s.heap.tables.size)
    (sound : (s.table ref).Sound) (plain : (s.table ref).metatable = none)
    (present : (s.table ref).get (.ofString field) ≠ .nil)
    (unassigned : s.lastAssigned? field.toUTF8 = none) (other : "__index" ≠ field) :
    Offers name ref s where
  binds
  inHeap
  sound
  plain
  notScope := by
    rintro rfl
    refine present ((remembers.remembers _).trans ?_)
    rw [unassigned, Option.getD_none]
  notFallback := by
    intro isMetatable
    obtain ⟨fallback, metatable, table⟩ := fallsBack
    obtain rfl : fallback = ref := Option.some.inj (metatable.symm.trans isMetatable)
    refine present ?_
    rw [table]
    refine (Store.get_fallback _ _).trans (if_neg ?_)
    simpa [Value.ofString, String.toByteArray_inj] using other

theorem Binds.put (binds : Binds name value s) (ref : Nat) (differs : field ≠ name)
    (other : Value) : Binds name value (s.put ref (.ofString field) other) :=
  (binds.putField ref differs other).congr (congrArg Heap.tables (Store.heap_put ..))
    (congrArg _ (Store.registry_put ..))

namespace Offers

variable (offers : Offers name ref s)

include offers

/-- Putting a field into a table that is offered. -/
theorem put {other : String} {table : Nat} (target : Offers other table s)
    (differs : field ≠ name) (value : Value) :
    Offers name ref (s.put table (.ofString field) value) where
  binds := offers.binds.put table differs value
  inHeap := Nat.lt_of_lt_of_eq offers.inHeap (Store.size_put ..).symm
  sound := by
    rw [Store.table_put target.inHeap]
    split
    · exact offers.sound.set _ _
    · exact offers.sound
  plain := by
    rw [Store.table_put target.inHeap]
    split
    · exact (Table.metatable_set _ _ _).trans offers.plain
    · exact offers.plain
  notScope := by
    rw [Store.scope_put]
    exact offers.notScope
  notFallback := by
    rw [Store.scope_put, Store.table_put target.inHeap, if_neg target.notScope]
    exact offers.notFallback

/-- A field of the table after one was put into it. -/
theorem get_put (field other : String) (value : Value) :
    ((s.put ref (.ofString field) value).table ref).get (.ofString other) =
      if field = other then value else (s.table ref).get (.ofString other) := by
  rw [Store.table_put offers.inHeap, if_pos rfl]
  exact (Table.get_set offers.sound _ _ _).trans <|
    if_congr (by simp [Value.ofString, String.toByteArray_inj]) rfl rfl

end Offers

end Library.Opening

namespace Bootstrap

/-- The scope is as it was made. -/
structure Scene (s : Store) : Prop where
  remembers : s.Remembers
  fallsBack : s.FallsBack
  unassigned : ∀ name : String, name ≠ outputBinding → s.lastAssigned? name.toUTF8 = none

/-- Putting a field into another table leaves the scope as it is. -/
theorem Scene.put {s : Store} (scene : Scene s) {name : String} {ref : Nat}
    (offers : Offers name ref s) (field : String) (value : Value) :
    Scene (s.put ref (.ofString field) value) where
  remembers := Stable.change (.put s ref _ value) scene.remembers
  fallsBack := by
    obtain ⟨fallback, metatable, table⟩ := scene.fallsBack
    refine ⟨fallback, ?_, ?_⟩
    · rw [Store.scope_put, Store.table_put offers.inHeap, if_neg offers.notScope, metatable]
    · have differs : ref ≠ fallback := fun same => offers.notFallback (same ▸ metatable)
      rw [Store.table_put offers.inHeap, if_neg differs, table, Store.registry_put]
  unassigned := fun other differs => by
    have assigned := Store.assigned_put s ref (.ofString field) value
    rw [if_neg offers.notScope] at assigned
    exact (Store.lastAssigned?_congr assigned _).trans (scene.unassigned other differs)

end Bootstrap

end LuaSession
