import LuaSession.Proofs.Script.Scope
import LuaSession.Proofs.Veil.Opening

/-!
# A table of one's own

A function that makes a table may keep it to itself. Nothing else refers to the table then, so
it can be hidden from the moment when it is made, and the function may change it.
-/

namespace LuaSession

open LuaSession.Script

/-- One table is hidden. -/
def veilOver (ref : Nat) (table : Table) : Veil :=
  fun other => if other = ref then some table else none

theorem veilOver_self (ref : Nat) (table : Table) :
    veilOver ref table ref = some table := if_pos rfl

theorem veilOver_eq_none_iff {ref other : Nat} {table : Table} :
    veilOver ref table other = none ↔ other ≠ ref := by
  simp [veilOver]

theorem veilOver_eq_some_iff {ref other : Nat} {table found : Table} :
    veilOver ref table other = some found ↔ other = ref ∧ table = found := by
  by_cases same : other = ref <;> simp [veilOver, same]

namespace Script.Store

variable {s t : Store} {veil other : Veil} {ref : Nat} {table : Table}

/-- Something else is hidden, and the tables that are not hidden are as they were. -/
theorem Veiled.changeVeil (veiled : s.Veiled veil) (grown : Grown (s.view veil) (t.view other))
    (tables : ∀ ref, other ref = none → veil ref = none ∧ t.table ref = s.table ref)
    (hidden : ∀ ref table, other ref = some table →
      ref < t.heap.tables.size ∧ t.table ref = table ∧ table.metatable = none)
    (cells : t.heap.cells = s.heap.cells) (natives : t.heap.natives = s.heap.natives)
    (registry : t.registry = s.registry) (scope : t.scope = s.scope)
    (finalizable : t.finalizable = s.finalizable) (frame : t.frame = s.frame) : t.Veiled other where
  shown ref isOpen := by
    obtain ⟨wasOpen, same⟩ := tables ref isOpen
    exact same ▸ (veiled.shown ref wasOpen).grow grown
  hidden := hidden
  cells := cells ▸ veiled.cells.grow grown
  natives := natives ▸ veiled.natives.grow grown
  registry := registry ▸ veiled.registry.grow grown
  scope := scope ▸ veiled.scope.grow grown
  finalizable := finalizable ▸ veiled.finalizable.grow grown
  frame := frame ▸ veiled.frame.grow grown

/-- What has been visible does not refer to a table that is made next. -/
theorem grown_newTable_veilOver (s : Store) (table : Table) :
    Grown (s.view noVeil) ((s.newTable table).2.view (veilOver s.heap.tables.size table)) where
  size := Nat.le_of_lt (Nat.lt_of_lt_of_eq (Nat.lt_succ_self _) (Array.size_push _).symm)
  isOpen _ inside _ := veilOver_eq_none_iff.mpr (Nat.ne_of_lt inside)

theorem table_newTable_self (s : Store) (table : Table) :
    (s.newTable table).2.table s.heap.tables.size = table := by
  simp [Store.table, newTable, Array.getD_eq_getD_getElem?]

theorem table_newTable_of_ne {ref : Nat} (other : ref ≠ s.heap.tables.size) (table : Table) :
    (s.newTable table).2.table ref = s.table ref := by
  simp [Store.table, newTable, Array.getD_eq_getD_getElem?, Array.getElem?_push, other]

/-- A table is hidden from the moment when it is made. -/
theorem Veiled.hide (veiled : s.Veiled noVeil) (table : Table) (plain : table.metatable = none) :
    (s.newTable table).2.Veiled (veilOver s.heap.tables.size table) := by
  refine veiled.changeVeil (grown_newTable_veilOver s table) (fun ref isOpen => ⟨rfl, ?_⟩)
    (fun ref found isHidden => ?_) rfl rfl rfl rfl rfl rfl
  · exact table_newTable_of_ne (veilOver_eq_none_iff.mp isOpen) table
  · obtain ⟨rfl, rfl⟩ := veilOver_eq_some_iff.mp isHidden
    exact ⟨Nat.lt_of_lt_of_eq (Nat.lt_succ_self _) (Array.size_push _).symm,
      table_newTable_self s table, plain⟩

/-- What is visible does not depend on what the hidden table holds. -/
theorem grown_veilOver (fewer : s.heap.tables.size ≤ t.heap.tables.size) (ref : Nat)
    (table changed : Table) : Grown (s.view (veilOver ref table)) (t.view (veilOver ref changed)) where
  size := fewer
  isOpen _ _ isOpen := veilOver_eq_none_iff.mpr (veilOver_eq_none_iff.mp isOpen)

section Hidden

variable (veiled : s.Veiled (veilOver ref table))

include veiled

theorem Veiled.table_hidden : s.table ref = table :=
  (veiled.hidden ref table (veilOver_self ref table)).2.1

/-- The hidden table is not the scope. -/
theorem Veiled.hidden_ne_scope : ref ≠ s.scope := by
  rintro rfl
  exact veilOver_eq_none_iff.mp veiled.scope.isOpen rfl

/-- Whoever knows of the hidden table puts something into it. -/
theorem Veiled.put_hidden (key value : Value) (plain : (table.set key value).metatable = none) :
    (s.put ref key value).Veiled (veilOver ref (table.set key value)) := by
  have inHeap := (veiled.hidden ref table (veilOver_self ref table)).1
  have notScope := veiled.hidden_ne_scope
  have size := size_put s ref key value
  have puts : s.put ref key value = s.modifyTable ref (·.set key value) :=
    put_of_ne notScope key value
  refine veiled.changeVeil (grown_veilOver (Nat.le_of_eq size.symm) ref _ _)
    (fun other isOpen => ?_)
    (fun other found isHidden => ?_) ?_ ?_ ?_ ?_ ?_ ?_
  · have differs := veilOver_eq_none_iff.mp isOpen
    exact ⟨veilOver_eq_none_iff.mpr differs, table_put_of_ne differs.symm key value⟩
  · obtain ⟨rfl, rfl⟩ := veilOver_eq_some_iff.mp isHidden
    refine ⟨size ▸ inHeap, ?_, plain⟩
    rw [table_put_self inHeap, veiled.table_hidden]
  all_goals rw [puts]; rfl

end Hidden

end Script.Store

end LuaSession
