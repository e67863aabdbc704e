import LuaSession.Proofs.Script.Running
import LuaSession.Proofs.Script.Scope

/-!
# Free names

A free name is a field of the environment. Where that is the scope, and the scope
falls back on the globals, reading a free name gives what was last assigned to it
in the scope, or what the globals have; assigning one changes the scope only.
-/

namespace LuaSession.Script

/-- A free name in a script: a field of a captured environment. -/
def Expr.free (index : Nat) (environment name : Bytes) (line : Nat) : Expr :=
  .index (.captured index environment) (.const (.str name)) line

namespace Store

/-- The metatable that makes a table fall back on the globals. -/
def fallback (globals : Nat) : Table := ({} : Table).setString "__index" (.table globals)

/-- What the scope does not have is looked up among the globals, and that is all
that its metatable says. -/
def FallsBack (s : Store) : Prop :=
  ∃ ref, (s.table s.scope).metatable = some ref ∧ s.table ref = fallback s.registry.globals

variable {start s : Store}

theorem get_fallback (globals : Nat) (name : Bytes) :
    (fallback globals).get (.str name) =
      if Value.ofString "__index" = .str name then .table globals else .nil := by
  rw [fallback, Table.setString, Table.get_set Table.sound_empty, Table.get_str {},
    Table.getPair_of_index_none (by simp)]

namespace FallsBack

variable (fallsBack : s.FallsBack)

include fallsBack

theorem metafield (name : Bytes) :
    s.metafield (.table s.scope) (.str name) = (fallback s.registry.globals).get (.str name) := by
  obtain ⟨ref, metatable, table⟩ := fallsBack
  simp only [Store.metafield, Store.metatable?, metatable, table]

theorem index : s.metafield (.table s.scope) Event.index = .table s.registry.globals :=
  (fallsBack.metafield _).trans ((get_fallback _ _).trans (if_pos rfl))

theorem newindex : s.metafield (.table s.scope) Event.newindex = .nil :=
  (fallsBack.metafield _).trans ((get_fallback _ _).trans (if_neg (by decide)))

theorem hasMetatable : (s.table s.scope).metatable.isNone = false := by
  obtain ⟨ref, metatable, _⟩ := fallsBack
  rw [metatable]
  rfl

end FallsBack

end Store

namespace Run

/-- What the globals have for a name. -/
def globalValue (place : Place) (name : Bytes) : Run Value := fun s =>
  indexChain place Expr.unnamed (chainLimit - 1) (.table s.registry.globals) (.str name) s

/-- What was last assigned to a name in the scope, unless nothing was or it is
`nil`: then it is what the globals have. -/
def scopeValue (place : Place) (name : Bytes) : Run Value := fun s =>
  let value := (s.lastAssigned? name).getD .nil
  if value = .nil then globalValue place name s else .done value s

variable {s : Store} {place : Place} {name : Bytes}

theorem isNil_eq_true_iff {value : Value} : value.isNil = true ↔ value = .nil :=
  ⟨Table.eq_nil_of_isNil, fun same => same ▸ rfl⟩

section Chain

variable {blame : Expr} {fuel ref : Nat} {key : Value}

theorem field?_of_present (present : (s.table ref).get key ≠ .nil) :
    s.field? (.table ref) key = some ((s.table ref).get key) :=
  if_neg ((not_congr isNil_eq_true_iff).mpr present)

theorem field?_of_absent (absent : (s.table ref).get key = .nil) :
    s.field? (.table ref) key = none :=
  if_pos (isNil_eq_true_iff.mpr absent)

/-- A table that has the field. -/
theorem indexChain_found (present : (s.table ref).get key ≠ .nil) :
    indexChain place blame (fuel + 1) (.table ref) key s = .done ((s.table ref).get key) s := by
  rw [indexChain, read_bind, field?_of_present present]
  rfl

/-- A table that has not got the field, and no metatable that says where else it
may be. -/
theorem indexChain_absent (absent : (s.table ref).get key = .nil)
    (noHandler : s.metafield (.table ref) Event.index = .nil) :
    indexChain place blame (fuel + 1) (.table ref) key s = .done .nil s := by
  rw [indexChain, read_bind, field?_of_absent absent]
  dsimp only
  rw [read_bind, noHandler]
  rfl

/-- A table that has not got the field, and a metatable that names another one. -/
theorem indexChain_next {next : Nat} (absent : (s.table ref).get key = .nil)
    (handler : s.metafield (.table ref) Event.index = .table next) :
    indexChain place blame (fuel + 1) (.table ref) key s =
      indexChain place Expr.unnamed fuel (.table next) key s := by
  rw [indexChain, read_bind, field?_of_absent absent]
  dsimp only
  rw [read_bind, handler]

end Chain

/-- The globals' own value, if there is one or they have no metatable. -/
theorem globalValue_eq (plain : (s.table s.registry.globals).get (.str name) ≠ .nil ∨
      (s.table s.registry.globals).metatable = none) :
    globalValue place name s = .done ((s.table s.registry.globals).get (.str name)) s := by
  by_cases absent : (s.table s.registry.globals).get (.str name) = .nil
  · rw [absent]
    refine indexChain_absent absent ?_
    have plain := plain.resolve_left (not_not_intro absent)
    simp only [Store.metafield, Store.metatable?, plain]
  · exact indexChain_found absent

/-- Reading a name in the scope. -/
theorem index_scope (remembers : s.Remembers) (fallsBack : s.FallsBack) (blame : Expr) :
    index place blame (.table s.scope) (.str name) s = scopeValue place name s := by
  unfold index scopeValue
  dsimp only
  rw [← remembers.remembers name]
  by_cases absent : (s.table s.scope).get (.str name) = .nil
  · rw [if_pos (isNil_eq_true_iff.mpr absent), if_neg (by simp [fallsBack.hasMetatable]),
      if_pos absent]
    exact indexChain_next absent fallsBack.index
  · rw [if_neg ((not_congr isNil_eq_true_iff).mpr absent), if_neg absent]

/-- Putting a field into a table, whatever is charged for it. -/
theorem rawSet_str (ref : Nat) (value : Value) :
    ∃ charge, rawSet place ref (.str name) value s =
      .done () { s.put ref (.str name) value with charge } := by
  unfold rawSet modify
  dsimp only
  split
  · exact ⟨_, rfl⟩
  · exact ⟨_, rfl⟩

/-- Putting a value at an integer, whatever is charged for it. -/
theorem rawSet_int (place : Place) (ref : Nat) (i : Int64) (value : Value) :
    ∃ charge, rawSet place ref (.int i) value s =
      .done () { s.put ref (.int i) value with charge } := by
  unfold rawSet modify
  dsimp only
  split
  · exact ⟨_, rfl⟩
  · exact ⟨_, rfl⟩

/-- Assigning a field of a table puts the value there, unless its metatable says
otherwise. -/
theorem assign_eq_rawSet {ref : Nat} (noHandler : s.metafield (.table ref) Event.newindex = .nil)
    (blame : Expr) (key value : Value) :
    assign place blame (.table ref) key value s = rawSet place ref key value s := by
  have none : (if ((s.table ref).get key).isNil then
      s.metafield (.table ref) Event.newindex else .nil) = Value.nil := by
    rw [noHandler, ite_self]
  unfold assign
  dsimp only
  split
  · rfl
  · change assignChain place blame (1999 + 1) _ _ _ s = _
    rw [assignChain, read_bind, none]

theorem assign_of_noHandler {ref : Nat}
    (noHandler : s.metafield (.table ref) Event.newindex = .nil) (blame : Expr) (value : Value) :
    ∃ charge, assign place blame (.table ref) (.str name) value s =
      .done () { s.put ref (.str name) value with charge } := by
  rw [assign_eq_rawSet noHandler]
  exact rawSet_str ref value

end Run

/-! ## Scripts -/

namespace Run

variable {s : Store} {index line : Nat} {environment name : Bytes}

/-- Reading a free name. -/
theorem eval_free (remembers : s.Remembers) (fallsBack : s.FallsBack)
    (bound : s.capturedValue index = .table s.scope) :
    eval (.free index environment name line) s = scopeValue (.script line) name s := by
  rw [← index_scope remembers fallsBack (.captured index environment), ← bound]
  rfl

/-- A free name that nothing has been assigned to is what the globals have. -/
theorem eval_free_global (remembers : s.Remembers) (fallsBack : s.FallsBack)
    (bound : s.capturedValue index = .table s.scope) (absent : s.lastAssigned? name = none)
    {value : Value} (present : (s.table s.registry.globals).get (.str name) = value)
    (isBound : value ≠ .nil) : eval (.free index environment name line) s = .done value s := by
  rw [eval_free remembers fallsBack bound, scopeValue, absent, ← present]
  exact (if_pos rfl).trans (globalValue_eq (.inl (present.symm ▸ isBound)))

end Run

end LuaSession.Script
