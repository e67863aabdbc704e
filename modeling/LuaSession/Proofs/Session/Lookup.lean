import LuaSession.Proofs.Session.Reached

/-!
# What reading a name for the host comes to

The host reads a name as scripts do, through the scope's metatable. Before anything of
a script runs, the store says what that comes to: a value is found, or it fails, or a
function is called that some metatable names. Until then nothing changes but what is
charged for.
-/

namespace LuaSession

open LuaSession.Script LuaSession.Library

namespace Script

/-- What looking a field up comes to, as far as it runs nothing. -/
inductive Found where
  | value (value : Value)
  /-- A function is called with the value whose metatable names it, and the key. -/
  | handler (function object : Value)
  | failure (message : Bytes)

namespace Store

/-- Where no metatable says where else to look, a table does not have the field, and
anything else has no fields. -/
def unhandled (s : Store) (object : Value) : Found :=
  match object with
  | .table _ => .value .nil
  | _ =>
      let action := "index"
      .failure (s!"attempt to {action} a ".toUTF8 ++ s.typeNameOf object ++
        " value".toUTF8 ++ ByteArray.empty)

/-- Look a field up through metatables, up to the first function. -/
def seek (s : Store) (key : Value) : (fuel : Nat) → (object : Value) → Found
  | 0, _ => .failure "'__index' chain too long; possible loop".toUTF8
  | fuel + 1, object =>
      match s.field? object key with
      | some value => .value value
      | none =>
          match s.metafield object Event.index with
          | .nil => s.unhandled object
          | .closure ref => .handler (.closure ref) object
          | .builtin function => .handler (.builtin function) object
          | .native ref => .handler (.native ref) object
          | next => s.seek key fuel next

section Seek

variable {s : Store} {key : Value} {ref fuel : Nat}

/-- A table that has the field. -/
theorem seek_found (present : (s.table ref).get key ≠ .nil) :
    s.seek key (fuel + 1) (.table ref) = .value ((s.table ref).get key) := by
  rw [seek, Run.field?_of_present present]

/-- A table that has not got the field, and a metatable that names a function. -/
theorem seek_closure {closure : Nat} (absent : (s.table ref).get key = .nil)
    (handler : s.metafield (.table ref) Event.index = .closure closure) :
    s.seek key (fuel + 1) (.table ref) = .handler (.closure closure) (.table ref) := by
  rw [seek, Run.field?_of_absent absent, handler]

end Seek

/-- What is charged for does not count. -/
theorem seek_charge (s : Store) (charge : Nat) (key : Value) (fuel : Nat) (object : Value) :
    seek { s with charge } key fuel object = s.seek key fuel object := by
  induction fuel generalizing object with
  | zero => rfl
  | succ fuel ih =>
      have field : field? { s with charge } object key = s.field? object key := rfl
      have handler : metafield { s with charge } object Event.index =
        s.metafield object Event.index := rfl
      have unhandled : unhandled { s with charge } object = s.unhandled object := rfl
      simp only [seek, field, handler, unhandled, ih]

end Store

namespace Run

variable {s : Store}

/-- Looking a field up, from a function of the library. -/
theorem indexChain_eq_seek (blame : Expr) (fuel : Nat) (object key : Value) :
    indexChain .library blame fuel object key s =
      match s.seek key fuel object with
      | .value value => .done value s
      | .handler function receiver =>
          (do return firstOf (← callEvent .library "index" function #[receiver, key])) s
      | .failure message => .fail (.error (.str message)) s := by
  induction fuel generalizing blame object with
  | zero => rfl
  | succ fuel ih =>
      rw [indexChain.eq_def, Store.seek]
      dsimp only
      rw [read_bind]
      cases s.field? object key with
      | some value => rfl
      | none =>
          dsimp only
          rw [read_bind]
          cases handler : s.metafield object Event.index with
          | nil => cases object <;> rfl
          | closure ref | builtin function | native ref => rfl
          | _ => exact ih Expr.unnamed _

/-- Taking a field of a table begins with the table itself. -/
theorem index_eq_seek (blame : Expr) (ref : Nat) (key : Value) :
    index .library blame (.table ref) key s =
      match s.seek key chainLimit (.table ref) with
      | .value value => .done value s
      | .handler function receiver =>
          (do return firstOf (← callEvent .library "index" function #[receiver, key])) s
      | .failure message => .fail (.error (.str message)) s := by
  rw [← indexChain_eq_seek blame]
  unfold index
  dsimp only
  by_cases absent : (s.table ref).get key = .nil
  · rw [if_pos (isNil_eq_true_iff.mpr absent)]
    split
    next noMetatable =>
      refine (indexChain_absent absent ?_).symm
      simp only [Store.metafield, Store.metatable?, Option.isNone_iff_eq_none.mp noMetatable]
    next => rfl
  · rw [if_neg ((not_congr isNil_eq_true_iff).mpr absent)]
    exact (indexChain_found absent).symm

end Run

end Script

namespace Library

variable {s : Store} {message : Bytes}

/-- The text of a string is the string, unless strings have a text of their own. -/
theorem textOf_str (noHandler : s.metafield (.str message) Event.tostring = .nil)
    (position : Bytes) : textOf position (.str message) s = .done message s := by
  rw [textOf.eq_def, Run.read_bind, noHandler]
  rfl

namespace Hosted

/-- A message as the host sees it. -/
theorem report_str (message : Bytes) (s : Store) :
    report (.str message) s = (textOf ByteArray.empty (.str message) s).bind fun text =>
      .done #[.str (Syntax.beforeZero text ++
        s!"\n{Failure.tracebackMark}\n\t[C]: in ?".toUTF8)] :=
  rfl

end Hosted

end Library

namespace Session

/-- What looking a name up for the host comes to. -/
def sought (session : Session) (name : String) : Found :=
  session.store.seek (.ofString name) Run.chainLimit (.table session.setting.scope)

variable {session : Session} {s : Store} {name : String}

/-- The scope is the first place to look. -/
theorem sought_eq (session : Session) (name : String) :
    session.sought name =
      session.store.seek (.ofString name) (1999 + 1) (.table session.setting.scope) := rfl

theorem lookUp_eq (session : Session) (name : String) (charge : Nat) :
    session.lookUp name { session.store with charge } =
      match session.sought name with
      | .value value => .done value { session.store with charge }
      | .handler function receiver =>
          (do return firstOf (← Run.callEvent .library "index" function
            #[receiver, .ofString name])) { session.store with charge }
      | .failure message => .fail (.error (.str message)) { session.store with charge } := by
  rw [lookUp, Run.index_eq_seek, Store.seek_charge]
  rfl

/-- Reading a name for the host, whatever its value is wanted as. -/
def reading (session : Session) (name : String) : Run (Except Hosted.Ending Value) := do
  let result ← Hosted.callForHost (.builtin (.adapter .field))
    #[.table session.setting.scope, .ofString name]
  return result.map firstOf

/-- What the scope itself has is found. -/
theorem sought_of_bound (bound : session.scopeTable.get (.ofString name) ≠ .nil) :
    session.sought name = .value (session.scopeTable.get (.ofString name)) := by
  rw [sought_eq]
  exact Store.seek_found bound

/-- Reading a name that the scope itself has. -/
theorem get_of_bound (delivered : session.IsDelivered)
    (memory : (Machine.checkMemory session.awaiting session.store).1 = true)
    (bound : session.scopeTable.get (.ofString name) ≠ .nil) (wanted : Wanted) :
    ∃ charge,
      let read := session.modifyStore fun s => { s with charge }
      session.get name wanted = {
        value := (Reading.ofValue read.store wanted
          (session.scopeTable.get (.ofString name))).mapError HostError.script
        messages := []
        session := read } := by
  obtain ⟨charge, memory⟩ := exists_checkMemory_eq memory
  have looked := session.lookUp_eq name charge
  rw [sought_of_bound bound] at looked
  have same : Store.delivered { session.store with charge } = { session.store with charge } := by
    rw [IsDelivered] at delivered
    simp only [Store.delivered, ← delivered]
  refine ⟨charge, ?_⟩
  rw [get_of_lookUp memory looked, same, delivered]
  rfl

end Session

end LuaSession
