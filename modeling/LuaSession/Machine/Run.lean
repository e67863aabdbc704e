import LuaSession.Machine.Transition

/-!
# Running the machine

An evaluation that the host starts is carried through: the machine answers its
requests one after the other, each by as many transitions as it takes. A request
that takes transitions for ever is never answered.
-/

namespace LuaSession

open LuaSession.Script

/-- The scripts' side of a session: everything that scripts can change, and what
their threads have still to do. -/
structure Interpreter where
  store : Store := {}
  threads : Array Machine.Dormant := #[default]
  deriving Inhabited

namespace Machine

/-- The result of a machine in which nothing waits any more. -/
def stopped? (m : State) (step : Step Exit) : Option (Exit × State × Store) :=
  match m.stack, m.parents, step with
  | [], [], .done exit store => some (exit, m, store)
  | _, _, _ => none

/-- Advance until nothing waits any more. -/
def run (m : State) (step : Step Exit) : Exit × State × Store :=
  Id.run <| repeatM
    (fun (m, step) =>
      match stopped? m step with
      | some result => pure (.inr result)
      | none => pure (.inl (advance m step)))
    (m, step)

/-- The answer to a request of the host's. -/
def answerHost (request : Request) (threads : Array Dormant) (store : Store) :
    Exit × Array Dormant × Store :=
  let (exit, m, store) := run { threads } (.ask request store ends)
  (exit, m.threads, store)

end Machine

namespace Interpreter

/-- Carry an evaluation through: its value, or the error it fails with. -/
def evaluate {α : Type} (threads : Array Machine.Dormant) :
    Step α → Except Raised α × Interpreter
  | .done value store => (.ok value, { store, threads })
  | .fail raised store => (.error raised, { store, threads })
  | .ask request store resume =>
      let (exit, threads, store) := Machine.answerHost request threads store
      evaluate threads (resume exit store)

/-- Perform a computation. -/
def perform {α : Type} (interpreter : Interpreter) (run : Run α) :
    Except Raised α × Interpreter :=
  evaluate interpreter.threads (run interpreter.store)

end Interpreter

end LuaSession
