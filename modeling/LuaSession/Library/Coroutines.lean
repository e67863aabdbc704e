import LuaSession.Library.Arguments

/-!
# The library of coroutines

Threads are resumed, left and closed by requests; what is checked before stands
here.
-/

namespace LuaSession.Library

open LuaSession.Script

namespace Coroutines

/-- The thread that an argument is. -/
def threadArgument (caller : Caller) (arguments : Array Value) : Run Nat :=
  match argument arguments 1 with
  | .thread ref => return ref
  | _ => typeFail caller arguments 1 "thread"

/-- The name of what a thread is doing. -/
def statusName : ThreadStatus → String
  | .suspended => "suspended"
  | .running => "running"
  | .normal => "normal"
  | .dead => "dead"

/-- Resume a thread: its results, or the error. -/
def resume (thread : Nat) (arguments : Array Value) : Run (Except (Value × Bool) (Array Value)) := do
  match ← Run.read (·.threadStatus thread) with
  | .suspended =>
      match ← Run.ask (.resume thread arguments) with
      | .caught value isMemory => return .error (value, isMemory)
      | .returned values => return .ok values
      | _ => return .ok #[]
  | .dead => return .error (.ofString "cannot resume dead coroutine", false)
  | .running | .normal =>
      return .error (.ofString "cannot resume non-suspended coroutine", false)

/-- Close values one after the other; an error takes the place of the one
before. -/
def closeAll : List Value → (error : Option Value) → Run (Option Value)
  | [], error => return error
  | value :: rest, error => do
      let handler ← Run.read (·.metafield value Event.close)
      match ← Run.ask (.protect .none true handler #[value, error.getD .nil]) with
      | .caught error _ => closeAll rest (some error)
      | _ => closeAll rest error

/-- Close a thread: the error that it has ended with, or that closing has
raised. -/
def close (thread : Nat) : Run (Option Value) := do
  match ← Run.ask (.abandon thread) with
  | .abandoned error pending => closeAll pending error
  | _ => return none

/-- Resume the thread of a wrapped function. Errors pass on, strings with the
place of the call in front. -/
def resumeWrapped (caller : Caller) (thread : Nat) (arguments : Array Value) :
    Run (Array Value) := do
  let before ← Run.read (·.threadStatus thread)
  match ← resume thread arguments with
  | .ok values => return values
  | .error (value, isMemory) =>
      let after ← Run.read (·.threadStatus thread)
      let value ← if before == .suspended && after == .dead then do
          let error ← close thread
          pure (error.getD value)
        else pure value
      match value with
      | .str message => if isMemory then Run.throw .memory else caller.failBytes message
      | value => Run.raise value

end Coroutines

open Coroutines in
/-- The functions of the library of coroutines. -/
def runCoroutine (function : CoroutineFunction) : Function := fun caller arguments => do
  match function with
  | .create =>
      let function ← functionArgument caller arguments 1
      Run.askValues (.spawn function)
  | .wrap =>
      let function ← functionArgument caller arguments 1
      match firstOf (← Run.askValues (.spawn function)) with
      | .thread thread =>
          let native ← Run.update fun s => s.newNative (.resumer thread)
          return #[.native native]
      | _ => return #[]
  | .resume =>
      let thread ← threadArgument caller arguments
      match ← resume thread (arguments.extract 1 arguments.size) with
      | .ok values => return #[.bool true] ++ values
      | .error (value, _) => return #[.bool false, value]
  | .yield => Run.askValues (.yield arguments)
  | .status =>
      let thread ← threadArgument caller arguments
      return #[.ofString (statusName (← Run.read (·.threadStatus thread)))]
  | .running =>
      let thread ← Run.read (·.thread)
      return #[.thread thread, .bool (thread == 0)]
  | .isyieldable =>
      let current ← Run.read (·.thread)
      let thread ← if arguments.isEmpty then pure current else threadArgument caller arguments
      if thread == current then Run.askValues .canYield else return #[.bool (thread != 0)]
  | .close =>
      let thread ← threadArgument caller arguments
      match ← Run.read (·.threadStatus thread) with
      | .dead | .suspended =>
          match ← close thread with
          | none => return #[.bool true]
          | some error => return #[.bool false, error]
      | status => caller.fail s!"cannot close a {statusName status} coroutine"

end LuaSession.Library
