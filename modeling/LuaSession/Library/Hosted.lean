import LuaSession.Library.Packages
import LuaSession.Script.Conversion

/-!
# Functions of the host

What scripts call into: the adapter that takes their output, and the functions
that a host binds. A failure of a host function passes through scripts as a
value of its own, and so does a panic; either can be raised again.
-/

namespace LuaSession.Library

open LuaSession.Script

namespace Hosted

/-- Raise a panic as a value that passes through scripts. -/
def raisePanic {α : Type} (text : Option String) : Run α := do
  let ref ← Run.update fun s => s.newResource (.panic text)
  Run.raise (.handle ref)

/-- Take the arguments over. A panic among them goes on; one that has gone on
before is nothing. -/
def takeArguments : List Value → (done : Array Value) → Run (Array Value)
  | [], done => return done
  | value :: rest, done => do
      match value with
      | .handle ref =>
          match ← Run.read fun s => s.resource ref with
          | .panic text =>
              Run.modify fun s => s.setResource ref .spentPanic
              raisePanic text
          | .spentPanic => takeArguments rest (done.push .nil)
          | _ => takeArguments rest (done.push value)
      | value => takeArguments rest (done.push value)

/-- Convert an argument or fail. -/
def convert {α : Type} (function : Option String) (position : Nat) (value : Value)
    (conversion : Store → Value → Except Failure α) : Run α := do
  match ← Run.read fun s => conversion s value with
  | .ok result => return result
  | .error cause => Packages.raiseFailure (.badArgument function position none cause)

/-- The adapter's name in messages. -/
def adapterName : String := "OutputAdapter"

/-- The receiver of one of the adapter's methods. -/
def receiver (method : String) (arguments : Array Value) : Run Nat :=
  convert (some s!"{adapterName}.{method}") 1 (argument arguments 1) Conversion.resource

/-- What is said of an argument that cannot be written. -/
def unwritable (position : Nat) (typeName : String) : Failure :=
  .runtime s!"bad argument #{position} to 'write' (string expected, got {typeName})"

/-- The text of the arguments from number `position` on, each turned into UTF-8
on its own; the first one that is neither string nor number is refused. -/
def writtenText (s : Store) : (position : Nat) → List Value → Except Failure String
  | _, [] => .ok ""
  | position, value :: rest =>
      match value.toBytes? with
      | some bytes => do return Utf8.lossy bytes ++ (← writtenText s (position + 1) rest)
      | none => .error (unwritable position (Conversion.typeName s value))

/-- Write to the adapter: one message for all arguments. -/
def write (arguments : Array Value) : Run (Array Value) := do
  let ref ← receiver "write" arguments
  match ← Run.read fun s => writtenText s 1 (arguments.toList.drop 1) with
  | .error failure => Packages.raiseFailure failure
  | .ok text =>
      match ← Run.read fun s => s.resource ref with
      | .adapter =>
          Run.modify fun s => s.emit (.written text)
          return #[.handle ref]
      | _ => Packages.raiseFailure .typeMismatch

/-- The text of an error value of the host. -/
def failureText (value : Value) : Run (Array Value) := do
  match value with
  | .handle ref =>
      match ← Run.read fun s => s.resource ref with
      | .failure failure => return #[.ofString failure.text]
      | .panic text => return #[.ofString (text.getD "<panic>")]
      | .spentPanic => Packages.raiseFailure .resumedPanic
      | _ => Packages.raiseFailure .typeMismatch
  | _ => Packages.raiseFailure .typeMismatch

/-- An error as the host sees it: a text with a traceback, unless it is the
host's own. -/
def report (value : Value) : Run (Array Value) := do
  let isOwn ← Run.read fun s =>
    match value with
    | .handle ref =>
        match s.resource ref with
        | .failure _ | .panic _ | .spentPanic => true
        | _ => false
    | _ => false
  if isOwn then return #[value]
  else
    let text ← textOf ByteArray.empty value
    return #[.str (Syntax.beforeZero text ++
      s!"\n{Failure.tracebackMark}\n\t[C]: in ?".toUTF8)]

/-- How a run that the host started has ended, when it has failed. -/
inductive Ending where
  | failed (failure : Failure)
  | panicked (text : Option String)

/-- What an error that reaches the host means. A panic that reaches it is spent
then. -/
def ending (value : Value) (isMemory : Bool) (s : Store) : Ending × Store :=
  let other : Ending :=
    let text := Utf8.lossy (value.toBytes?.getD ByteArray.empty)
    .failed (if isMemory then .memory text else .runtime text)
  match value with
  | .handle ref =>
      match s.resource ref with
      | .failure failure => (.failed failure, s)
      | .panic text => (.panicked text, s.setResource ref .spentPanic)
      | .spentPanic => (.failed .resumedPanic, s)
      | _ => (other, s)
  | _ => (other, s)

/-- What is published about a run that has failed. -/
def Ending.message : Ending → String
  | .failed failure => failure.describe
  | .panicked text => "host function panicked: " ++ text.getD "unknown panic"

/-- Call a function for the host. -/
def callForHost (function : Value) (arguments : Array Value) :
    Run (Except Ending (Array Value)) := do
  match ← Run.ask (.protect .host true function arguments) with
  | .caught value isMemory => return .error (← Run.update (ending value isMemory))
  | .returned values => return .ok values
  | _ => return .ok #[]

/-- A script of the host as a function with the session's scope as its
environment; a failure when it is no script. -/
def loadForHost (setting : Setting) (source : Bytes) : Run (Except Failure Value) := do
  let name := s!"={setting.chunkName}".toUTF8
  match name.toList.findIdx? (· == 0) with
  | some place =>
      return .error (.runtime
        s!"invalid name: nul byte found in provided data at position: {place}")
  | none =>
      let isCompiled := Syntax.compiledMark.toList.isPrefixOf source.toList
      match ← Loading.load name (if isCompiled then "b".toUTF8 else "t".toUTF8) source
          (some (.table setting.scope)) with
      | .error message =>
          let text := Utf8.lossy message
          return .error (.malformed text (Syntax.saysIncomplete text))
      | .ok function => return .ok function

/-- Run a script: how it has ended when it has failed. -/
def runScript (setting : Setting) (source : Bytes) : Run (Option Ending) := do
  match ← loadForHost setting source with
  | .error failure => return some (.failed failure)
  | .ok function =>
      match ← callForHost function #[] with
      | .ok _ => return none
      | .error ending => return some ending

/-- Run a script of the session; a failure is published. -/
def execute (setting : Setting) (source : Bytes) : Run Unit := do
  match ← runScript setting source with
  | none => return
  | some ending => Run.modify fun s => s.emit (.published ending.message)

end Hosted

open Hosted in
/-- The methods of the adapter. -/
def runAdapter (method : AdapterMethod) : Function := fun _ arguments => do
  match method with
  | .failureText => failureText (argument arguments 1)
  | .field =>
      return #[← Run.index .library Expr.unnamed (argument arguments 1) (argument arguments 2)]
  | .write => write (← takeArguments arguments.toList #[])
  | .flush =>
      let ref ← receiver "flush" (← takeArguments arguments.toList #[])
      return #[.handle ref]
  | .setvbuf =>
      let ref ← receiver "setvbuf" (← takeArguments arguments.toList #[])
      return #[.handle ref]
  | .close =>
      let ref ← receiver "close" (← takeArguments arguments.toList #[])
      return #[.handle ref]

open Hosted in
/-- The functions that a host binds. -/
def runHost (function : HostFunction) (setting : Setting) : Function := fun _ arguments => do
  match function with
  | .panic text => raisePanic text
  | .fail failure => Packages.raiseFailure failure
  | .echo => takeArguments arguments.toList #[]
  | function =>
      let first := argument (← takeArguments [argument arguments 1] #[]) 1
      match function with
      | .wantInteger =>
          let n ← convert none 1 first Conversion.integer64
          return #[.int (Int64.ofInt n)]
      | .wantText =>
          let text ← convert none 1 first Conversion.text
          return #[.ofString text]
      | .call =>
          match ← callForHost (← convert none 1 first Conversion.function) #[] with
          | .ok values => return values
          | .error (.failed failure) => Packages.raiseFailure failure
          | .error (.panicked text) => raisePanic text
      | .publish =>
          let text ← convert none 1 first Conversion.text
          Run.modify fun s => s.emit (.published text)
          return #[]
      | _ =>
          let text ← convert none 1 first Conversion.text
          execute setting text.toUTF8
          return #[]

end LuaSession.Library
