import LuaSession.Bootstrap
import LuaSession.HostError
import LuaSession.Library.Opening
import LuaSession.Machine.Run

/-!
# Sessions

A session runs scripts one after the other in one scope. Free names that a
script assigns land in the scope and stay; what the scope does not have is
looked up among the globals. Whatever a script writes, and why it has failed, is
given out as messages in the order in which it happens; running a script never
fails otherwise.
-/

namespace LuaSession

open LuaSession.Script

/-- A session of scripts. -/
structure Session where
  interpreter : Interpreter
  setting : Setting := {}
  /-- Has the first script made output go to the adapter? -/
  isRedirected : Bool := false
  deriving Inhabited

/-- A result, with the messages given out on the way and the session after. -/
structure Outcome (α : Type) where
  value : α
  messages : List String
  session : Session

namespace Session

/-- The store of a session. -/
def store (session : Session) : Store := session.interpreter.store

/-- The name that messages show for the session's scripts. -/
def chunkName (session : Session) : String := session.setting.chunkName

/-- Change the store of a session. -/
def modifyStore (session : Session) (f : Store → Store) : Session :=
  { session with interpreter := { session.interpreter with store := f session.interpreter.store } }

/-- A session that sees the files of a disk. -/
def withDisk (session : Session) (disk : Disk) : Session :=
  session.modifyStore (·.withDisk disk)

/-- Perform a computation in a session and take its messages. -/
def perform {α : Type} (session : Session) (run : Run α) : Outcome (Except Raised α) :=
  let { interpreter, setting, isRedirected } := session
  let (value, { store, threads }) := interpreter.perform run
  let messages := store.world.emitted.toList.map Emission.text
  let interpreter : Interpreter := { store := store.delivered, threads }
  { value, messages, session := { interpreter, setting, isRedirected } }

/-- The failure that there is no memory. -/
def noMemory : Failure := .memory Machine.memoryMessage

/-- Run a script under a name: why it has failed, if it has. -/
def run (session : Session) (chunkName : String) (source : String) : Outcome (Option String) :=
  let outcome := session.perform
    (Library.Hosted.runScript { session.setting with chunkName } source.toUTF8)
  let value := match outcome.value with
    | .ok ending => ending.map Library.Hosted.Ending.message
    | .error _ => some noMemory.describe
  { outcome with value }

/-- Run a script: the messages, of which the last one says why it has failed, if
it has. -/
def execute (session : Session) (source : String) : Outcome Unit :=
  let outcome := session.run session.chunkName source
  { outcome with value := (), messages := outcome.messages ++ outcome.value.toList }

/-- Close a session: every value that has a finalizer is finalized. -/
def close (session : Session) : Outcome Unit :=
  let run : Run Unit := do
    let values ← Run.read (·.finalizable)
    Run.modify fun s => { s with finalizable := [] }
    Library.Basic.finalizeAll values
  let outcome := session.perform run
  { outcome with value := () }

/-- Make the scope of a session, with the adapter in it. -/
def makeScope (s : Store) : Store :=
  let (fallback, s) := Library.Opening.makeTable [("__index", .table s.registry.globals)] s
  let (adapter, s) := s.newResource .adapter
  let (scope, s) := Library.Opening.makeTable [(Bootstrap.outputBinding, .handle adapter)] s
  let s := s.modifyTable scope fun t => { t with metatable := some fallback }
  { s with scope, assigned := [⟨.ofString Bootstrap.outputBinding, .handle adapter⟩] }

/-- A store with open libraries and a scope; it fails when that takes more memory
than there may be. -/
def openStore (settings : Settings) : Except HostError Store :=
  let start : Store := { limit := settings.memoryLimit }
  let s := makeScope (Library.openLibraries settings.libraries start)
  match settings.memoryLimit with
  | some limit => if s.charge > limit then .error (.scope noMemory) else .ok s
  | none => .ok s

/-- Open a session and run its first script. When that fails, the session is
there all the same; nothing is said about the failure. -/
def create (settings : Settings) (bootstrap : String) : Except HostError (Outcome Unit) := do
  let store ← openStore settings
  let setting : Setting := { chunkName := settings.chunkName, scope := store.scope }
  let outcome := ({ interpreter := { store }, setting } : Session).run Bootstrap.chunkName bootstrap
  return {
    value := ()
    messages := outcome.messages
    session := { outcome.session with isRedirected := outcome.value.isNone } }

/-- Open a session with its standard first script. -/
def «open» (settings : Settings) : Except HostError (Outcome Unit) :=
  create settings Bootstrap.text

end Session

end LuaSession
