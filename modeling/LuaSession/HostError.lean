import LuaSession.Document.Reader
import LuaSession.Failure
import LuaSession.Script.Disk
import LuaSession.Settings

/-!
# Errors of the host

What can go wrong outside of the scripts: a session cannot be opened, a value
cannot be read from its scope, a file cannot be read, the settings do not fit.
-/

namespace LuaSession

/-- Why a file cannot be read as text. -/
inductive ReadError where
  | disk (error : Script.DiskError)
  | notText
  deriving DecidableEq, Repr

/-- The wording of why a file cannot be read as text. -/
def ReadError.message : ReadError → String
  | .disk error => s!"{error.message} (os error {error.number})"
  | .notText => "stream did not contain valid UTF-8"

/-- An error of the host. -/
inductive HostError where
  /-- No engine for scripts can be made. -/
  | engine (failure : Failure)
  /-- The scope of the session cannot be made. -/
  | scope (failure : Failure)
  /-- A value of the scope cannot be read. -/
  | script (failure : Failure)
  /-- The settings are no document. -/
  | document
  | read (error : ReadError)
  | settings (error : SettingsError)
  deriving DecidableEq, Repr

namespace HostError

/-- The wording of a text that is no document. -/
def noDocument : String := "Failed to parse KDL document"

/-- The wording of an error. -/
def message : HostError → String
  | .engine failure => "Failed to start script engine: " ++ failure.text
  | .scope failure => "Failed to create session scope: " ++ failure.text
  | .script failure => "Lua error: " ++ failure.text
  | .document => "KDL parse error: " ++ noDocument
  | .read error => "IO error: " ++ error.message
  | .settings error => "Invalid config: " ++ error.message

/-- The wording of what has caused an error, if something else has. -/
def cause? : HostError → Option String
  | .engine failure | .scope failure | .script failure => some failure.text
  | .document => some noDocument
  | .read error => some error.message
  | .settings _ => none

end HostError

namespace Settings

/-- The settings that a text describes. -/
def ofText (text : String) : Except HostError Settings :=
  match Document.read? text with
  | none => .error .document
  | some document =>
      match ofDocument document with
      | .ok settings => .ok settings
      | .error error => .error (.settings error)

/-- The settings that a file's contents describe. -/
def ofBytes (bytes : Bytes) : Except HostError Settings :=
  match Utf8.decode? bytes with
  | some text => ofText text
  | none => .error (.read .notText)

/-- The settings that a file describes. -/
def ofFile (contents : Except Script.DiskError Bytes) : Except HostError Settings :=
  match contents with
  | .ok bytes => ofBytes bytes
  | .error error => .error (.read (.disk error))

end Settings

end LuaSession
