import LuaSession.Document

/-!
# Session settings

The settings of a session are fixed when it is opened: which libraries scripts
see, how much memory they may use, and the name that error locations carry.

`Settings.ofDocument` takes them from the children of the first top-level node
named `engine`. The children are read in order: the last setting of a key
stands, the first child that does not fit is the error.
-/

namespace LuaSession

/-- Which standard libraries a session opens. -/
inductive Libraries where
  /-- All of them. -/
  | safe
  /-- Those that only compute: no files, no operating system, no packages. -/
  | core
  deriving DecidableEq, Repr, Inhabited

namespace Libraries

/-- The name of a library set. -/
def name : Libraries → String
  | .safe => "safe"
  | .core => "core"

/-- The library set of a name. -/
def ofName? : String → Option Libraries
  | "safe" => some .safe
  | "core" => some .core
  | _ => none

@[simp] theorem ofName?_name (libraries : Libraries) :
    ofName? libraries.name = some libraries := by
  cases libraries <;> rfl

end Libraries

/-- The settings of a session. -/
structure Settings where
  libraries : Libraries := .safe
  /-- The most bytes that scripts may hold; `none` for no limit. -/
  memoryLimit : Option Nat := none
  /-- The name that error locations carry. -/
  chunkName : String := "snippet"
  deriving DecidableEq, Repr, Inhabited

/-- Why a child of the `engine` node does not fit. -/
inductive SettingsError where
  /-- The child has no positional argument. -/
  | needsValue (key : String)
  /-- The value has another type than the key wants. -/
  | expects (key wanted : String) (got : Scalar)
  | outOfRange (key : String) (value : Int)
  | emptyName
  | unknownLibraries (name : String)
  deriving DecidableEq, Repr

namespace Scalar

/-- The word for the type of a value. -/
def typeName : Scalar → String
  | .string _ => "string"
  | .integer _ => "integer"
  | .float _ => "float"
  | .bool _ => "bool"
  | .null => "null"

end Scalar

namespace SettingsError

/-- The wording of an error in the settings. -/
def message : SettingsError → String
  | .needsValue key => s!"'{key}' needs a value"
  | .expects key wanted got => s!"'{key}' expects {wanted}, got {got.typeName}"
  | .outOfRange key value => s!"'{key}' out of range: {value}"
  | .emptyName => "'chunk-name' is empty"
  | .unknownLibraries name =>
      s!"unknown library set '{name}', expected \"safe\" or \"core\""

end SettingsError

namespace Settings

/-- The key of the library set. -/
def librariesKey : String := "libraries"

/-- The key of the memory limit. -/
def memoryLimitKey : String := "memory-limit"

/-- The key of the chunk name. -/
def chunkNameKey : String := "chunk-name"

/-- The node that holds the settings. -/
def nodeName : String := "engine"

/-- Memory limits stay below this bound. -/
def memoryBound : Nat := UInt64.size

/-- The text of a string value. -/
def expectString (key : String) : Scalar → Except SettingsError String
  | .string text => .ok text
  | value => .error (.expects key "string" value)

/-- The number of an integer value. -/
def expectInteger (key : String) : Scalar → Except SettingsError Int
  | .integer value => .ok value
  | value => .error (.expects key "integer" value)

/-- The library set that a value names. -/
def readLibraries (value : Scalar) : Except SettingsError Libraries := do
  let name ← expectString librariesKey value
  match Libraries.ofName? name with
  | some libraries => .ok libraries
  | none => .error (.unknownLibraries name)

/-- The memory limit that a value stands for; zero is no limit. -/
def readMemoryLimit (value : Scalar) : Except SettingsError (Option Nat) := do
  let bytes ← expectInteger memoryLimitKey value
  if 0 ≤ bytes ∧ bytes < memoryBound then
    .ok (if bytes = 0 then none else some bytes.toNat)
  else .error (.outOfRange memoryLimitKey bytes)

/-- The chunk name that a value stands for. -/
def readChunkName (value : Scalar) : Except SettingsError String := do
  let name ← expectString chunkNameKey value
  if name.isEmpty then .error .emptyName else .ok name

/-- Take one child of the settings node into account. Keys that mean nothing
here still need a value. -/
def apply (settings : Settings) (child : Node) : Except SettingsError Settings :=
  match child.firstArgument? with
  | none => .error (.needsValue child.name)
  | some value =>
      if child.name = librariesKey then
        return { settings with libraries := ← readLibraries value }
      else if child.name = memoryLimitKey then
        return { settings with memoryLimit := ← readMemoryLimit value }
      else if child.name = chunkNameKey then
        return { settings with chunkName := ← readChunkName value }
      else return settings

/-- The block of the first top-level node with the settings' name. -/
def block (document : Document) : List Node :=
  match document.find? fun node => node.name == nodeName with
  | some node => node.children.getD []
  | none => []

/-- The settings that a document describes. -/
def ofDocument (document : Document) : Except SettingsError Settings :=
  (block document).foldlM apply {}

end Settings

end LuaSession
