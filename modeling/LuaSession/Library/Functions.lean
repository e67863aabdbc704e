import LuaSession.Library.Basic
import LuaSession.Library.CodePoints
import LuaSession.Library.Coroutines
import LuaSession.Library.Hosted
import LuaSession.Library.Mathematics
import LuaSession.Library.Strings
import LuaSession.Library.Tables

/-!
# What functions do that are not written in a script
-/

namespace LuaSession.Library

open LuaSession.Script

/-- What a library function does. -/
def runBuiltin : Builtin → Function
  | .base .require => Packages.require
  | .base function => runBase function
  | .string function => runString function
  | .stringArithmetic op => runStringArithmetic op
  | .table function => runTable function
  | .math function => runMath function
  | .utf8 function => runUtf8 function
  | .coroutine function => runCoroutine function
  | .system function => runSystem function
  | .file function => runFile function
  | .fileMethod method => runFileMethod method
  | .package function => runPackage function
  | .adapter method => runAdapter method

/-- What a function with a state of its own does. -/
def runNative (ref : Nat) : Function := fun caller arguments => do
  match ← Run.read fun s => s.native ref with
  | .host function setting => runHost function setting caller arguments
  | .resumer thread => Coroutines.resumeWrapped caller thread arguments
  | .matches source pattern position lastEnd =>
      Strings.matchesStep caller ref source pattern position lastEnd
  | .lines file formats closes => Files.linesStep caller file formats closes

end LuaSession.Library
