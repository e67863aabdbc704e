import LuaSession.Library.Loading

/-!
# The library of packages

`require` asks searchers for a module one after the other: whether it is
preloaded, and whether there is a script file for it. Modules that are no
scripts are never loaded.
-/

namespace LuaSession.Library

open LuaSession.Script

namespace Packages

/-- Where script files of modules are looked for. -/
def standardPath : String :=
  "/usr/local/share/lua/5.4/?.lua;/usr/local/share/lua/5.4/?/init.lua;" ++
  "/usr/local/lib/lua/5.4/?.lua;/usr/local/lib/lua/5.4/?/init.lua;./?.lua;./?/init.lua"

/-- Where modules that are no scripts would be looked for. -/
def standardNativePath : String :=
  "/usr/local/lib/lua/5.4/?.so;/usr/local/lib/lua/5.4/loadall.so;./?.so"

/-- The signs that paths are made of. -/
def configuration : String := "/\n;\n?\n!\n-\n"

/-- Replace every occurrence of a mark that is not empty. -/
def replace (mark piece : List UInt8) : (fuel : Nat) → List UInt8 → List UInt8
  | 0, bytes => bytes
  | _, [] => []
  | fuel + 1, b :: rest =>
      if mark.isPrefixOf (b :: rest) then
        piece ++ replace mark piece fuel ((b :: rest).drop mark.length)
      else b :: replace mark piece fuel rest

/-- Replace every occurrence of a mark. -/
def replaceAll (bytes mark piece : Bytes) : Bytes :=
  (replace mark.toList piece.toList (bytes.size + 1) bytes.toList).toByteArray

/-- The parts of a path. -/
def parts (path : List UInt8) : List (List UInt8) :=
  let step (b : UInt8) (acc : List (List UInt8)) : List (List UInt8) :=
    match acc with
    | part :: rest => if b == 0x3B then [] :: part :: rest else (b :: part) :: rest
    | [] => [[b]]
  if path.isEmpty then [] else path.foldr step [[]]

/-- Is there a file that can be opened? -/
def isReadable (disk : Disk) (name : Bytes) : Bool :=
  match disk.resolve name with
  | .file name => (disk.place? name).isSome
  | .directory | .sink => true
  | .error _ => false

/-- The first file of a path that can be opened, or a message that none can. -/
def searchPath (disk : Disk) (name path mark piece : Bytes) : Except Bytes Bytes :=
  let name := Syntax.beforeZero name
  let mark := Syntax.beforeZero mark
  let found := match mark.toList.head? with
    | some b => name.toList.contains b
    | none => false
  let name := if found then replaceAll name mark (Syntax.beforeZero piece) else name
  let path := replaceAll (Syntax.beforeZero path) "?".toUTF8 name
  match (parts path.toList).find? fun part => isReadable disk part.toByteArray with
  | some part => .ok part.toByteArray
  | none =>
      .error ("no file '".toUTF8 ++ replaceAll path ";".toUTF8 "'\n\tno file '".toUTF8 ++
        "'".toUTF8)

/-- A field of the library. -/
def field (name : String) : Run Value := Run.read fun s =>
  match s.registry.package with
  | some ref => (s.table ref).getString name
  | none => .nil

/-- Ask the searchers from `index` on for a module; `message` tells what the
others have not found. -/
def askSearchers (caller : Caller) (searchers : Nat) (name : Bytes) :
    (fuel index : Nat) → (message : Bytes) → Run (Value × Value)
  | 0, _, _ => return (.nil, .nil)
  | fuel + 1, index, message => do
      let searcher ← Run.read fun s => (s.table searchers).get (.ofNat index)
      if searcher.isNil then
        caller.failBytes ("module '".toUTF8 ++ Syntax.beforeZero name ++ "' not found:".toUTF8 ++
          Syntax.beforeZero message)
      else
        let results ← Run.callLibrary searcher #[.str name]
        let first := results.getD 0 .nil
        if first.isFunction then return (first, results.getD 1 .nil)
        else
          let message := match first.toBytes? with
            | some words => message ++ "\n\t".toUTF8 ++ words
            | none => message
          askSearchers caller searchers name fuel (index + 1) message

/-- How many searchers are asked at most. -/
def searcherLimit : Nat := 1 <<< 40

/-- Load a module unless it is loaded. -/
def require : Function := fun caller arguments => do
  let name ← bytesArgument caller arguments 1
  let loaded ← Run.read (·.registry.loaded)
  let key := Value.str name
  let known ← Run.index .library Expr.unnamed (.table loaded) key
  if known.truthy then return #[known]
  else
    match ← field "searchers" with
    | .table searchers =>
        let (loader, data) ← askSearchers caller searchers name searcherLimit 1 ByteArray.empty
        let results ← Run.callLibrary loader #[key, data]
        let result := firstOf results
        if !result.isNil then
          Run.assign .library Expr.unnamed (.table loaded) key result
        let value ← Run.index .library Expr.unnamed (.table loaded) key
        if value.isNil then
          Run.assign .library Expr.unnamed (.table loaded) key (.bool true)
          return #[.bool true, data]
        else return #[value, data]
    | _ => caller.fail "'package.searchers' must be a table"

/-- What is said about every module that is no script. -/
def noNative : String := "\n\tcan't load C modules in safe mode"

/-- Why a library of the host is not linked. -/
def noLinking : Failure := .safety "package.loadlib is disabled in safe mode"

/-- Raise a failure of the host's as a value that passes through scripts. -/
def raiseFailure {α : Type} (failure : Failure) : Run α := do
  let wrapped := Failure.callback (Failure.tracebackMark ++ "\n\t[C]: in ?") failure
  let ref ← Run.update fun s => s.newResource (.failure wrapped)
  Run.raise (.handle ref)

end Packages

open Packages in
/-- The functions of the library of packages. -/
def runPackage (function : PackageFunction) : Function := fun caller arguments => do
  match function with
  | .loadlib => raiseFailure noLinking
  | .searchpath =>
      let name ← bytesArgument caller arguments 1
      let path ← bytesArgument caller arguments 2
      let mark ← optionalBytes caller arguments 3 ".".toUTF8
      let piece ← optionalBytes caller arguments 4 "/".toUTF8
      let disk ← Run.read fun s => s.world.disk
      match searchPath disk name path mark piece with
      | .ok file => return #[.str file]
      | .error message => return softFailure message
  | .searchPreload =>
      let name ← bytesArgument caller arguments 1
      let preload ← Run.read (·.registry.preload)
      let loader ← Run.index .library Expr.unnamed (.table preload) (.str name)
      if loader.isNil then
        return #[.str ("no field package.preload['".toUTF8 ++ Syntax.beforeZero name ++
          "']".toUTF8)]
      else return #[loader, .ofString ":preload:"]
  | .searchScript =>
      let name ← bytesArgument caller arguments 1
      match (← field "path").toBytes? with
      | none => caller.fail "'package.path' must be a string"
      | some path =>
          let disk ← Run.read fun s => s.world.disk
          match searchPath disk name path ".".toUTF8 "/".toUTF8 with
          | .error message => return #[.str message]
          | .ok file =>
              match ← Loading.loadFile (some file) Loading.anyMode none with
              | .ok function => return #[function, .str file]
              | .error message =>
                  caller.failBytes ("error loading module '".toUTF8 ++ Syntax.beforeZero name ++
                    "' from file '".toUTF8 ++ file ++ "':\n\t".toUTF8 ++ message)
  | .searchNative => return #[.ofString noNative]

end LuaSession.Library
