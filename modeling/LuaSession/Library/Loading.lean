import LuaSession.Library.Files
import LuaSession.Script.Compiled
import LuaSession.Syntax.Chunk

/-!
# Loading scripts

A text becomes a function: a script is read, a compiled script is looked up. The
function's environment is the table of globals unless it is given another one.
-/

namespace LuaSession.Library

open LuaSession.Script

namespace Loading

/-- New variables for a function; the first one holds its environment. -/
def newCells (s : Store) (environment : Option Value) (count : Nat) : Array Nat × Store :=
  (List.range count).foldl
    (fun (acc : Array Nat × Store) i =>
      let (cells, s) := acc
      let (cell, s) := s.newCell
        (if i == 0 then environment.getD (.table s.registry.globals) else .nil)
      (cells.push cell, s))
    (#[], s)

/-- A closure whose variables are new; the first one holds its environment, which
is the table of globals if no other is given. -/
def closureOf (s : Store) (code : Code) (environment : Option Value) : Value × Store :=
  let (captured, s) := newCells s environment code.info.captures.size
  let (ref, s) := s.newClosure { code, captured }
  (.closure ref, s)

/-- How a message names a compiled script. -/
def compiledName (name : Bytes) : Bytes :=
  match name.toList with
  | b :: _ =>
      if b == 0x40 || b == 0x3D then Syntax.beforeZero (name.extract 1 name.size)
      else if b == 0x1B then "binary string".toUTF8
      else Syntax.beforeZero name
  | [] => name

/-- How deep the host's calls are nested here. -/
def currentDepth : Run Nat := do
  let values ← Run.askValues .depth
  match firstOf values with
  | .int n => return n.toInt.toNat
  | _ => return 0

/-- Refuse a kind of script that the mode does not have. -/
def modeError? (mode : Bytes) (kind : String) : Option Bytes :=
  if (kind.toUTF8.toList.head?.map mode.toList.contains).getD false then none
  else some (s!"attempt to load a {kind} chunk (mode is '".toUTF8 ++ Syntax.beforeZero mode ++
    "')".toUTF8)

/-- Make a function of a text: the function or a message. -/
def load (name mode bytes : Bytes) (environment : Option Value) : Run (Except Bytes Value) := do
  if Syntax.isCompiled bytes then
    match modeError? mode "binary" with
    | some message => return .error message
    | none =>
        match ← Run.read fun s => Compiled.decode s bytes with
        | .ok code => return .ok (← Run.update fun s => closureOf s code environment)
        | .error why =>
            return .error (compiledName name ++ s!": bad binary format ({why})".toUTF8)
  else
    match modeError? mode "text" with
    | some message => return .error message
    | none =>
        let depth ← currentDepth
        let chunk := Syntax.shownName name
        match Syntax.readScript chunk depth bytes with
        | .ok code => return .ok (← Run.update fun s => closureOf s code environment)
        | .error trouble => return .error (trouble.message chunk)

/-- The mode that allows both kinds of scripts. -/
def anyMode : Bytes := "bt".toUTF8

/-- Drop the mark of UTF-8 texts from the front. -/
def dropMark (bytes : List UInt8) : List UInt8 :=
  match bytes with
  | 0xEF :: 0xBB :: 0xBF :: rest => rest
  | bytes => bytes

/-- A script file as a text: a first line that begins with `#` is left out, and
its end stays. -/
def sourceOf (bytes : Bytes) : Bytes :=
  let body := dropMark bytes.toList
  match body with
  | 0x23 :: _ =>
      let rest := body.dropWhile (· != 0x0A)
      match rest.drop 1 with
      | 0x1B :: more => (0x1B :: more).toByteArray
      | _ => if rest.isEmpty then "\n".toUTF8 else rest.toByteArray
  | body => body.toByteArray

/-- Read a script file, or standard input. -/
def readSource (name : Option Bytes) : Run (Except Bytes (Bytes × Bytes)) := do
  match name with
  | none =>
      let ref ← Run.read fun s => s.registry.standardInput
      let value ← Files.readAll ref
      return .ok ("=stdin".toUTF8, sourceOf (value.toBytes?.getD ByteArray.empty))
  | some name =>
      let failed (what : String) (error : DiskError) : Except Bytes (Bytes × Bytes) :=
        .error (s!"cannot {what} ".toUTF8 ++ name ++ s!": {error.message}".toUTF8)
      let disk ← Run.read fun s => s.world.disk
      match disk.resolve name with
      | .error error => return failed "open" error
      | .directory => return failed "read" .isDirectory
      | .sink => return .ok ("@".toUTF8 ++ name, ByteArray.empty)
      | .file file =>
          match disk.contentsOf? file with
          | some bytes => return .ok ("@".toUTF8 ++ name, sourceOf bytes)
          | none => return failed "open" .missing

/-- Make a function of a script file. -/
def loadFile (name : Option Bytes) (mode : Bytes) (environment : Option Value) :
    Run (Except Bytes Value) := do
  match ← readSource name with
  | .error message => return .error message
  | .ok (chunk, bytes) => load chunk mode bytes environment

/-- What a loading function gives: the function, or `nil` and a message. -/
def answer (result : Except Bytes Value) : Array Value :=
  match result with
  | .error message => softFailure message
  | .ok function => #[function]

/-- Collect the pieces that a function gives until it gives nothing. -/
def readPieces (caller : Caller) (reader : Value) : (fuel : Nat) → (done : Bytes) →
    Run (Except Value Bytes)
  | 0, done => return .ok done
  | fuel + 1, done => do
      match ← Run.ask (.protect .none true reader #[]) with
      | .caught value _ => return .error value
      | .returned values =>
          match firstOf values with
          | .nil => return .ok done
          | value =>
              match value.toBytes? with
              | some piece =>
                  if piece.size == 0 then return .ok done
                  else readPieces caller reader fuel (done ++ piece)
              | none =>
                  return .error (.str (caller.position ++
                    "reader function must return a string".toUTF8))
      | _ => return .ok done

/-- How many pieces a script may come in. -/
def pieceLimit : Nat := 10000000

end Loading

end LuaSession.Library
