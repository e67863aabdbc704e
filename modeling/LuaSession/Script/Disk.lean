import LuaSession.Text.Utf8

/-!
# Files

The files that scripts see: one directory of named files. A file that is open
stays what it is when its name is taken away or given to another file, so names
lead to places, and places hold contents.

Output to a file is held back until there is a block of it, until it is flushed,
or until the file is closed.
-/

namespace LuaSession.Script

/-- The files of a directory. -/
structure Disk where
  /-- The names in the directory and the places they lead to. -/
  names : List (Bytes × Nat) := []
  /-- What the files hold. -/
  contents : Array Bytes := #[]
  deriving Inhabited

/-- Why a file cannot be opened or changed. -/
inductive DiskError where
  | missing
  | isDirectory
  | notDirectory
  | invalid
  | notOpenForThis
  | illegalSeek
  deriving DecidableEq, Repr

namespace DiskError

/-- The wording of an error. -/
def message : DiskError → String
  | .missing => "No such file or directory"
  | .isDirectory => "Is a directory"
  | .notDirectory => "Not a directory"
  | .invalid => "Invalid argument"
  | .notOpenForThis => "Bad file descriptor"
  | .illegalSeek => "Illegal seek"

/-- The number of an error. -/
def number : DiskError → Nat
  | .missing => 2
  | .isDirectory => 21
  | .notDirectory => 20
  | .invalid => 22
  | .notOpenForThis => 9
  | .illegalSeek => 29

end DiskError

namespace Disk

/-- What a path names. -/
inductive Target where
  | file (name : Bytes)
  | directory
  /-- The file that takes everything and gives nothing. -/
  | sink
  | error (error : DiskError)

/-- The parts of a path that matter: those that are neither empty nor `.`. -/
def pathParts (path : Bytes) : List Bytes :=
  let rec go : List UInt8 → List UInt8 → List (List UInt8)
    | current, [] => [current.reverse]
    | current, b :: rest =>
        if b == 0x2F then current.reverse :: go [] rest else go (b :: current) rest
  ((go [] path.toList).map List.toByteArray).filter fun part =>
    part.size > 0 && part != ".".toUTF8

/-- What a path names. A file that is known by the whole path is found first. -/
def resolve (disk : Disk) (path : Bytes) : Target :=
  let slashAtEnd := path.toList.getLast? == some 0x2F
  if path.size == 0 then .error .missing
  else if (disk.names.lookup path).isSome then .file path
  else if path.toList.head? == some 0x2F then
    match pathParts path with
    | [] => .directory
    | [part] => if part == "tmp".toUTF8 then .directory else .error .missing
    | [first, second] =>
        if first == "dev".toUTF8 && second == "null".toUTF8 then .sink
        else if first == "tmp".toUTF8 then .file ("/tmp/".toUTF8 ++ second)
        else .error .missing
    | _ => .error .missing
  else
    match pathParts path with
    | [] => .directory
    | [part] =>
        if part == "..".toUTF8 then .directory
        else if slashAtEnd then
          .error (if (disk.names.lookup part).isSome then .notDirectory else .missing)
        else .file part
    | part :: _ =>
        .error (if (disk.names.lookup part).isSome then .notDirectory else .missing)

/-- The place that a name leads to. -/
def place? (disk : Disk) (name : Bytes) : Option Nat := disk.names.lookup name

/-- What stands at a place. -/
def contentsAt (disk : Disk) (place : Nat) : Bytes := disk.contents.getD place ByteArray.empty

/-- Put contents at a place. -/
def setContents (disk : Disk) (place : Nat) (bytes : Bytes) : Disk :=
  { disk with contents := disk.contents.setIfInBounds place bytes }

/-- Give a name to a new file. -/
def create (disk : Disk) (name bytes : Bytes) : Disk × Nat :=
  ({ names := (name, disk.contents.size) :: disk.names.filter fun entry => entry.1 != name
     contents := disk.contents.push bytes }, disk.contents.size)

/-- A new file without a name. -/
def createUnnamed (disk : Disk) : Disk × Nat :=
  ({ disk with contents := disk.contents.push ByteArray.empty }, disk.contents.size)

/-- Write a whole file; an old file of the name is overwritten. -/
def putFile (disk : Disk) (name bytes : Bytes) : Disk :=
  match disk.place? name with
  | some place => disk.setContents place bytes
  | none => (disk.create name bytes).1

/-- The contents of a named file. -/
def contentsOf? (disk : Disk) (name : Bytes) : Option Bytes :=
  (disk.place? name).map disk.contentsAt

/-- Take a name away. -/
def unlink (disk : Disk) (name : Bytes) : Disk :=
  { disk with names := disk.names.filter fun entry => entry.1 != name }

/-- Put bytes at a position; a gap before it is filled with zeros. -/
def splice (old : Bytes) (position : Nat) (bytes : Bytes) : Bytes :=
  if bytes.size == 0 then old
  else
    let gap := (List.replicate (position - old.size) (0 : UInt8)).toByteArray
    old.extract 0 position ++ gap ++ bytes ++ old.extract (position + bytes.size) old.size

end Disk

/-- Where the bytes of a file handle come from and go to. -/
inductive Stream where
  | disk (place : Nat)
  | input
  | output
  | errors
  | directory
  | sink
  deriving DecidableEq, Repr, Inhabited

/-- When output is written through. -/
inductive Buffering where
  | whole
  | lines
  | none
  deriving DecidableEq, Repr

/-- A file handle. -/
structure File where
  stream : Stream
  readable : Bool
  writable : Bool
  /-- Does output always go to the end? -/
  appends : Bool := false
  position : Nat := 0
  /-- Output that is held back. -/
  pending : Bytes := ByteArray.empty
  buffering : Buffering := .whole
  closed : Bool := false
  /-- Is it one of the files that every session has? They cannot be closed. -/
  standard : Bool := false
  deriving Inhabited

/-- How much output is held back at most. -/
def File.blockSize : Nat := 4096

end LuaSession.Script
