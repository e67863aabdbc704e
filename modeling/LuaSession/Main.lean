import LuaSession.CommandLine
import Std.Time.DateTime.Timestamp

/-!
# The program

`main` gathers what the program can see: the files of the current directory and
those named by the arguments, the clock, a seed and the standard input. It shows
what `CommandLine.run` leaves behind, and puts changed files back.

A terminal is answered line by line. A snippet that wants more than has been
typed is run again from its beginning when there is more, so that what it reads
is what `CommandLine.run` would give it.
-/

namespace LuaSession.CommandLine

open LuaSession.Script

/-- What a file holds, if it can be read. -/
def readable? (path : String) : IO (Option Bytes) := do
  try return some (← IO.FS.readBinFile path) catch _ => return none

/-- The files of the current directory, and those that the arguments name. -/
def gather (arguments : List String) : IO Disk := do
  let named := match Plan.ofArguments arguments with
    | .ok plan => plan.config.toList ++ plan.files.toList
    | .error _ => []
  let present := (← (← IO.currentDir).readDir).toList.map (·.fileName)
  let mut disk : Disk := {}
  for path in (present ++ named).eraseDups do
    if let some bytes ← readable? path then
      disk := disk.putFile path.toUTF8 bytes
  return disk

/-- Put files back: those that have changed, and none of those that are gone. -/
def restore (before after : Disk) : IO Unit := do
  for (name, _) in after.names do
    let bytes? := after.contentsOf? name
    if before.contentsOf? name != bytes? then
      if let (some path, some bytes) := (String.fromUTF8? name, bytes?) then
        IO.FS.writeBinFile path bytes
  for (name, _) in before.names do
    if (after.place? name).isNone then
      if let some path := String.fromUTF8? name then IO.FS.removeFile path

/-- The world as it is now. -/
def surroundings (arguments : List String) : IO World := do
  let disk ← gather arguments
  let seed ← IO.getRandomBytes 16
  let word (bytes : Bytes) : UInt64 := bytes.foldl (fun word b => word * 256 + b.toUInt64) 0
  let now ← Std.Time.Timestamp.now
  return {
    disk
    random := RandomState.ofSeeds (word (seed.extract 0 8)) (word (seed.extract 8 16))
    now := now.toSecondsSinceUnixEpoch.val }

/-- How much has been shown of the two streams. -/
structure Shown where
  output : Nat := 0
  errors : Nat := 0

/-- Show what is new in a text of which a part has been shown. -/
def showRest (stream : IO.FS.Stream) (shown : Nat) (text : String) : IO Nat := do
  stream.write (text.toUTF8.extract shown text.utf8ByteSize)
  stream.flush
  return text.utf8ByteSize

/-- Show what is new. -/
def Shown.showNew (shown : Shown) (output errors : String) : IO Shown := do
  return {
    output := ← showRest (← IO.getStdout) shown.output output
    errors := ← showRest (← IO.getStderr) shown.errors errors }

/-- Show what is new of a place. -/
def Workplace.showNew (place : Workplace) (shown : Shown) : IO Shown :=
  shown.showNew place.console.transcript.text place.errors

/-- A line that is typed, or nothing at the end. -/
def typedLine : IO (Except ReadError String) := do
  try return .ok (← (← IO.getStdin).getLine) catch _ => return .error .notText

/-- Do something that may read what is typed. One line break more than has been
typed is offered: as long as it is taken, another line is wanted. Gives what is
left of the lines. -/
partial def withTyped (typed : Bytes) (place : Workplace) (act : Workplace → α × Workplace) :
    IO (Bytes × α × Workplace) := do
  let (result, after) := act (place.offer (typed ++ "\n".toUTF8))
  let position := after.world.inputPosition
  if position ≤ typed.size then
    return (typed.extract position typed.size, result, after)
  else
    match ← typedLine with
    | .ok "" =>
        let (result, after) := act (place.offer typed)
        return (typed.extract after.world.inputPosition typed.size, result, after)
    | .ok line => withTyped (typed ++ line.toUTF8) place act
    | .error _ => withTyped typed place act

/-- Talk at a terminal until the lines end or one of them ends the conversation. -/
partial def talkAtTerminal (held : String) (typed : Bytes) (shown : Shown) (place : Workplace) :
    IO (Shown × Option ReadError × Workplace) := do
  let place := place.step (·.ask true held)
  let shown ← place.showNew shown
  match ← typedLine with
  | .error error => return (shown, some error, place)
  | .ok "" =>
      let (_, _, place) ← withTyped typed place fun place => ((), place.step (·.finish held))
      return (shown, none, place)
  | .ok line =>
      let (typed, held, place) ← withTyped typed place (·.hear held line)
      match held with
      | none => return (shown, none, place)
      | some held => talkAtTerminal held typed shown place

/-- Run script files in front of a terminal, one after the other. -/
def runAtTerminal : (files : List String) → Bytes → Shown → Workplace →
    IO (Shown × Option ReadError × Workplace)
  | [], typed, shown, place => talkAtTerminal "" typed shown place
  | file :: rest, typed, shown, place => do
      let (typed, _, place) ← withTyped typed place fun place => ((), place.runFile file)
      runAtTerminal rest typed (← place.showNew shown) place

end LuaSession.CommandLine

open LuaSession LuaSession.CommandLine in
/-- Run the program. -/
def main (arguments : List String) : IO UInt32 := do
  let world ← surroundings arguments
  let stdin ← IO.getStdin
  let (shown, result) ←
    if ← stdin.isTty then
      match start arguments world with
      | .error result => pure ({}, result)
      | .ok (files, place) =>
          let (shown, error, place) ← runAtTerminal files ByteArray.empty {} place
          pure (shown, finish place error)
    else
      let input ← stdin.readBinToEnd
      pure ({}, run arguments { world with input } false)
  let _ ← Shown.showNew shown result.output result.errors
  restore world.disk result.disk
  return result.code.toUInt32
