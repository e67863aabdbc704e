import LuaSession.CommandLine.Arguments
import LuaSession.Console

/-!
# The command line

Script files are run in order in one session. The prompt follows when there are
no files, or when standard input is a terminal.
-/

namespace LuaSession.CommandLine

open LuaSession.Script

/-- What a program leaves behind. -/
structure Result where
  code : Nat
  output : String
  errors : String
  disk : Disk

/-- The report of an error that ends the program. -/
def report (message : String) (cause : Option String) : String :=
  let causes := match cause with
    | some cause => s!"\n\nCaused by:\n    {cause}"
    | none => ""
  s!"Error: {message}{causes}\n"

/-- The contents of a file. -/
def fileContents (disk : Disk) (path : String) : Except DiskError Bytes :=
  match disk.resolve path.toUTF8 with
  | .file name =>
      match disk.contentsOf? name with
      | some bytes => .ok bytes
      | none => .error .missing
  | .directory => .error .isDirectory
  | .sink => .ok ByteArray.empty
  | .error error => .error error

/-- The contents of a script file. -/
def fileText (disk : Disk) (path : String) : Except ReadError String :=
  match fileContents disk path with
  | .error error => .error (.disk error)
  | .ok bytes => Prompt.readLine bytes

/-- A console, and what has been written to the error stream. -/
structure Workplace where
  console : Console
  errors : String := ""

namespace Workplace

/-- Change the world of the session. -/
def modifyWorld (place : Workplace) (f : World → World) : Workplace :=
  { place with console := { place.console with
      session := place.console.session.modifyStore fun s => { s with world := f s.world } } }

/-- The world of the session. -/
def world (place : Workplace) : World := place.console.session.store.world

/-- Take over what scripts have written to the error stream. -/
def takeErrors (place : Workplace) : Workplace :=
  let written := Utf8.lossy place.world.errors
  { place.modifyWorld (fun world => { world with errors := ByteArray.empty }) with
    errors := place.errors ++ written }

/-- Let the console do something. -/
def step (place : Workplace) (f : Console → Console) : Workplace :=
  { place with console := f place.console }.takeErrors

/-- Run a script file; one that cannot be read is reported. -/
def runFile (place : Workplace) (path : String) : Workplace :=
  match fileText place.world.disk path with
  | .ok source => place.step (·.execute source)
  | .error error => { place with errors := place.errors ++ s!"{path}: {error.message}\n" }

/-- Set what scripts can read from standard input. -/
def offer (place : Workplace) (input : Bytes) : Workplace :=
  place.modifyWorld fun world => { world with input, inputPosition := 0 }

/-- How many lines of a typed text lie before a place, the one with the place in
it included. -/
def linesBefore : (place : Nat) → List Bytes → Nat
  | _, [] => 0
  | 0, _ => 0
  | place, line :: rest => 1 + linesBefore (place - line.size) rest

/-- Take what scripts have read off the typed lines: how many whole lines are
gone, and what is left of the last one of them. -/
def withdraw (place : Workplace) (carried : Bytes) (typed : List Bytes) : Nat × Bytes :=
  let position := place.world.inputPosition
  if position < carried.size then (0, carried.extract position carried.size)
  else
    let count := linesBefore (position - carried.size) typed
    let size := (typed.take count).foldl (fun n line => n + line.size) 0
    (count, place.world.input.extract position (carried.size + size))

/-- Take a line at a terminal: what is held after it, or `none` when it ends the
conversation. -/
def hear (held line : String) (place : Workplace) : Option String × Workplace :=
  let (held, console) := place.console.takeLine Syntax.isIncomplete held line
  (held, { place with console }.takeErrors)

/-- Talk at a terminal. Scripts read what is typed after the line that runs them;
`skip` lines are gone already, and `carried` is what is left of the last one. -/
def talk (held : String) (skip : Nat) (carried : Bytes) :
    List Bytes → Workplace → Option ReadError × Workplace
  | [], place => (none, place.step fun console => (console.ask true held).finish held)
  | line :: rest, place =>
      if skip > 0 then talk held (skip - 1) carried rest place
      else
        let place := place.step (·.ask true held)
        match Prompt.readLine line with
        | .error error => (some error, place)
        | .ok text =>
            match (place.offer (rest.foldl (· ++ ·) carried)).hear held text with
            | (none, place) => (none, place)
            | (some held, place) =>
                let (skip, carried) := place.withdraw carried rest
                talk held skip carried rest place

end Workplace

/-- What the program leaves behind at the end: the transcript, then what scripts
have written to the output stream past it. -/
def finish (place : Workplace) (error : Option ReadError) : Result :=
  let place := place.step Console.close
  let disk := place.world.disk
  let output := place.console.transcript.text ++ Utf8.lossy place.world.output
  match error with
  | none => { code := 0, output, errors := place.errors, disk }
  | some error => { code := 1, output, errors := place.errors ++ report error.message none, disk }

/-- Run script files, then talk about the input as far as that is wanted. -/
def runFiles (files : List String) (isTerminal : Bool) (place : Workplace) : Result :=
  let input := place.world.input
  let typed := Prompt.splitLines [] input.toList
  if files.isEmpty then
    if isTerminal then
      let (error, place) := place.talk "" 0 ByteArray.empty typed
      finish place error
    else
      let (error, console) := (place.offer ByteArray.empty).console.repl false input
      finish { place with console }.takeErrors error
  else
    let place := files.foldl Workplace.runFile place
    if isTerminal then
      let (skip, carried) := place.withdraw ByteArray.empty typed
      let (error, place) := place.talk "" skip carried typed
      finish place error
    else finish place none

/-- Begin: the script files to run and a place to run them in, or what is left
behind at once. -/
def start (arguments : List String) (world : World) : Except Result (List String × Workplace) :=
  let { disk, .. } := world
  match Plan.ofArguments arguments with
  | .error .help => .error { code := 0, output := helpText, errors := "", disk }
  | .error error => .error { code := 2, output := "", errors := error.message, disk }
  | .ok plan =>
      let opened : Except HostError Console := do
        let settings ← match plan.config with
          | some path => Settings.ofFile (fileContents disk path)
          | none => .ok {}
        Console.open settings Bootstrap.text
      match opened with
      | .error error =>
          .error { code := 1, output := "", errors := report error.message error.cause?, disk }
      | .ok console =>
          let place : Workplace := { console }
          .ok (plan.files.toList, place.modifyWorld fun _ => world)

/-- Run the program in a world: the files, the standard input, the clock and the
seed of random numbers. -/
def run (arguments : List String) (world : World) (isTerminal : Bool) : Result :=
  match start arguments world with
  | .error result => result
  | .ok (files, place) => runFiles files isTerminal place

end LuaSession.CommandLine
