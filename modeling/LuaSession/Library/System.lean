import LuaSession.Library.Arguments
import LuaSession.Text.Calendar
import LuaSession.Text.Pattern

/-!
# The library of the operating system

Dates and times, and changes to the files of the disk. Scripts find no programs
to run.
-/

namespace LuaSession.Library

open LuaSession.Script

namespace Dates

/-- How a library function tells that something has failed: `nil`, a message
and a number. -/
def diskFailure (name : Option Bytes) (error : DiskError) : Array Value :=
  let message := match name with
    | some name => name ++ ": ".toUTF8 ++ error.message.toUTF8
    | none => error.message.toUTF8
  #[.nil, .str message, .ofNat error.number]

/-- Change the disk. -/
def modifyDisk (f : Disk → Disk) : Run Unit :=
  Run.modify fun s => { s with world := { s.world with disk := f s.world.disk } }

/-- The greatest value of a field of a date. -/
def fieldLimit : Int := 0x7FFFFFFF

/-- Read a field of a date from a table. -/
def dateField (caller : Caller) (table : Value) (key : String) (standard : Option Int)
    (delta : Int) : Run Int := do
  let value ← Run.index .library Expr.unnamed table (.ofString key)
  match value.toInt? with
  | some n =>
      let n := n.toInt
      let fits := if n ≥ 0 then n - delta ≤ fieldLimit else -fieldLimit - 1 + delta ≤ n
      if fits then return n - delta else caller.fail s!"field '{key}' is out-of-bound"
  | none =>
      if !value.isNil then caller.fail s!"field '{key}' is not an integer"
      else
        match standard with
        | some n => return n
        | none => caller.fail s!"field '{key}' missing in date table"

/-- Put the fields of a date into a table. -/
def setFields (ref : Nat) (date : Calendar) : Run Unit :=
  let fields : List (String × Value) :=
    [ ("year", .int (Int64.ofInt date.year)), ("month", .int (Int64.ofInt date.month)),
      ("day", .int (Int64.ofInt date.day)), ("hour", .int (Int64.ofInt date.hour)),
      ("min", .int (Int64.ofInt date.minute)), ("sec", .int (Int64.ofInt date.second)),
      ("yday", .int (Int64.ofInt (date.yearday + 1))),
      ("wday", .int (Int64.ofInt (date.weekday + 1))), ("isdst", .bool false) ]
  Run.modify fun s => fields.foldl (fun s (key, value) => s.put ref (.ofString key) value) s

/-- The greatest and least seconds that have a date. -/
def secondsLimit : Int := 67768036191676799

/-- A time argument; now when it is missing. -/
def timeArgument (caller : Caller) (arguments : Array Value) (index : Nat) : Run Int := do
  if (argument arguments index).isNil then Run.read fun s => s.world.now
  else return (← intArgument caller arguments index).toInt

/-- Write a date by a format, after what has been written. -/
def formatDate (caller : Caller) (date : Calendar) :
    (fuel : Nat) → (done : Bytes) → List UInt8 → Run Bytes
  | 0, done, _ => return done
  | _, done, [] => return done
  | fuel + 1, done, b :: rest => do
      if b != 0x25 then formatDate caller date fuel (done.push b) rest
      else
        let chars := (rest.take 2).map fun b => Char.ofNat b.toNat
        let found : Option (Char × Nat) := match chars with
          | 'E' :: c :: _ => if Calendar.lettersAfterE.contains c then some (c, 2) else none
          | 'O' :: c :: _ => if Calendar.lettersAfterO.contains c then some (c, 2) else none
          | c :: _ => if Calendar.letters.contains c then some (c, 1) else none
          | [] => none
        match found with
        | some (letter, count) =>
            formatDate caller date fuel (done ++ (date.convert letter).toUTF8) (rest.drop count)
        | none =>
            argError caller 1 ("invalid conversion specifier '%".toUTF8 ++
              (rest.takeWhile (· != 0)).toByteArray ++ "'".toUTF8)

end Dates

open Dates in
/-- The functions of the library of the operating system. -/
def runSystem (function : SystemFunction) : Function := fun caller arguments => do
  match function with
  | .clock => Run.read fun s => #[.float (Binary64.ofRatio false (s.heap.tables.size + 1000) 100000)]
  | .date =>
      let format ← optionalBytes caller arguments 1 "%c".toUTF8
      let seconds ← timeArgument caller arguments 2
      let format := if Pattern.byteAt format 0 == 0x21 then format.extract 1 format.size else format
      if seconds > secondsLimit || seconds < -secondsLimit then
        caller.fail "date result cannot be represented in this installation"
      else
        let date := Calendar.ofSeconds seconds
        if format == "*t".toUTF8 then
          let ref ← Run.update fun s => s.newTable { capacity := 16 }
          setFields ref date
          return #[.table ref]
        else
          return #[.str (← formatDate caller date (format.size + 1) ByteArray.empty format.toList)]
  | .difftime =>
      let a ← intArgument caller arguments 1
      let b ← intArgument caller arguments 2
      return #[.float (Binary64.sub (Binary64.ofInt64 a) (Binary64.ofInt64 b))]
  | .execute =>
      if (argument arguments 1).isNil then return #[.bool true]
      else
        let _ ← bytesArgument caller arguments 1
        return #[.nil, .ofString "exit", .int 127]
  | .exit => caller.fail "os.exit is not available in a script session"
  | .getenv =>
      let name ← bytesArgument caller arguments 1
      return #[if name == "TZ".toUTF8 then .ofString "UTC" else .nil]
  | .remove =>
      let name ← bytesArgument caller arguments 1
      match ← Run.read fun s => s.world.disk.resolve name with
      | .file file =>
          if (← Run.read fun s => s.world.disk.place? file).isSome then
            modifyDisk fun disk => disk.unlink file
            return #[.bool true]
          else return diskFailure (some name) .missing
      | .directory | .sink => return diskFailure (some name) .isDirectory
      | .error error => return diskFailure (some name) error
  | .rename =>
      let source ← bytesArgument caller arguments 1
      let target ← bytesArgument caller arguments 2
      let disk ← Run.read fun s => s.world.disk
      match disk.resolve source, disk.resolve target with
      | .file a, .file b =>
          match disk.place? a with
          | some place =>
              modifyDisk fun disk =>
                let disk := disk.unlink a
                let disk := disk.unlink b
                { disk with names := (b, place) :: disk.names }
              return #[.bool true]
          | none => return diskFailure none .missing
      | .file a, .directory | .file a, .sink =>
          return diskFailure none (if (disk.place? a).isSome then .isDirectory else .missing)
      | .error error, _ => return diskFailure none error
      | _, .error error => return diskFailure none error
      | .directory, _ | .sink, _ => return diskFailure none .invalid
  | .setlocale =>
      let locale ← if (argument arguments 1).isNil then pure none
        else some <$> bytesArgument caller arguments 1
      let _ ← optionArgument caller arguments 2 (some "all")
        [("all", ()), ("collate", ()), ("ctype", ()), ("monetary", ()), ("numeric", ()),
          ("time", ())]
      match locale with
      | none => return #[.ofString "C"]
      | some locale =>
          let known := ["", "C", "POSIX"].any fun name => name.toUTF8 == locale
          return #[if known then .ofString "C" else .nil]
  | .time =>
      if (argument arguments 1).isNil then
        return #[.int (Int64.ofInt (← Run.read fun s => s.world.now))]
      else
        let ref ← tableArgument caller arguments 1
        let table := Value.table ref
        let year ← dateField caller table "year" none 1900
        let month ← dateField caller table "month" none 1
        let day ← dateField caller table "day" none 0
        let hour ← dateField caller table "hour" (some 12) 0
        let minute ← dateField caller table "min" (some 0) 0
        let second ← dateField caller table "sec" (some 0) 0
        let date : Calendar :=
          { year := year + 1900, month := month + 1, day, hour, minute, second }
        let seconds := date.toSeconds
        if seconds == -1 || seconds > secondsLimit || seconds < -secondsLimit then
          caller.fail "time result cannot be represented in this installation"
        else
          setFields ref (Calendar.ofSeconds seconds)
          return #[.int (Int64.ofInt seconds)]
  | .tmpname =>
      Run.update fun s =>
        let name := s!"/tmp/lua_{String.ofList (Nat.toDigits 36 (s.world.disk.contents.size + 50000))}"
        let (disk, _) := s.world.disk.create name.toUTF8 ByteArray.empty
        (#[.ofString name], { s with world := { s.world with disk } })

end LuaSession.Library
