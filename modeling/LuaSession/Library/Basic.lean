import LuaSession.Library.Loading

/-!
# The basic library
-/

namespace LuaSession.Library

open LuaSession.Script

namespace Basic

/-- Raise an argument as an error; a string gets the place of the call some
levels further out in front. -/
def raiseError (caller : Caller) (value : Value) (level : Int64) : Run (Array Value) := do
  match value with
  | .str message =>
      if level ≤ 0 then Run.raise value
      else if level == 1 then caller.failBytes message
      else
        match firstOf (← Run.askValues (.position level.toInt.toNat)) with
        | .str position => Run.raiseBytes (position ++ message)
        | _ => Run.raise value
  | value => Run.raise value

/-- What a protected call gives. -/
def protectedCall (handler : Handler) (function : Value) (arguments : Array Value) :
    Run (Array Value) := do
  match ← Run.ask (.protect handler false function arguments) with
  | .caught value _ => return #[.bool false, value]
  | .returned values => return #[.bool true] ++ values
  | _ => return #[.bool true]

/-- The value of a digit of any base. -/
def digitValue? (b : UInt8) : Option Nat :=
  if Pattern.isDigit b then some (b.toNat - 0x30)
  else if Pattern.isLower b then some (b.toNat - 0x61 + 10)
  else if Pattern.isUpper b then some (b.toNat - 0x41 + 10)
  else none

/-- Read digits of a base; every letter or digit has to be one. -/
def readDigits (base : Nat) : (value : Nat) → List UInt8 → Option (Nat × List UInt8)
  | value, [] => some (value, [])
  | value, b :: rest =>
      match digitValue? b with
      | none => some (value, b :: rest)
      | some d => if d ≥ base then none else readDigits base ((value * base + d) % UInt64.size) rest

/-- Read an integer in a base, with blanks around it. -/
def readInBase? (base : Nat) (bytes : List UInt8) : Option Int64 := do
  let (negative, bytes) := Numeral.readSign (bytes.dropWhile Pattern.isSpace)
  let first ← bytes.head?
  if !Pattern.isAlnum first then none
  else
    let (value, rest) ← readDigits base 0 bytes
    if rest.all Pattern.isSpace then
      let n := Int64.ofNat value
      some (if negative then -n else n)
    else none

/-- Run finalizers, one after the other; their errors change nothing. -/
def finalizeAll : List Value → Run Unit
  | [] => return
  | value :: rest => do
      let handler ← Run.read (·.metafield value Event.gc)
      if !handler.isNil then
        let _ ← Run.ask (.protect .none true handler #[value])
      finalizeAll rest

/-- Collect garbage and run the finalizers of what is no longer in use. -/
def collect : Run Unit := do
  let values ← Run.askValues .collect
  finalizeAll values.toList

/-- What can be asked of the collector. -/
inductive Collecting where
  | stop | restart | collect | count | step | setpause | setstepmul | isrunning
  | generational | incremental

/-- The names of the requests. -/
def collectingOptions : List (String × Collecting) :=
  [("stop", .stop), ("restart", .restart), ("collect", .collect), ("count", .count),
    ("step", .step), ("setpause", .setpause), ("setstepmul", .setstepmul),
    ("isrunning", .isrunning), ("generational", .generational), ("incremental", .incremental)]

/-- The name of the way garbage is collected. -/
def modeName : Script.Collecting → String
  | .incremental => "incremental"
  | .generational => "generational"

/-- Set the way garbage is collected and give the old one. -/
def setMode (mode : Script.Collecting) : Run (Array Value) := Run.update fun s =>
  (#[.ofString (modeName s.collecting)], { s with collecting := mode })

/-- Talk to the collector. -/
def collectGarbage : Function := fun caller arguments => do
  match ← optionArgument caller arguments 1 (some "collect") collectingOptions with
  | .stop =>
      Run.modify fun s => { s with collectorRuns := false }
      return #[.int 0]
  | .restart =>
      Run.modify fun s => { s with collectorRuns := true }
      return #[.int 0]
  | .collect =>
      collect
      return #[.int 0]
  | .count =>
      let bytes ← Run.read fun s =>
        s.charge + 20000 + s.heap.tables.size * 56 + s.heap.closures.size * 40
      return #[.float (Binary64.ofRatio false bytes 1024)]
  | .step =>
      collect
      return #[.bool true]
  | .setpause =>
      let _ ← optionalInt caller arguments 2 0
      return #[.int 200]
  | .setstepmul =>
      let _ ← optionalInt caller arguments 2 0
      return #[.int 100]
  | .isrunning => return #[.bool (← Run.read (·.collectorRuns))]
  | .generational => setMode .generational
  | .incremental => setMode .incremental

/-- Give a table a metatable. -/
def setMetatable : Function := fun caller arguments => do
  let ref ← tableArgument caller arguments 1
  match arguments[1]? with
  | some .nil | some (.table _) =>
      let protected? ← Run.read (·.metafield (.table ref) Event.metatable)
      if !protected?.isNil then caller.fail "cannot change a protected metatable"
      else
        let metatable := match argument arguments 2 with
          | .table mt => some mt
          | _ => none
        Run.modify fun s =>
          let s := s.modifyTable ref fun t => { t with metatable }
          let finalizes := !(s.metafield (.table ref) Event.gc).isNil
          if finalizes && !s.finalizable.contains (.table ref) then
            { s with finalizable := .table ref :: s.finalizable }
          else s
        return #[.table ref]
  | _ => typeFail caller arguments 2 "nil or table"

/-- The pair after a key. -/
def nextPair : Function := fun caller arguments => do
  let ref ← tableArgument caller arguments 1
  match ← Run.read fun s => (s.table ref).next? (argument arguments 2) with
  | some (some pair) => return #[pair.key, pair.value]
  | some none => return #[.nil]
  | none => Run.raiseText "invalid key to 'next'"

/-- Make a function of a text or of the pieces that a function gives. -/
def loadScript : Function := fun caller arguments => do
  let mode ← optionalBytes caller arguments 3 Loading.anyMode
  let environment := arguments[3]?
  match (argument arguments 1).toBytes? with
  | some bytes =>
      let name ← optionalBytes caller arguments 2 bytes
      return Loading.answer (← Loading.load name mode bytes environment)
  | none =>
      let name ← optionalBytes caller arguments 2 "=(load)".toUTF8
      let reader ← functionArgument caller arguments 1
      match ← Loading.readPieces caller reader Loading.pieceLimit ByteArray.empty with
      | .error value => return #[.nil, value]
      | .ok bytes => return Loading.answer (← Loading.load name mode bytes environment)

/-- A file name that may be missing. -/
def optionalName (caller : Caller) (arguments : Array Value) : Run (Option Bytes) := do
  if (argument arguments 1).isNil then return none
  else return some (← bytesArgument caller arguments 1)

/-- Check that arguments are strings. -/
def checkStrings (caller : Caller) (arguments : Array Value) : (fuel index : Nat) → Run Unit
  | 0, _ => return
  | fuel + 1, index => do
      let _ ← bytesArgument caller arguments index
      checkStrings caller arguments fuel (index + 1)

/-- The texts of values with tabs between them. -/
def textsOf (position : Bytes) : List Value → (done : Bytes) → Run Bytes
  | [], done => return done
  | value :: rest, done => do
      let text ← textOf position value
      textsOf position rest (if done.size == 0 then text else done ++ "\t".toUTF8 ++ text)

end Basic

open Basic in
/-- The functions of the basic library but for `require`. -/
def runBase (function : BaseFunction) : Function := fun caller arguments => do
  match function with
  | .type =>
      let value ← anyArgument caller arguments 1
      return #[.ofString value.typeName]
  | .tostring =>
      let value ← anyArgument caller arguments 1
      return #[.str (← textOf caller.position value)]
  | .tonumber =>
      if (argument arguments 2).isNil then
        match argument arguments 1 with
        | .int i => return #[.int i]
        | .float x => return #[.float x]
        | .str bytes =>
            match Numeral.read? bytes.toList with
            | some n => return #[.ofNumber n]
            | none => return #[.nil]
        | _ =>
            let _ ← anyArgument caller arguments 1
            return #[.nil]
      else
        let base ← intArgument caller arguments 2
        match argument arguments 1 with
        | .str bytes =>
            if base < 2 || base > 36 then argFail caller 2 "base out of range"
            else
              match readInBase? base.toInt.toNat bytes.toList with
              | some i => return #[.int i]
              | none => return #[.nil]
        | _ => typeFail caller arguments 1 "string"
  | .select =>
      let isCount := match argument arguments 1 with
        | .str bytes => bytes.toList.head? == some 0x23
        | _ => false
      if isCount then return #[.ofNat (arguments.size - 1)]
      else
        let i ← intArgument caller arguments 1
        let size := Int64.ofNat arguments.size
        let i := if i < 0 then size + i else if i > size then size else i
        if i < 1 then argFail caller 1 "index out of range"
        else return arguments.extract i.toInt.toNat arguments.size
  | .next => nextPair caller arguments
  | .pairs =>
      let value ← anyArgument caller arguments 1
      let handler ← Run.read (·.metafield value Event.pairs)
      if handler.isNil then return #[.builtin (.base .next), value, .nil]
      else
        let results ← Run.call handler #[value] { kind := .resumable }
        return #[results.getD 0 .nil, results.getD 1 .nil, results.getD 2 .nil]
  | .ipairs =>
      let value ← anyArgument caller arguments 1
      return #[.builtin (.base .ipairsStep), value, .int 0]
  | .ipairsStep =>
      let i ← intArgument caller arguments 2
      let value ← Run.index .library Expr.unnamed (argument arguments 1) (.int (i + 1))
      return if value.isNil then #[.nil] else #[.int (i + 1), value]
  | .assert =>
      if (argument arguments 1).truthy then return arguments
      else
        let _ ← anyArgument caller arguments 1
        let message := (arguments[1]?).getD (.ofString "assertion failed!")
        raiseError caller message 1
  | .error =>
      let level ← optionalInt caller arguments 2 1
      raiseError caller (argument arguments 1) level
  | .pcall =>
      let function ← anyArgument caller arguments 1
      protectedCall .none function (arguments.extract 1 arguments.size)
  | .xpcall =>
      let handler ← functionArgument caller arguments 2
      protectedCall (.script handler) (argument arguments 1) (arguments.extract 2 arguments.size)
  | .rawequal =>
      let x ← anyArgument caller arguments 1
      let y ← anyArgument caller arguments 2
      return #[.bool (x.rawEq y)]
  | .rawget =>
      let ref ← tableArgument caller arguments 1
      let key ← anyArgument caller arguments 2
      return #[← Run.read fun s => (s.table ref).get key]
  | .rawset =>
      let ref ← tableArgument caller arguments 1
      let key ← anyArgument caller arguments 2
      let value ← anyArgument caller arguments 3
      Run.rawSet .library ref key value
      return #[.table ref]
  | .rawlen =>
      match argument arguments 1 with
      | .table ref => return #[.ofNat (← Run.read fun s => (s.table ref).border)]
      | .str bytes => return #[.ofNat bytes.size]
      | _ => typeFail caller arguments 1 "table or string"
  | .getmetatable =>
      let value ← anyArgument caller arguments 1
      let protected? ← Run.read (·.metafield value Event.metatable)
      if !protected?.isNil then return #[protected?]
      else
        match ← Run.read (·.metatable? value) with
        | none => return #[.nil]
        | some ref => return #[.table ref]
  | .setmetatable => setMetatable caller arguments
  | .collectgarbage => collectGarbage caller arguments
  | .load => loadScript caller arguments
  | .loadfile =>
      let name ← optionalName caller arguments
      let mode ← optionalBytes caller arguments 2 Loading.anyMode
      return Loading.answer (← Loading.loadFile name mode arguments[2]?)
  | .dofile =>
      let name ← optionalName caller arguments
      match ← Loading.loadFile name Loading.anyMode none with
      | .error message => Run.raiseBytes message
      | .ok function => Run.call function #[] { kind := .resumable }
  | .print =>
      let text ← textsOf caller.position arguments.toList ByteArray.empty
      Run.modify fun s =>
        { s with world := { s.world with output := s.world.output ++ text.push 0x0A } }
      return #[]
  | .warn =>
      let _ ← bytesArgument caller arguments 1
      checkStrings caller arguments arguments.size 1
      return #[]
  | .require => return #[]

end LuaSession.Library
