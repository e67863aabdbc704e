import LuaSession.Library.System

/-!
# The library of files

File handles and the default input and output. Reading first writes out what the
handle holds back.
-/

namespace LuaSession.Library

open LuaSession.Script

namespace Files

/-- The file of a handle. -/
def fileOf (ref : Nat) : Run File := Run.read fun s =>
  match s.resource ref with
  | .file file => file
  | _ => default

/-- Change the file of a handle. -/
def setFile (ref : Nat) (file : File) : Run Unit := Run.modify fun s =>
  match s.resource ref with
  | .file _ => s.setResource ref (.file file)
  | _ => s

/-- A new handle. It is closed when it is no longer in use. -/
def newHandle (file : File) : Run Nat := Run.update fun s =>
  let (ref, s) := s.newResource (.file file)
  (ref, { s with finalizable := .handle ref :: s.finalizable })

/-- Write out what a file holds back. -/
def flush (ref : Nat) : Run Unit := Run.modify fun s =>
  match s.resource ref with
  | .file file =>
      if file.pending.size == 0 then s
      else
        let bytes := file.pending
        let world := s.world
        let (world, position) : World × Nat :=
          match file.stream with
          | .disk place =>
              let old := world.disk.contentsAt place
              let position := if file.appends then old.size else file.position
              ({ world with
                disk := world.disk.setContents place (Disk.splice old position bytes) },
                position + bytes.size)
          | .output => ({ world with output := world.output ++ bytes }, file.position)
          | .errors => ({ world with errors := world.errors ++ bytes }, file.position)
          | _ => (world, file.position)
        { s with world }.setResource ref (.file { file with pending := ByteArray.empty, position })
  | _ => s

/-- Write bytes: what is left of the last block is held back. -/
def write (ref : Nat) (bytes : Bytes) : Run Unit := do
  let file ← fileOf ref
  let whole := file.pending ++ bytes
  let keep := match file.buffering with
    | .none => 0
    | .lines => if bytes.toList.contains 0x0A then 0 else whole.size
    | .whole => if whole.size ≤ File.blockSize then whole.size else whole.size % File.blockSize
  if keep == whole.size then setFile ref { file with pending := whole }
  else
    setFile ref { file with pending := whole.extract 0 (whole.size - keep) }
    flush ref
    let file ← fileOf ref
    setFile ref { file with pending := whole.extract (whole.size - keep) whole.size }

/-- What can be read from a handle, and from where on. -/
def readable (ref : Nat) : Run (Bytes × Nat) := do
  flush ref
  let file ← fileOf ref
  Run.read fun s =>
    match file.stream with
    | .disk place => (s.world.disk.contentsAt place, file.position)
    | .input => (s.world.input, s.world.inputPosition)
    | _ => (ByteArray.empty, 0)

/-- Go to a place after reading. -/
def moveTo (ref position : Nat) : Run Unit := do
  let file ← fileOf ref
  match file.stream with
  | .disk _ => setFile ref { file with position }
  | .input => Run.modify fun s => { s with world := { s.world with inputPosition := position } }
  | _ => return

/-- Close a handle. -/
def close (ref : Nat) : Run Unit := do
  flush ref
  let file ← fileOf ref
  setFile ref { file with closed := true }

/-- The place of the first line break from a place on. -/
def lineEnd (bytes : Bytes) : (fuel place : Nat) → Nat
  | 0, place => place
  | fuel + 1, place =>
      if place ≥ bytes.size then bytes.size
      else if Pattern.byteAt bytes place == 0x0A then place
      else lineEnd bytes fuel (place + 1)

/-- Read a line, with its end or without. -/
def readLine (ref : Nat) (keepEnd : Bool) : Run Value := do
  let (bytes, start) ← readable ref
  if start ≥ bytes.size then return .nil
  else
    let stop := lineEnd bytes (bytes.size + 1) start
    let hasEnd := stop < bytes.size
    moveTo ref (if hasEnd then stop + 1 else stop)
    return .str (bytes.extract start (if keepEnd && hasEnd then stop + 1 else stop))

/-- Read everything that is left. -/
def readAll (ref : Nat) : Run Value := do
  let (bytes, start) ← readable ref
  moveTo ref (max start bytes.size)
  return .str (bytes.extract start bytes.size)

/-- Read some bytes; zero bytes are there unless the end is reached. -/
def readBytes (ref n : Nat) : Run Value := do
  let (bytes, start) ← readable ref
  if start ≥ bytes.size then return .nil
  else
    let stop := min bytes.size (start + n)
    moveTo ref stop
    return .str (bytes.extract start stop)

/-- The longest numeral that is read. -/
def numeralLimit : Nat := 200

/-- A numeral being read: its text in reverse, and the place after it; `none`
when it is too long. -/
abbrev Reading := Option (List UInt8) × Nat

/-- Take one byte if it is one of several. -/
def takeIf (bytes : Bytes) (wanted : UInt8 → Bool) (r : Reading) : Bool × Reading :=
  let b := Pattern.byteAt bytes r.2
  if r.2 < bytes.size && wanted b then
    match r.1 with
    | some text =>
        if text.length ≥ numeralLimit then (false, (none, r.2))
        else (true, (some (b :: text), r.2 + 1))
    | none => (false, r)
  else (false, r)

/-- Take digits: how many, and what follows. -/
def takeDigits (bytes : Bytes) (hex : Bool) : (fuel n : Nat) → Reading → Nat × Reading
  | 0, n, r => (n, r)
  | fuel + 1, n, r =>
      let wanted := if hex then Pattern.isHex else Pattern.isDigit
      match takeIf bytes wanted r with
      | (true, r) => takeDigits bytes hex fuel (n + 1) r
      | (false, r) => (n, r)

/-- Skip blanks. -/
def skipBlanks (bytes : Bytes) : (fuel place : Nat) → Nat
  | 0, place => place
  | fuel + 1, place =>
      if place < bytes.size && Pattern.isSpace (Pattern.byteAt bytes place) then
        skipBlanks bytes fuel (place + 1)
      else place

/-- Read a numeral. -/
def readNumber (ref : Nat) : Run Value := do
  let (bytes, start) ← readable ref
  let start := skipBlanks bytes (bytes.size + 1) start
  let isSign (b : UInt8) : Bool := b == 0x2B || b == 0x2D
  let (_, r) := takeIf bytes isSign (some [], start)
  let (hex, count, r) :=
    match takeIf bytes (· == 0x30) r with
    | (true, r) =>
        match takeIf bytes (fun b => b == 0x78 || b == 0x58) r with
        | (true, r) => (true, 0, r)
        | (false, r) => (false, 1, r)
    | (false, r) => (false, 0, r)
  let (n, r) := takeDigits bytes hex (numeralLimit + 1) 0 r
  let count := count + n
  let (count, r) :=
    match takeIf bytes (· == 0x2E) r with
    | (true, r) =>
        let (n, r) := takeDigits bytes hex (numeralLimit + 1) 0 r
        (count + n, r)
    | (false, r) => (count, r)
  let isMark (b : UInt8) : Bool :=
    if hex then b == 0x70 || b == 0x50 else b == 0x65 || b == 0x45
  let r :=
    if count == 0 then r
    else
      match takeIf bytes isMark r with
      | (true, r) =>
          let (_, r) := takeIf bytes isSign r
          (takeDigits bytes false (numeralLimit + 1) 0 r).2
      | (false, r) => r
  moveTo ref r.2
  match r.1 with
  | some text =>
      match Numeral.read? text.reverse with
      | some n => return .ofNumber n
      | none => return .nil
  | none => return .nil

/-- Read by formats from the argument `index` on, up to the first that fails. -/
def readFormats (caller : Caller) (ref : Nat) (arguments : Array Value) :
    (fuel index : Nat) → (done : Array Value) → Run (Array Value)
  | 0, _, done => return done
  | fuel + 1, index, done => do
      if index > arguments.size then return done
      else
        let value ← match argument arguments index with
          | .int _ | .float _ => do
              let n ← intArgument caller arguments index
              if n == 0 then readBytes ref 0
              else readBytes ref n.toUInt64.toNat
          | _ => do
              let format ← bytesArgument caller arguments index
              let letter := if Pattern.byteAt format 0 == 0x2A then Pattern.byteAt format 1
                else Pattern.byteAt format 0
              match Char.ofNat letter.toNat with
              | 'n' => readNumber ref
              | 'l' => readLine ref false
              | 'L' => readLine ref true
              | 'a' => readAll ref
              | _ => argFail caller index "invalid format"
        if value.isNil then return done.push .nil
        else readFormats caller ref arguments fuel (index + 1) (done.push value)

/-- Why a file cannot be read. -/
def readError? (file : File) : Option DiskError :=
  match file.stream with
  | .directory => some .isDirectory
  | _ => if file.readable then none else some .notOpenForThis

/-- Read by formats; without any, a line. -/
def readWith (caller : Caller) (ref : Nat) (arguments : Array Value) (first : Nat) :
    Run (Array Value) := do
  let file ← fileOf ref
  match readError? file with
  | some error => return Dates.diskFailure none error
  | none =>
      if arguments.size < first then return #[← readLine ref false]
      else readFormats caller ref arguments (arguments.size + 1) first #[]

/-- The text of a number in a file: a float with fourteen digits at most. -/
def numberText : Number → String
  | .int i => Integer.text i
  | .float x =>
      match Binary64.parts x with
      | .finite negative mantissa exponent =>
          let (num, den) := Number.ratio mantissa exponent
          String.ofList (Number.signText negative ++
            Decimal.general false 'e' num den Number.precision)
      | _ => Number.floatText x

/-- Write arguments from `index` on. -/
def writeFrom (caller : Caller) (ref : Nat) (arguments : Array Value) :
    (fuel index : Nat) → Run Unit
  | 0, _ => return
  | fuel + 1, index => do
      if index > arguments.size then return
      else
        let bytes ← match (argument arguments index).number? with
          | some n => pure (numberText n).toUTF8
          | none => bytesArgument caller arguments index
        write ref bytes
        writeFrom caller ref arguments fuel (index + 1)

/-- Write arguments and give the handle back. -/
def writeWith (caller : Caller) (ref : Nat) (arguments : Array Value) (first : Nat) :
    Run (Array Value) := do
  let file ← fileOf ref
  if !file.writable then
    let _ ← (if first ≤ arguments.size then do
        match (argument arguments first).number? with
        | some _ => return ByteArray.empty
        | none => bytesArgument caller arguments first
      else return ByteArray.empty : Run Bytes)
    return if first ≤ arguments.size then Dates.diskFailure none .notOpenForThis
      else #[.handle ref]
  else
    writeFrom caller ref arguments (arguments.size + 1) first
    return #[.handle ref]

/-- The handle that an argument is. -/
def handleArgument (caller : Caller) (arguments : Array Value) : Run Nat := do
  match argument arguments 1 with
  | .handle ref =>
      match ← Run.read fun s => s.resource ref with
      | .file _ => return ref
      | _ => typeFail caller arguments 1 "FILE*"
  | _ => typeFail caller arguments 1 "FILE*"

/-- The handle of an open file that an argument is. -/
def openArgument (caller : Caller) (arguments : Array Value) : Run Nat := do
  let ref ← handleArgument caller arguments
  if (← fileOf ref).closed then caller.fail "attempt to use a closed file"
  else return ref

/-- A mode of opening a file. -/
structure Mode where
  reads : Bool
  writes : Bool
  /-- Must the file exist already? -/
  existing : Bool
  /-- Does the file lose what it held? -/
  truncates : Bool
  appends : Bool

/-- The mode that a text stands for. -/
def Mode.ofBytes? (bytes : Bytes) : Option Mode :=
  match bytes.toList with
  | [] => none
  | b :: rest =>
      let (plus, rest) := match rest with
        | 0x2B :: rest => (true, rest)
        | rest => (false, rest)
      if !rest.all (· == 0x62) then none
      else
        match Char.ofNat b.toNat with
        | 'r' => some ⟨true, plus, true, false, false⟩
        | 'w' => some ⟨plus, true, false, true, false⟩
        | 'a' => some ⟨plus, true, false, false, true⟩
        | _ => none

/-- Open a file. -/
def openFile (name : Bytes) (mode : Mode) : Run (Except DiskError Nat) := do
  let disk ← Run.read fun s => s.world.disk
  let name := (name.toList.takeWhile (· != 0)).toByteArray
  let file (stream : Stream) : File :=
    { stream, readable := mode.reads, writable := mode.writes, appends := mode.appends }
  match disk.resolve name with
  | .error error => return .error error
  | .sink => return .ok (← newHandle (file .sink))
  | .directory =>
      if mode.writes then return .error .isDirectory
      else return .ok (← newHandle (file .directory))
  | .file name =>
      match disk.place? name with
      | some place =>
          if mode.truncates then Dates.modifyDisk fun disk => disk.setContents place ByteArray.empty
          return .ok (← newHandle (file (.disk place)))
      | none =>
          if mode.existing then return .error .missing
          else
            let place ← Run.update fun s =>
              let (disk, place) := s.world.disk.create name ByteArray.empty
              (place, { s with world := { s.world with disk } })
            return .ok (← newHandle (file (.disk place)))

/-- Open a file or fail. -/
def openOrFail (caller : Caller) (name : Bytes) (mode : Mode) : Run Nat := do
  match ← openFile name mode with
  | .ok ref => return ref
  | .error error =>
      caller.failBytes ("cannot open file '".toUTF8 ++ name ++ s!"' ({error.message})".toUTF8)

/-- Close a handle as scripts ask for it. -/
def closeHandle (ref : Nat) : Run (Array Value) := do
  let file ← fileOf ref
  if file.standard then return #[.nil, .ofString "cannot close standard file"]
  else
    close ref
    return #[.bool true]

/-- The most formats an iteration over a file may have. -/
def formatLimit : Nat := 250

/-- An iterator over a file. -/
def linesOf (caller : Caller) (ref : Nat) (formats : Array Value) (closes : Bool) :
    Run Value := do
  if formats.size > formatLimit then argFail caller (formatLimit + 2) "too many arguments"
  else
    let native ← Run.update fun s => s.newNative (.lines ref formats closes)
    return .native native

/-- Read the next piece of an iteration over a file. -/
def linesStep (caller : Caller) (ref : Nat) (formats : Array Value) (closes : Bool) :
    Run (Array Value) := do
  if (← fileOf ref).closed then caller.fail "file is already closed"
  else
    let results ← readWith caller ref (#[.handle ref] ++ formats) 2
    if (firstOf results).truthy then return results
    else if results.size > 1 then
      caller.failBytes ((results.getD 1 .nil).toBytes?.getD ByteArray.empty)
    else
      if closes then
        let _ ← closeHandle ref
      return #[]

/-- Set or ask for a default file. -/
def defaultFile (caller : Caller) (arguments : Array Value) (mode : Mode)
    (get : Registry → Nat) (set : Registry → Nat → Registry) : Run (Array Value) := do
  let value := argument arguments 1
  if !value.isNil then
    let ref ← match value.toBytes? with
      | some name => openOrFail caller name mode
      | none => openArgument caller arguments
    Run.modify fun s => { s with registry := set s.registry ref }
  return #[.handle (← Run.read fun s => get s.registry)]

/-- The default file for reading or writing. -/
def openDefault (caller : Caller) (what : String) (get : Registry → Nat) : Run Nat := do
  let ref ← Run.read fun s => get s.registry
  if (← fileOf ref).closed then caller.fail s!"default {what} file is closed"
  else return ref

end Files

open Files in
/-- The functions of the library of files. -/
def runFile (function : FileFunction) : Function := fun caller arguments => do
  match function with
  | .close =>
      if arguments.isEmpty then closeHandle (← Run.read fun s => s.registry.defaultOutput)
      else closeHandle (← openArgument caller arguments)
  | .flush =>
      flush (← openDefault caller "output" Registry.defaultOutput)
      return #[.bool true]
  | .input =>
      defaultFile caller arguments ⟨true, false, true, false, false⟩ Registry.defaultInput
        fun r ref => { r with defaultInput := ref }
  | .output =>
      defaultFile caller arguments ⟨false, true, false, true, false⟩ Registry.defaultOutput
        fun r ref => { r with defaultOutput := ref }
  | .lines =>
      if (argument arguments 1).isNil then
        let ref ← Run.read fun s => s.registry.defaultInput
        if (← fileOf ref).closed then caller.fail "attempt to use a closed file"
        else
          return #[← linesOf caller ref (arguments.extract 1 arguments.size) false]
      else
        let name ← bytesArgument caller arguments 1
        let ref ← openOrFail caller name ⟨true, false, true, false, false⟩
        let iterator ← linesOf caller ref (arguments.extract 1 arguments.size) true
        return #[iterator, .nil, .nil, .handle ref]
  | .open =>
      let name ← bytesArgument caller arguments 1
      let text ← optionalBytes caller arguments 2 "r".toUTF8
      match Mode.ofBytes? text with
      | none => argFail caller 2 "invalid mode"
      | some mode =>
          match ← openFile name mode with
          | .ok ref => return #[.handle ref]
          | .error error => return Dates.diskFailure (some name) error
  | .popen =>
      let name ← bytesArgument caller arguments 1
      let mode ← optionalBytes caller arguments 2 "r".toUTF8
      if mode != "r".toUTF8 && mode != "w".toUTF8 then argFail caller 2 "invalid mode"
      else return Dates.diskFailure (some name) .missing
  | .read =>
      let ref ← openDefault caller "input" Registry.defaultInput
      readWith caller ref arguments 1
  | .tmpfile =>
      let place ← Run.update fun s =>
        let (disk, place) := s.world.disk.createUnnamed
        (place, { s with world := { s.world with disk } })
      let ref ← newHandle { stream := .disk place, readable := true, writable := true }
      return #[.handle ref]
  | .type =>
      match ← anyArgument caller arguments 1 with
      | .handle ref =>
          match ← Run.read fun s => s.resource ref with
          | .file file => return #[.ofString (if file.closed then "closed file" else "file")]
          | _ => return #[.nil]
      | _ => return #[.nil]
  | .write =>
      let ref ← openDefault caller "output" Registry.defaultOutput
      writeWith caller ref arguments 1

open Files in
/-- The methods of file handles. -/
def runFileMethod (method : FileMethod) : Function := fun caller arguments => do
  match method with
  | .close => closeHandle (← openArgument caller arguments)
  | .flush =>
      flush (← openArgument caller arguments)
      return #[.bool true]
  | .lines =>
      let ref ← openArgument caller arguments
      return #[← linesOf caller ref (arguments.extract 1 arguments.size) false]
  | .read =>
      let ref ← openArgument caller arguments
      readWith caller ref arguments 2
  | .write =>
      let ref ← openArgument caller arguments
      writeWith caller ref arguments 2
  | .seek =>
      let ref ← openArgument caller arguments
      let whence ← optionArgument caller arguments 2 (some "cur")
        [("set", 0), ("cur", 1), ("end", 2)]
      let offset ← optionalInt caller arguments 3 0
      flush ref
      let file ← fileOf ref
      match file.stream with
      | .disk place =>
          let size ← Run.read fun s => (s.world.disk.contentsAt place).size
          let start : Nat := match whence with
            | 0 => 0
            | 1 => file.position
            | _ => size
          let target := (start : Int) + offset.toInt
          if target < 0 then return Dates.diskFailure none .invalid
          else
            setFile ref { file with position := target.toNat }
            return #[.int (Int64.ofInt target)]
      | .sink => return #[.int 0]
      | _ => return Dates.diskFailure none .illegalSeek
  | .setvbuf =>
      let ref ← openArgument caller arguments
      let buffering ← optionArgument caller arguments 2 none
        [("no", Buffering.none), ("full", .whole), ("line", .lines)]
      let _ ← optionalInt caller arguments 3 1024
      flush ref
      let file ← fileOf ref
      setFile ref { file with buffering }
      return #[.bool true]
  | .release =>
      let ref ← handleArgument caller arguments
      let file ← fileOf ref
      if !file.closed && !file.standard then close ref
      return #[]
  | .tostring =>
      let ref ← handleArgument caller arguments
      if (← fileOf ref).closed then return #[.ofString "file (closed)"]
      else return #[.ofString s!"file ({referenceText 8 ref})"]

end LuaSession.Library
