import LuaSession.Library.Arguments
import LuaSession.Text.Pattern

/-!
# The library of UTF-8 texts

Characters of up to 31 bits in up to six bytes can be read; a strict reading
allows what UTF-8 allows today.
-/

namespace LuaSession.Library

open LuaSession.Script

namespace CodePoints

/-- The greatest character. -/
def limit : Nat := 0x7FFFFFFF

/-- Does a byte go on with a character? -/
def isContinuation (b : UInt8) : Bool := b &&& 0xC0 == 0x80

/-- Does the byte at a place go on with a character? -/
def continuesAt (bytes : Bytes) (i : Nat) : Bool := isContinuation (Pattern.byteAt bytes i)

/-- Read the bytes that go on with a character; the first byte is shifted for
each. -/
def readTail (bytes : Bytes) (place : Nat) :
    (fuel : Nat) → (first : UInt8) → (count value : Nat) → Option (Nat × Nat × UInt8)
  | 0, first, count, value => some (count, value, first)
  | fuel + 1, first, count, value =>
      if first &&& 0x40 == 0 then some (count, value, first)
      else
        let b := Pattern.byteAt bytes (place + count + 1)
        if isContinuation b then
          readTail bytes place fuel (first <<< 1) (count + 1) (value * 64 + (b &&& 0x3F).toNat)
        else none

/-- The least character that needs so many bytes after the first. -/
def least : Nat → Nat
  | 1 => 0x80
  | 2 => 0x800
  | 3 => 0x10000
  | 4 => 0x200000
  | 5 => 0x4000000
  | _ => UInt32.size

/-- Read a character: it and the place after it. -/
def decode? (bytes : Bytes) (place : Nat) (strict : Bool) : Option (Nat × Nat) := do
  let b := Pattern.byteAt bytes place
  let (code, next) ←
    if b < 0x80 then some (b.toNat, place + 1)
    else do
      let (count, value, first) ← readTail bytes place 8 b 0 0
      let code := value + (first &&& 0x7F).toNat <<< (count * 5)
      if count > 5 || code > limit || code < least count then none
      else some (code, place + count + 1)
  if strict && (code > 0x10FFFF || (0xD800 ≤ code && code ≤ 0xDFFF)) then none
  else some (code, next)

/-- The bytes of a character. -/
def encode (n : Nat) : List UInt8 :=
  if n < 0x80 then [UInt8.ofNat n]
  else
    let tail (k : Nat) : List UInt8 :=
      ((List.range k).map fun i => UInt8.ofNat (0x80 + (n >>> (6 * i)) % 64)).reverse
    let whole (k lead : Nat) : List UInt8 := UInt8.ofNat (lead + n >>> (6 * k)) :: tail k
    if n < 0x800 then whole 1 0xC0
    else if n < 0x10000 then whole 2 0xE0
    else if n < 0x200000 then whole 3 0xF0
    else if n < 0x4000000 then whole 4 0xF8
    else whole 5 0xFC

/-- A position, where negative ones count from the end. -/
def position (i : Int64) (size : Nat) : Int :=
  let i := i.toInt
  if i ≥ 0 then i else if -i > size then 0 else (size : Int) + i + 1

/-- The message that bytes are no UTF-8. -/
def invalid : String := "invalid UTF-8 code"

/-- Read the characters that start before a place. -/
def readAll (caller : Caller) (bytes : Bytes) (stop : Nat) (strict : Bool) :
    (fuel place : Nat) → (done : Array Value) → Run (Array Value)
  | 0, _, done => return done
  | fuel + 1, place, done => do
      if place ≥ stop then return done
      else
        match decode? bytes place strict with
        | none => caller.fail invalid
        | some (code, next) =>
            readAll caller bytes stop strict fuel next (done.push (.ofNat code))

/-- Count the characters that start up to a place; the place of a byte that is
none fails. -/
def count (bytes : Bytes) (last : Int) (strict : Bool) :
    (fuel : Nat) → (place n : Nat) → Except Nat Nat
  | 0, _, n => .ok n
  | fuel + 1, place, n =>
      if (place : Int) > last then .ok n
      else
        match decode? bytes place strict with
        | none => .error place
        | some (_, next) => count bytes last strict fuel next (n + 1)

/-- Go back to the first byte of a character. -/
def backToStart (bytes : Bytes) : (place : Nat) → Nat
  | 0 => 0
  | place + 1 => if continuesAt bytes (place + 1) then backToStart bytes place else place + 1

/-- Go forward to the first byte of a character. -/
def forwardToStart (bytes : Bytes) : (fuel place : Nat) → Nat
  | 0, place => place
  | fuel + 1, place =>
      if continuesAt bytes place then forwardToStart bytes fuel (place + 1) else place

/-- Go back by characters; `none` when there are too few. -/
def back (bytes : Bytes) : (n place : Nat) → Option Nat
  | 0, place => some place
  | _ + 1, 0 => none
  | n + 1, place + 1 => back bytes n (backToStart bytes place)

/-- Go forward by characters; `none` when there are too few. -/
def forward (bytes : Bytes) : (n place : Nat) → Option Nat
  | 0, place => some place
  | n + 1, place =>
      if place < bytes.size then forward bytes n (forwardToStart bytes bytes.size (place + 1))
      else none

/-- The pattern that matches one character. -/
def charPattern : Bytes :=
  (("[\x00-\x7F".toUTF8.push 0xC2).push 0x2D |>.push 0xFD) ++ "][".toUTF8 ++
    (((ByteArray.empty.push 0x80).push 0x2D).push 0xBF) ++ "]*".toUTF8

end CodePoints

open CodePoints in
/-- The functions of the library of UTF-8 texts. -/
def runUtf8 (function : Utf8Function) : Function := fun caller arguments => do
  match function with
  | .char =>
      let parts ← (List.range arguments.size).mapM fun i => do
        let n ← intArgument caller arguments (i + 1)
        if n.toUInt64 > UInt64.ofNat limit then argFail caller (i + 1) "value out of range"
        else return encode n.toInt.toNat
      return #[.str parts.flatten.toByteArray]
  | .codepoint =>
      let bytes ← bytesArgument caller arguments 1
      let i ← optionalInt caller arguments 2 1
      let first := position i bytes.size
      let j ← optionalInt caller arguments 3 (Int64.ofInt first)
      let last := position j bytes.size
      let strict := !(argument arguments 4).truthy
      if first < 1 then argFail caller 2 "out of bounds"
      else if last > bytes.size then argFail caller 3 "out of bounds"
      else if first > last then return #[]
      else readAll caller bytes last.toNat strict (bytes.size + 1) (first.toNat - 1) #[]
  | .len =>
      let bytes ← bytesArgument caller arguments 1
      let i ← optionalInt caller arguments 2 1
      let j ← optionalInt caller arguments 3 (-1)
      let first := position i bytes.size
      let last := position j bytes.size
      let strict := !(argument arguments 4).truthy
      if !(1 ≤ first && first - 1 ≤ bytes.size) then
        argFail caller 2 "initial position out of bounds"
      else if !(last - 1 < bytes.size) then argFail caller 3 "final position out of bounds"
      else
        match count bytes (last - 1) strict (bytes.size + 1) (first.toNat - 1) 0 with
        | .ok n => return #[.ofNat n]
        | .error place => return #[.nil, .ofNat (place + 1)]
  | .offset =>
      let bytes ← bytesArgument caller arguments 1
      let n ← intArgument caller arguments 2
      let standard : Int64 := if n > 0 then 1 else Int64.ofNat (bytes.size + 1)
      let i ← optionalInt caller arguments 3 standard
      let start := position i bytes.size
      if !(1 ≤ start && start - 1 ≤ bytes.size) then argFail caller 3 "position out of bounds"
      else
        let place := start.toNat - 1
        if n == 0 then return #[.ofNat (backToStart bytes place + 1)]
        else if continuesAt bytes place then
          caller.fail "initial position is a continuation byte"
        else
          let found := if n < 0 then back bytes n.toInt.natAbs place
            else forward bytes (n.toInt.toNat - 1) place
          match found with
          | some place => return #[.ofNat (place + 1)]
          | none => return #[.nil]
  | .codes =>
      let bytes ← bytesArgument caller arguments 1
      if continuesAt bytes 0 then argFail caller 1 invalid
      else
        let lax := (argument arguments 2).truthy
        return #[.builtin (.utf8 (.codesStep lax)), .str bytes, .int 0]
  | .codesStep lax =>
      let bytes ← bytesArgument caller arguments 1
      let n := ((argument arguments 2).toInt?.getD 0).toUInt64
      if n ≥ UInt64.ofNat bytes.size then return #[]
      else
        let place := forwardToStart bytes bytes.size n.toNat
        if place ≥ bytes.size then return #[]
        else
          match decode? bytes place (!lax) with
          | none => caller.fail invalid
          | some (code, next) =>
              if continuesAt bytes next then caller.fail invalid
              else return #[.ofNat (place + 1), .ofNat code]

end LuaSession.Library
