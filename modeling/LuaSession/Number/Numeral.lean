import LuaSession.Number.Binary64

/-!
# Reading numerals

`Numeral.read?` reads a text that is a numeral of the script language and
nothing else but blanks around it: a decimal or hexadecimal integer, or a
decimal or hexadecimal number with a fraction or an exponent. Hexadecimal
integers wrap around; decimal integers that do not fit become floats.
-/

namespace LuaSession

/-- The two kinds of numbers that scripts compute with. -/
inductive Number where
  | int (value : Int64)
  | float (value : Binary64)
  deriving DecidableEq, Repr, Inhabited

namespace Numeral

/-- The blanks of the script language. -/
def isSpace (b : UInt8) : Bool := b == 0x20 || (9 ≤ b && b ≤ 13)

/-- A decimal digit. -/
def isDigit (b : UInt8) : Bool := 0x30 ≤ b && b ≤ 0x39

/-- The value of a hexadecimal digit. -/
def hexValue? (b : UInt8) : Option Nat :=
  if isDigit b then some (b.toNat - 0x30)
  else if 0x41 ≤ b && b ≤ 0x46 then some (b.toNat - 0x37)
  else if 0x61 ≤ b && b ≤ 0x66 then some (b.toNat - 0x57)
  else none

/-- The value of a digit of base ten or sixteen. -/
def digit? (hex : Bool) (b : UInt8) : Option Nat :=
  if hex then hexValue? b else if isDigit b then some (b.toNat - 0x30) else none

/-- Digits read so far: their value and their number. -/
structure Digits where
  value : Nat := 0
  count : Nat := 0

/-- Read digits of base ten or sixteen. -/
def readDigits (hex : Bool) : Digits → List UInt8 → Digits × List UInt8
  | digits, [] => (digits, [])
  | digits, b :: rest =>
      match digit? hex b with
      | some d =>
          readDigits hex ⟨digits.value * (if hex then 16 else 10) + d, digits.count + 1⟩ rest
      | none => (digits, b :: rest)

/-- An optional sign: is it a minus, and what follows. -/
def readSign : List UInt8 → Bool × List UInt8
  | 0x2D :: rest => (true, rest)
  | 0x2B :: rest => (false, rest)
  | bytes => (false, bytes)

/-- The mark of a hexadecimal numeral. -/
def readHexMark : List UInt8 → Bool × List UInt8
  | 0x30 :: b :: rest => if b == 0x78 || b == 0x58 then (true, rest) else (false, 0x30 :: b :: rest)
  | bytes => (false, bytes)

/-- Does only blank space follow? -/
def atEnd (bytes : List UInt8) : Bool := bytes.all isSpace

/-- Read an integer numeral. -/
def readInteger? (bytes : List UInt8) : Option Int64 :=
  let (negative, bytes) := readSign (bytes.dropWhile isSpace)
  let (hex, bytes) := readHexMark bytes
  let (digits, rest) := readDigits hex {} bytes
  if digits.count == 0 || !atEnd rest then none
  else if hex then
    let value := Int64.ofNat digits.value
    some (if negative then -value else value)
  else if digits.value ≤ 0x8000000000000000 - (if negative then 0 else 1) then
    let value := Int64.ofNat digits.value
    some (if negative then -value else value)
  else none

/-- Read an exponent after its letter. Without a digit there is no exponent. -/
def readExponent? (bytes : List UInt8) : Option (Int × List UInt8) :=
  let (negative, bytes) := readSign bytes
  let (digits, rest) := readDigits false {} bytes
  if digits.count == 0 then none
  else some (if negative then -(digits.value : Int) else digits.value, rest)

/-- The float nearest to `± value * base ^ exponent`, where `base` is ten or
two. Exponents far outside of the range need no exact power. -/
def scale (negative : Bool) (value base : Nat) (exponent : Int) : Binary64 :=
  let size : Int := (value.log2 : Int) + exponent * (if base == 10 then 3 else 1)
  if value == 0 then Binary64.ofRatio negative 0 1
  else if exponent ≥ 0 then
    if size > 1100 then Binary64.infinity negative
    else Binary64.ofRatio negative (value * base.pow exponent.toNat) 1
  else if size < -1200 && (value.log2 : Int) + exponent < -1200 then
    Binary64.ofRatio negative 0 1
  else Binary64.ofRatio negative value (base.pow (-exponent).toNat)

/-- Read a numeral as a float. -/
def readFloat? (bytes : List UInt8) : Option Binary64 :=
  let (negative, bytes) := readSign (bytes.dropWhile isSpace)
  let (hex, bytes) := readHexMark bytes
  let (whole, rest) := readDigits hex {} bytes
  let (digits, rest) :=
    match rest with
    | 0x2E :: rest => readDigits hex whole rest
    | rest => (whole, rest)
  if digits.count == 0 then none
  else
    let places : Int := digits.count - whole.count
    let (exponent, rest) :=
      match rest with
      | b :: more =>
          if (hex && (b == 0x70 || b == 0x50)) || (!hex && (b == 0x65 || b == 0x45)) then
            (readExponent? more).getD (0, rest)
          else (0, rest)
      | [] => (0, [])
    if !atEnd rest then none
    else if hex then some (scale negative digits.value 2 (exponent - 4 * places))
    else some (scale negative digits.value 10 (exponent - places))

/-- Read a numeral. -/
def read? (bytes : List UInt8) : Option Number :=
  match readInteger? bytes with
  | some i => some (.int i)
  | none => (readFloat? bytes).map .float

end Numeral

end LuaSession
