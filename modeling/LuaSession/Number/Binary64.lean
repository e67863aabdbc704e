/-!
# Binary floating-point numbers

Floats are held as their 64 bits, so that equality of values is equality of
bits. `Binary64.parts` reads the bits as a sign and a natural number times a
power of two, and `Binary64.ofRatio` rounds a quotient of natural numbers to the
nearest float, ties to even.

A result that is no number keeps the sign of the first operand that is none; an
operation that makes one from numbers makes it negative.
-/

namespace LuaSession

/-- The bits of a binary floating-point number of 64 bits. -/
abbrev Binary64 := UInt64

namespace Binary64

/-- What the bits stand for. -/
inductive Parts where
  /-- `± mantissa * 2 ^ exponent`; the mantissa is below `2 ^ 53`. -/
  | finite (negative : Bool) (mantissa : Nat) (exponent : Int)
  | infinite (negative : Bool)
  | nan (negative : Bool)
  deriving DecidableEq, Repr

/-- Is the sign bit set? -/
def isNegative (x : Binary64) : Bool := x >>> 63 == 1

/-- The number without its sign. -/
def abs (x : Binary64) : Binary64 := x &&& 0x7FFFFFFFFFFFFFFF

/-- The number with the other sign. -/
def neg (x : Binary64) : Binary64 := x ^^^ 0x8000000000000000

/-- The infinities. -/
def infinity (negative : Bool) : Binary64 :=
  if negative then 0xFFF0000000000000 else 0x7FF0000000000000

/-- The results that are no number. -/
def nan (negative : Bool) : Binary64 :=
  if negative then 0xFFF8000000000000 else 0x7FF8000000000000

/-- Is it no number? -/
@[inline] def isNaN (x : Binary64) : Bool := abs x > 0x7FF0000000000000

/-- Read the bits. -/
def parts (x : Binary64) : Parts :=
  let field := ((x >>> 52) &&& 0x7FF).toNat
  let fraction := (x &&& 0xFFFFFFFFFFFFF).toNat
  if field == 0x7FF then
    if fraction == 0 then .infinite (isNegative x) else .nan (isNegative x)
  else if field == 0 then .finite (isNegative x) fraction (-1074)
  else .finite (isNegative x) (fraction + 1 <<< 52) (field - 1075)

/-- The bits of `± mantissa * 2 ^ exponent` for a mantissa of at most `2 ^ 53`
and an exponent of at least `-1074`, where a mantissa below `2 ^ 52` has the
exponent `-1074`. -/
def assemble (negative : Bool) (mantissa : Nat) (exponent : Int) : Binary64 :=
  let (mantissa, exponent) :=
    if mantissa == 1 <<< 53 then (1 <<< 52, exponent + 1) else (mantissa, exponent)
  let sign : UInt64 := if negative then 0x8000000000000000 else 0
  if mantissa < 1 <<< 52 then sign ||| UInt64.ofNat mantissa
  else if exponent + 1075 ≥ 0x7FF then infinity negative
  else sign ||| (UInt64.ofNat ((exponent + 1075).toNat) <<< 52) |||
    UInt64.ofNat (mantissa - 1 <<< 52)

/-- A quotient rounded to the nearest natural number, a tie to the even one. -/
def roundDiv (num den : Nat) : Nat :=
  let q := num / den
  let r := num % den
  if 2 * r < den then q
  else if 2 * r > den then q + 1
  else if q % 2 == 0 then q else q + 1

/-- The float nearest to `± num / den`, a tie to the even one. -/
def ofRatio (negative : Bool) (num den : Nat) : Binary64 :=
  if num == 0 || den == 0 then assemble negative 0 (-1074)
  else
    let guess : Int := (num.log2 : Int) - den.log2
    -- `2 ^ top ≤ num / den < 2 ^ (top + 1)`
    let fits :=
      if guess ≥ 0 then den <<< guess.toNat ≤ num else den ≤ num <<< (-guess).toNat
    let top := if fits then guess else guess - 1
    let exponent := max (top - 52) (-1074)
    if exponent > 971 then infinity negative
    else
      let mantissa :=
        if exponent ≥ 0 then roundDiv num (den <<< exponent.toNat)
        else roundDiv (num <<< (-exponent).toNat) den
      assemble negative mantissa exponent

/-- The operation on machine floats with its result's bits; a result that is no
number gets the given sign. -/
@[inline] def settle (negative : Bool) (x : Float) : Binary64 :=
  if x.isNaN then nan negative else x.toBits

/-- The sign of a result that is no number. -/
def nanSign (x y : Binary64) : Bool :=
  if isNaN x then isNegative x else if isNaN y then isNegative y else true

/-- An operation of two machine floats on bits. -/
@[inline] def lift₂ (op : Float → Float → Float) (x y : Binary64) : Binary64 :=
  let r := op (Float.ofBits x) (Float.ofBits y)
  if r.isNaN then nan (nanSign x y) else r.toBits

/-- An operation of one machine float on bits. -/
@[inline] def lift (op : Float → Float) (x : Binary64) : Binary64 :=
  settle (if isNaN x then isNegative x else true) (op (Float.ofBits x))

def add (x y : Binary64) : Binary64 := lift₂ (· + ·) x y
def sub (x y : Binary64) : Binary64 := lift₂ (· - ·) x y
def mul (x y : Binary64) : Binary64 := lift₂ (· * ·) x y
def div (x y : Binary64) : Binary64 := lift₂ (· / ·) x y

/-- A power; squares are products. -/
def pow (x y : Binary64) : Binary64 :=
  if y == 0x4000000000000000 then mul x x else lift₂ Float.pow x y

def floor (x : Binary64) : Binary64 := lift Float.floor x
def ceil (x : Binary64) : Binary64 := lift Float.ceil x

/-- The largest integral float that is not above the quotient. -/
def floorDiv (x y : Binary64) : Binary64 := floor (div x y)

/-- Comparison as numbers: what is no number is equal to and below nothing. -/
@[inline] def eq (x y : Binary64) : Bool := Float.ofBits x == Float.ofBits y
@[inline] def lt (x y : Binary64) : Bool := Float.ofBits x < Float.ofBits y
@[inline] def le (x y : Binary64) : Bool := Float.ofBits x ≤ Float.ofBits y

/-- The remainder of the quotient cut to an integer; it has the sign of `x`. -/
def fmod (x y : Binary64) : Binary64 :=
  match parts x, parts y with
  | .nan sign, _ => nan sign
  | _, .nan sign => nan sign
  | .infinite _, _ => nan true
  | .finite .., .infinite _ => x
  | .finite negative m e, .finite _ n f =>
      if n == 0 then nan true
      else
        let low := min e f
        let r := (m <<< (e - low).toNat) % (n <<< (f - low).toNat)
        if low ≥ 0 then ofRatio negative (r <<< low.toNat) 1
        else ofRatio negative r (1 <<< (-low).toNat)

/-- The remainder of the quotient rounded down; it has the sign of `y`. -/
def mod (x y : Binary64) : Binary64 :=
  let m := fmod x y
  if lt 0 m then if lt y 0 then add m y else m
  else if lt m 0 then if eq m y then m else if lt 0 y then add m y else m
  else m

/-- The float nearest to an integer. -/
def ofInt64 (i : Int64) : Binary64 := i.toFloat.toBits

/-- The integer that a float is, if it is one of 64 bits. -/
def toInt64? (x : Binary64) : Option Int64 :=
  let f := Float.ofBits x
  if f.floor == f && f ≥ -9223372036854775808.0 && f < 9223372036854775808.0 then
    some f.toInt64
  else none

/-- The greatest integer not above a float, if it has 64 bits. -/
def floor? (x : Binary64) : Option Int64 := toInt64? (floor x)

/-- The least integer not below a float, if it has 64 bits. -/
def ceil? (x : Binary64) : Option Int64 := toInt64? (ceil x)

/-- Is an integer below a float? -/
def ltOfInt (i : Int64) (x : Binary64) : Bool :=
  if -9007199254740992 ≤ i && i ≤ 9007199254740992 then lt (ofInt64 i) x
  else
    match ceil? x with
    | some n => i < n
    | none => lt 0 x

/-- Is an integer at most a float? -/
def leOfInt (i : Int64) (x : Binary64) : Bool :=
  if -9007199254740992 ≤ i && i ≤ 9007199254740992 then le (ofInt64 i) x
  else
    match floor? x with
    | some n => i ≤ n
    | none => lt 0 x

/-- Is a float below an integer? -/
def ltInt (x : Binary64) (i : Int64) : Bool :=
  if -9007199254740992 ≤ i && i ≤ 9007199254740992 then lt x (ofInt64 i)
  else
    match floor? x with
    | some n => n < i
    | none => lt x 0

/-- Is a float at most an integer? -/
def leInt (x : Binary64) (i : Int64) : Bool :=
  if -9007199254740992 ≤ i && i ≤ 9007199254740992 then le x (ofInt64 i)
  else
    match ceil? x with
    | some n => n ≤ i
    | none => lt x 0

end Binary64

end LuaSession
