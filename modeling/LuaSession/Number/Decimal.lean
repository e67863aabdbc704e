import LuaSession.Number.Binary64

/-!
# Decimal text of numbers

Exact decimal digits of a quotient of natural numbers, rounded to a number of
significant digits or of places, a tie to the even digit, and the three layouts
made of them: fixed places, exponent, and the shorter of both. The hexadecimal
layout writes the bits themselves.
-/

namespace LuaSession.Decimal

/-- `10 ^ e ≤ num / den`, for an exponent of any sign. -/
def reaches (num den : Nat) (e : Int) : Bool :=
  if e ≥ 0 then den * Nat.pow 10 e.toNat ≤ num else den ≤ num * Nat.pow 10 (-e).toNat

/-- The greatest `e` with `10 ^ e ≤ num / den`, for a positive quotient. The
binary logarithm misses it by one at most. -/
def leading (num den : Nat) : Int :=
  let guess : Int := (((num.log2 : Int) - den.log2) * 30103) / 100000
  if reaches num den (guess + 1) then guess + 1
  else if reaches num den guess then guess
  else guess - 1

/-- `num / den * 10 ^ e` rounded to a natural number. -/
def scaled (num den : Nat) (e : Int) : Nat :=
  if e ≥ 0 then Binary64.roundDiv (num * Nat.pow 10 e.toNat) den
  else Binary64.roundDiv num (den * Nat.pow 10 (-e).toNat)

/-- The first `count` significant digits of a quotient as a number, and the
exponent of the first of them. -/
def significant (num den count : Nat) : Nat × Int :=
  if num == 0 then (0, 0)
  else
    let top := leading num den
    let digits := scaled num den (count - 1 - top)
    if digits == Nat.pow 10 count then (Nat.pow 10 (count - 1), top + 1) else (digits, top)

/-- The decimal digits of a number, with zeros in front up to `width`. -/
def padded (width n : Nat) : List Char :=
  let digits := (toString n).toList
  List.replicate (width - digits.length) '0' ++ digits

/-- A point and the digits after it; no point when there are none, unless it is
asked for. -/
def fraction (point : Bool) (digits : List Char) : List Char :=
  if digits.isEmpty && !point then [] else '.' :: digits

/-- A quotient with a fixed number of places. -/
def fixed (point : Bool) (num den places : Nat) : List Char :=
  let digits := padded (places + 1) (scaled num den places)
  let whole := digits.length - places
  digits.take whole ++ fraction point (digits.drop whole)

/-- The exponent of a number in text: a sign and at least two digits. -/
def exponentText (letter : Char) (e : Int) : List Char :=
  letter :: (if e < 0 then '-' else '+') :: padded 2 e.natAbs

/-- The text of significant digits with an exponent. -/
def scientificText (point : Bool) (letter : Char) (digits : List Char) (e : Int) : List Char :=
  digits.take 1 ++ fraction point (digits.drop 1) ++ exponentText letter e

/-- A quotient as one digit, `places` further ones, and an exponent. -/
def scientific (point : Bool) (letter : Char) (num den places : Nat) : List Char :=
  let (digits, e) := significant num den (places + 1)
  scientificText point letter (padded (places + 1) digits) e

/-- Drop the zeros at the end. -/
def dropZeros (digits : List Char) : List Char :=
  (digits.reverse.dropWhile (· == '0')).reverse

/-- A quotient with `count` significant digits, in fixed places when its first
digit stands not lower than four places after the point nor above the last
digit, else with an exponent. Zeros at the end go unless they are asked for. -/
def general (keepZeros : Bool) (letter : Char) (num den count : Nat) : List Char :=
  let count := max count 1
  let (value, e) := significant num den count
  let digits := padded count value
  if e < -4 || e ≥ count then
    let rest := if keepZeros then digits.drop 1 else dropZeros (digits.drop 1)
    digits.take 1 ++ fraction keepZeros rest ++ exponentText letter e
  else
    let (whole, rest) :=
      if e < 0 then (['0'], List.replicate ((-e).toNat - 1) '0' ++ digits)
      else (digits.take (e.toNat + 1), digits.drop (e.toNat + 1))
    whole ++ fraction keepZeros (if keepZeros then rest else dropZeros rest)

/-- The hexadecimal digits of a number, with zeros in front up to `width`. -/
def hexPadded (width n : Nat) : List Char :=
  let digits := Nat.toDigits 16 n
  List.replicate (width - digits.length) '0' ++ digits

/-- `mantissa * 2 ^ exponent` in hexadecimal with a binary exponent; `places` is
the number of digits after the point, as many as needed when absent. -/
def hexadecimal (point : Bool) (places : Option Nat) (mantissa : Nat) (exponent : Int) :
    List Char :=
  let e : Int := if mantissa == 0 then 0 else exponent + 52
  let (lead, tail) :=
    match places with
    | some places =>
        if places < 13 then
          let n := Binary64.roundDiv mantissa (1 <<< (4 * (13 - places)))
          (n >>> (4 * places),
            if places == 0 then [] else hexPadded places (n % 1 <<< (4 * places)))
        else
          (mantissa >>> 52, hexPadded 13 (mantissa % 1 <<< 52) ++ List.replicate (places - 13) '0')
    | none => (mantissa >>> 52, dropZeros (hexPadded 13 (mantissa % 1 <<< 52)))
  ['0', 'x'] ++ Nat.toDigits 16 lead ++ fraction point tail ++
    ['p', if e < 0 then '-' else '+'] ++ (toString e.natAbs).toList

end LuaSession.Decimal
