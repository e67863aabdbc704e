import LuaSession.Number.Decimal
import LuaSession.Number.Integer
import LuaSession.Number.Numeral

/-!
# Numbers in script text

How scripts see a number as text: integers in decimal, floats with fourteen
significant digits. A float whose text would read as an integer gets `.0`.
-/

namespace LuaSession.Number

/-- How many significant digits the text of a float has. -/
def precision : Nat := 14

/-- The quotient of natural numbers that a mantissa and an exponent stand for. -/
def ratio (mantissa : Nat) (exponent : Int) : Nat × Nat :=
  if exponent ≥ 0 then (mantissa <<< exponent.toNat, 1) else (mantissa, 1 <<< (-exponent).toNat)

/-- The sign in front of a negative number. -/
def signText (negative : Bool) : List Char := if negative then ['-'] else []

/-- The text of a float. -/
def floatText (x : Binary64) : String :=
  match Binary64.parts x with
  | .nan negative => if negative then "-nan" else "nan"
  | .infinite negative => if negative then "-inf" else "inf"
  | .finite negative mantissa exponent =>
      let (num, den) := ratio mantissa exponent
      let digits := Decimal.general false 'e' num den precision
      let body := if digits.all Char.isDigit then digits ++ ['.', '0'] else digits
      String.ofList (signText negative ++ body)

/-- The text of a number. -/
def text : Number → String
  | .int i => Integer.text i
  | .float x => floatText x

end LuaSession.Number
