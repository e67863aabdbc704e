/-!
# Integers of 64 bits

Script integers wrap around. Division and remainder round towards minus
infinity; shifts move zeros in on both sides and lose everything when the
distance reaches the width.
-/

namespace LuaSession.Integer

/-- The quotient rounded down; the divisor is not zero. -/
def floorDiv (a b : Int64) : Int64 :=
  if b == -1 then -a
  else
    let q := a / b
    if a % b != 0 && (a ^^^ b) < 0 then q - 1 else q

/-- The remainder of the quotient rounded down; the divisor is not zero. -/
def floorMod (a b : Int64) : Int64 :=
  if b == -1 then 0
  else
    let r := a % b
    if r != 0 && (r ^^^ b) < 0 then r + b else r

/-- Shift to the left; a negative distance shifts to the right. -/
def shiftLeft (a distance : Int64) : Int64 :=
  if distance ≤ -64 || distance ≥ 64 then 0
  else if distance ≥ 0 then (a.toUInt64 <<< distance.toUInt64).toInt64
  else (a.toUInt64 >>> (-distance).toUInt64).toInt64

/-- Comparison as unsigned numbers. -/
def unsignedLt (a b : Int64) : Bool := a.toUInt64 < b.toUInt64

/-- The decimal text of an integer. -/
def text (a : Int64) : String := toString a.toInt

end LuaSession.Integer
