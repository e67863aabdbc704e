import LuaSession.Library.Arguments

/-!
# The mathematical library
-/

namespace LuaSession.Library

open LuaSession.Script

namespace Mathematics

/-- A float that is an integer of 64 bits, as that integer. -/
def settleInt (x : Binary64) : Value :=
  match Binary64.toInt64? x with
  | some i => .int i
  | none => .float x

/-- A function on floats. -/
def onFloat (op : Float → Float) : Function := fun caller arguments => do
  let x ← floatArgument caller arguments 1
  return #[.float (Binary64.lift op x)]

/-- Round a number. -/
def rounded (round : Binary64 → Binary64) : Function := fun caller arguments => do
  match argument arguments 1 with
  | .int i => return #[.int i]
  | _ =>
      let x ← floatArgument caller arguments 1
      return #[settleInt (round x)]

/-- The argument that is furthest in one direction. -/
def extreme (better : Value → Value → Run Bool) : (best : Value) → List Value → Run Value
  | best, [] => return best
  | best, value :: rest => do
      if ← better value best then extreme better value rest else extreme better best rest

/-- The number `π`. -/
def pi : Binary64 := 0x400921FB54442D18

/-- The fraction and the exponent of a float: `fraction * 2 ^ exponent`, with the
fraction from one half up to one. -/
def split (x : Binary64) : Binary64 × Int :=
  match Binary64.parts x with
  | .finite negative mantissa exponent =>
      if mantissa == 0 then (x, 0)
      else
        let size := mantissa.log2 + 1
        (Binary64.ofRatio negative mantissa (1 <<< size), exponent + size)
  | _ => (x, 0)

/-- A float times a power of two. -/
def scale (x : Binary64) (exponent : Int) : Binary64 :=
  match Binary64.parts x with
  | .finite negative mantissa e =>
      let e := e + exponent
      if mantissa == 0 then x
      else if e > 2000 then Binary64.infinity negative
      else if e < -2300 then Binary64.ofRatio negative 0 1
      else if e ≥ 0 then Binary64.ofRatio negative (mantissa <<< e.toNat) 1
      else Binary64.ofRatio negative mantissa (1 <<< (-e).toNat)
  | _ => x

/-- A number cut to its integral part, and the rest. -/
def cut (x : Binary64) : Array Value :=
  let whole := if Binary64.lt x 0 then Binary64.ceil x else Binary64.floor x
  let rest := if Binary64.eq x whole then 0 else Binary64.sub x whole
  #[settleInt whole, .float rest]

/-- A random number from a range of integers. -/
def randomBetween (caller : Caller) (word : UInt64) (low up : Int64) : Run (Array Value) := do
  if low > up then argFail caller 1 "interval is empty"
  else
    let n ← Run.update fun s =>
      let (n, random) := s.world.random.project word (up.toUInt64 - low.toUInt64)
      (n, { s with world := { s.world with random } })
    return #[.int (n + low.toUInt64).toInt64]

/-- A random number. -/
def random : Function := fun caller arguments => do
  let word ← Run.update fun s =>
    let (word, random) := s.world.random.next
    (word, { s with world := { s.world with random } })
  match arguments.size with
  | 0 => return #[.float (RandomState.toUnit word)]
  | 1 =>
      let up ← intArgument caller arguments 1
      if up == 0 then return #[.int word.toInt64]
      else randomBetween caller word 1 up
  | 2 =>
      let low ← intArgument caller arguments 1
      let up ← intArgument caller arguments 2
      randomBetween caller word low up
  | _ => caller.fail "wrong number of arguments"

/-- Start the random numbers anew. -/
def seed : Function := fun caller arguments => do
  let (a, b) ← if arguments.isEmpty then
      Run.read fun s => (s.world.random.next.1, s.world.random.next.2.next.1)
    else do
      let n ← numberArgument caller arguments 1
      let a := match Value.numberToInt? n with
        | some i => i.toUInt64
        | none => Value.numberToFloat n
      let b ← optionalInt caller arguments 2 0
      pure (a, b.toUInt64)
  Run.modify fun s =>
    { s with world := { s.world with random := RandomState.ofSeeds a b } }
  return #[.int a.toInt64, .int b.toInt64]

end Mathematics

open Mathematics in
/-- The functions of the mathematical library. -/
def runMath (function : MathFunction) : Function := fun caller arguments => do
  match function with
  | .abs =>
      match argument arguments 1 with
      | .int i => return #[.int (if i < 0 then -i else i)]
      | _ => return #[.float (Binary64.abs (← floatArgument caller arguments 1))]
  | .acos => onFloat Float.acos caller arguments
  | .asin => onFloat Float.asin caller arguments
  | .atan =>
      let y ← floatArgument caller arguments 1
      let x ← if (argument arguments 2).isNil then pure (Binary64.ofInt64 1)
        else floatArgument caller arguments 2
      return #[.float (Binary64.lift₂ Float.atan2 y x)]
  | .atan2 =>
      let y ← floatArgument caller arguments 1
      let x ← floatArgument caller arguments 2
      return #[.float (Binary64.lift₂ Float.atan2 y x)]
  | .ceil => rounded Binary64.ceil caller arguments
  | .floor => rounded Binary64.floor caller arguments
  | .cos => onFloat Float.cos caller arguments
  | .cosh => onFloat Float.cosh caller arguments
  | .sin => onFloat Float.sin caller arguments
  | .sinh => onFloat Float.sinh caller arguments
  | .tan => onFloat Float.tan caller arguments
  | .tanh => onFloat Float.tanh caller arguments
  | .exp => onFloat Float.exp caller arguments
  | .sqrt => onFloat Float.sqrt caller arguments
  | .log10 => onFloat Float.log10 caller arguments
  | .log =>
      let x ← floatArgument caller arguments 1
      if (argument arguments 2).isNil then return #[.float (Binary64.lift Float.log x)]
      else
        let base ← floatArgument caller arguments 2
        if Binary64.eq base (Binary64.ofInt64 2) then
          return #[.float (Binary64.lift Float.log2 x)]
        else if Binary64.eq base (Binary64.ofInt64 10) then
          return #[.float (Binary64.lift Float.log10 x)]
        else
          return #[.float
            (Binary64.div (Binary64.lift Float.log x) (Binary64.lift Float.log base))]
  | .deg =>
      let x ← floatArgument caller arguments 1
      return #[.float (Binary64.mul x (Binary64.div (Binary64.ofInt64 180) pi))]
  | .rad =>
      let x ← floatArgument caller arguments 1
      return #[.float (Binary64.mul x (Binary64.div pi (Binary64.ofInt64 180)))]
  | .pow =>
      let x ← floatArgument caller arguments 1
      let y ← floatArgument caller arguments 2
      return #[.float (Binary64.pow x y)]
  | .fmod =>
      match argument arguments 1, argument arguments 2 with
      | .int a, .int b =>
          if b == 0 then argFail caller 2 "zero"
          else if b == -1 then return #[.int 0]
          else return #[.int (a % b)]
      | _, _ =>
          let x ← floatArgument caller arguments 1
          let y ← floatArgument caller arguments 2
          return #[.float (Binary64.fmod x y)]
  | .modf =>
      match argument arguments 1 with
      | .int i => return #[.int i, .float 0]
      | _ => return cut (← floatArgument caller arguments 1)
  | .frexp =>
      let (fraction, exponent) := split (← floatArgument caller arguments 1)
      return #[.float fraction, .int (Int64.ofInt exponent)]
  | .ldexp =>
      let x ← floatArgument caller arguments 1
      let e ← intArgument caller arguments 2
      return #[.float (scale x e.toInt)]
  | .max =>
      let first ← anyArgument caller arguments 1
      return #[← extreme (fun value best => Run.lessThan .library best value) first
        (arguments.toList.drop 1)]
  | .min =>
      let first ← anyArgument caller arguments 1
      return #[← extreme (fun value best => Run.lessThan .library value best) first
        (arguments.toList.drop 1)]
  | .tointeger =>
      match (argument arguments 1).toInt? with
      | some i => return #[.int i]
      | none =>
          let _ ← anyArgument caller arguments 1
          return #[.nil]
  | .type =>
      match argument arguments 1 with
      | .int _ => return #[.ofString "integer"]
      | .float _ => return #[.ofString "float"]
      | _ =>
          let _ ← anyArgument caller arguments 1
          return #[.nil]
  | .ult =>
      let a ← intArgument caller arguments 1
      let b ← intArgument caller arguments 2
      return #[.bool (Integer.unsignedLt a b)]
  | .random => random caller arguments
  | .randomseed => seed caller arguments

end LuaSession.Library
