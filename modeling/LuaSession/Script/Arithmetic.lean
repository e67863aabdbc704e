import LuaSession.Script.Tree

/-!
# Operators on numbers

What the arithmetic and bitwise operators do on numbers. Integers stay integers
where the operator has an integer result; a bitwise operator wants numbers that
are integers.
-/

namespace LuaSession.Script

/-- Why an operator has no result on two numbers. -/
inductive NumberError where
  | divisionByZero
  | remainderByZero
  deriving DecidableEq, Repr

/-- The wording of a number error. -/
def NumberError.message : NumberError → String
  | .divisionByZero => "attempt to divide by zero"
  | .remainderByZero => "attempt to perform 'n%0'"

namespace Arithmetic

/-- An operator on floats. -/
@[inline] def onFloats (op : Arithmetic) (x y : Binary64) : Binary64 :=
  match op with
  | .add => Binary64.add x y
  | .sub => Binary64.sub x y
  | .mul => Binary64.mul x y
  | .mod => Binary64.mod x y
  | .pow => Binary64.pow x y
  | .div => Binary64.div x y
  | .idiv => Binary64.floorDiv x y

/-- An operator on integers. -/
@[inline] def onInts (op : Arithmetic) (a b : Int64) : Except NumberError Value :=
  match op with
  | .add => .ok (.int (a + b))
  | .sub => .ok (.int (a - b))
  | .mul => .ok (.int (a * b))
  | .mod => if b == 0 then .error .remainderByZero else .ok (.int (Integer.floorMod a b))
  | .idiv => if b == 0 then .error .divisionByZero else .ok (.int (Integer.floorDiv a b))
  | .pow => .ok (.float (Binary64.pow (Binary64.ofInt64 a) (Binary64.ofInt64 b)))
  | .div => .ok (.float (Binary64.div (Binary64.ofInt64 a) (Binary64.ofInt64 b)))

/-- An operator on two values, if both are numbers. -/
@[inline] def result? (op : Arithmetic) (x y : Value) : Option (Except NumberError Value) :=
  match x, y with
  | .int a, .int b => some (op.onInts a b)
  | .float a, .float b => some (.ok (.float (op.onFloats a b)))
  | .int a, .float b => some (.ok (.float (op.onFloats (Binary64.ofInt64 a) b)))
  | .float a, .int b => some (.ok (.float (op.onFloats a (Binary64.ofInt64 b))))
  | _, _ => none

/-- The name of the metamethod of an operator. -/
def event : Arithmetic → String
  | .add => "add" | .sub => "sub" | .mul => "mul" | .mod => "mod" | .pow => "pow"
  | .div => "div" | .idiv => "idiv"

end Arithmetic

namespace Bitwise

/-- An operator on integers. -/
@[inline] def onInts (op : Bitwise) (a b : Int64) : Int64 :=
  match op with
  | .and => a &&& b
  | .or => a ||| b
  | .xor => a ^^^ b
  | .shl => Integer.shiftLeft a b
  | .shr => Integer.shiftLeft a (-b)

/-- The name of the metamethod of an operator. -/
def event : Bitwise → String
  | .and => "band" | .or => "bor" | .xor => "bxor" | .shl => "shl" | .shr => "shr"

end Bitwise

/-- A number with the other sign. -/
def negate? : Value → Option Value
  | .int a => some (.int (-a))
  | .float x => some (.float (Binary64.neg x))
  | _ => none

/-- The integer that a number is, without conversion from strings. -/
def exactInt? (value : Value) : Option Int64 := value.number? >>= Value.numberToInt?

namespace Fold

/-- A number that may stand for its operation: floats that are zero or no number
keep being computed. -/
def accept : Value → Option Constant
  | .int a => some (.int a)
  | .float x => if Binary64.isNaN x || Binary64.abs x == 0 then none else some (.float x)
  | _ => none

/-- The constant that an operator gives on two constants. -/
def binary? (op : BinaryOp) (x y : Constant) : Option Constant :=
  match op with
  | .arithmetic op =>
      let byZero := match y with
        | .int b => b == 0
        | .float b => Binary64.abs b == 0
        | _ => false
      let divides := op == .div || op == .idiv || op == .mod
      if divides && byZero then none
      else
        match op.result? x.value y.value with
        | some (.ok value) => accept value
        | _ => none
  | .bitwise op => do
      let a ← exactInt? x.value
      let b ← exactInt? y.value
      return .int (op.onInts a b)
  | _ => none

/-- The constant that an operator gives on a constant. -/
def unary? (op : UnaryOp) (x : Constant) : Option Constant :=
  match op with
  | .negate => negate? x.value >>= accept
  | .complement => (exactInt? x.value).map fun a => .int (~~~a)
  | _ => none

end Fold

end LuaSession.Script
