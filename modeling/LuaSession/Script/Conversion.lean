import LuaSession.Script.Heap
import LuaSession.Text.Utf8

/-!
# Values as the host gets them

What the host makes of script values: numbers of a width, texts, lists. Numbers
and strings are converted into each other by the rules of scripts; a float loses
what stands behind its point.
-/

namespace LuaSession.Script.Conversion

/-- The name of a value's type as the host knows it. -/
def typeName (s : Store) : Value → String
  | .int _ => "integer"
  | .handle ref =>
      match s.resource ref with
      | .failure _ | .panic _ | .spentPanic => "error"
      | _ => "userdata"
  | value => value.typeName

/-- The name of a number's type in messages about integers: a float that is an
integer counts as one. -/
def numberTypeName (s : Store) (value : Value) : String :=
  match value with
  | .float x => if (Binary64.toInt64? x).isSome then "integer" else "number"
  | value => typeName s value

/-- Fail because a value is not what the host wants. -/
def refuse {α : Type} (source target reason : String) : Except Failure α :=
  .error (.conversion .fromScript source target (some reason))

/-- What is said of a value that is no number. -/
def noNumber : String := "expected number or string coercible to number"

/-- What is said of a number that is too great or too small. -/
def outOfRange : String := "out of range"

/-- The integer nearest to a float in the direction of zero. -/
def truncate? (x : Binary64) : Option Int :=
  match Binary64.parts x with
  | .finite negative mantissa exponent =>
      let magnitude : Nat :=
        if exponent ≥ 0 then mantissa <<< exponent.toNat
        else mantissa >>> (-exponent).toNat
      some (if negative then -magnitude else magnitude)
  | _ => none

/-- An integer between two bounds. -/
def integer (s : Store) (target : String) (low high : Int) (value : Value) :
    Except Failure Int :=
  let source := numberTypeName s value
  let bounded (n : Option Int) : Except Failure Int :=
    match n with
    | some n => if low ≤ n ∧ n ≤ high then .ok n else refuse source target outOfRange
    | none => refuse source target outOfRange
  match value.toInt? with
  | some i => bounded (some i.toInt)
  | none =>
      match value.toFloat? with
      | some x => bounded (truncate? x)
      | none => refuse source target noNumber

/-- An integer of 64 bits. -/
def integer64 (s : Store) (value : Value) : Except Failure Int :=
  integer s "i64" Int64.minValue.toInt Int64.maxValue.toInt value

/-- A natural number below 256. -/
def unsigned8 (s : Store) (value : Value) : Except Failure Int := integer s "u8" 0 255 value

/-- A float. -/
def float (s : Store) (value : Value) : Except Failure Binary64 :=
  match value.toFloat? with
  | some x => .ok x
  | none => refuse (typeName s value) "f64" noNumber

/-- A text; strings have to be UTF-8. -/
def text (s : Store) (value : Value) : Except Failure String :=
  match value.toBytes? with
  | none => refuse (typeName s value) "String" "expected string or number"
  | some bytes =>
      match Utf8.decode? bytes with
      | some text => .ok text
      | none =>
          let reason := match Utf8.firstFault? bytes with
            | some fault => fault.message
            | none => ""
          refuse (typeName s value) "String" reason

/-- A list: the elements of a table from the first one up to the first that is
missing. -/
def elements (t : Table) : (fuel index : Nat) → List Value
  | 0, _ => []
  | fuel + 1, index =>
      let value := t.get (.ofNat index)
      if value.isNil then [] else value :: elements t fuel (index + 1)

/-- A list of integers. -/
def integers (s : Store) (value : Value) : Except Failure (List Int) :=
  match value with
  | .table ref =>
      let t := s.table ref
      (elements t (t.array.size + t.pairs.size) 1).mapM (integer64 s)
  | value => refuse (typeName s value) "Vec<i64>" "expected table"

/-- Fail because a value is not of a kind. -/
def refuseKind {α : Type} (s : Store) (value : Value) (target : String) : Except Failure α :=
  .error (.conversion .fromScript (typeName s value) target none)

/-- A function. -/
def function (s : Store) (value : Value) : Except Failure Value :=
  if value.isFunction then .ok value else refuseKind s value "function"

/-- A resource that is no error. -/
def resource (s : Store) (value : Value) : Except Failure Nat :=
  match value with
  | .handle ref =>
      match s.resource ref with
      | .failure _ | .panic _ | .spentPanic => refuseKind s value "userdata"
      | _ => .ok ref
  | value => refuseKind s value "userdata"

end LuaSession.Script.Conversion
