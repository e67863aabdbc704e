import LuaSession.Number.Text
import LuaSession.Script.Builtin
import LuaSession.Text.Utf8

/-!
# Script values

Values are held by value where scripts cannot tell two copies apart, and by a
reference into the heap where they can. A float is its bits, so equality of
values is decidable; equality as scripts see it is `Value.rawEq`.
-/

namespace LuaSession.Script

/-- A script value. Tables, closures, stateful library functions, threads and
host objects are references into the heap. -/
inductive Value where
  | nil
  | bool (value : Bool)
  | int (value : Int64)
  | float (value : Binary64)
  | str (bytes : Bytes)
  | table (ref : Nat)
  | closure (ref : Nat)
  | builtin (function : Builtin)
  | native (ref : Nat)
  | thread (ref : Nat)
  | handle (ref : Nat)
  deriving DecidableEq

namespace Value

instance : Inhabited Value := ⟨.nil⟩

/-- Mix a small tag into a hash. -/
@[inline] private def mixTag (tag hash : UInt64) : UInt64 := mixHash tag hash

/-- A hash of a value; equal values have equal hashes. -/
def hash : Value → UInt64
  | .nil => 1
  | .bool b => if b then 2 else 3
  | .int i => mixTag 5 i.toUInt64
  | .float x => mixTag 7 x
  | .str s => Hashable.hash s
  | .table n => mixTag 11 n.toUInt64
  | .closure n => mixTag 13 n.toUInt64
  | .builtin f => mixTag 17 (Hashable.hash f)
  | .native n => mixTag 19 n.toUInt64
  | .thread n => mixTag 23 n.toUInt64
  | .handle n => mixTag 29 n.toUInt64

instance : Hashable Value := ⟨hash⟩

/-- A string value from text. -/
def ofString (text : String) : Value := .str text.toUTF8

/-- The value of a number. -/
def ofNumber : Number → Value
  | .int i => .int i
  | .float x => .float x

/-- An integer value from a natural number. -/
def ofNat (n : Nat) : Value := .int (Int64.ofNat n)

/-- Everything but `nil` and `false` counts as true. -/
@[inline] def truthy : Value → Bool
  | .nil => false
  | .bool b => b
  | _ => true

/-- Is it `nil`? -/
@[inline] def isNil : Value → Bool
  | .nil => true
  | _ => false

/-- Equality as scripts see it, metamethods apart: numbers compare by their
value, all else by identity or contents. -/
def rawEq : Value → Value → Bool
  | .int a, .int b => a == b
  | .float a, .float b => Binary64.eq a b
  | .int a, .float b => Binary64.toInt64? b == some a
  | .float a, .int b => Binary64.toInt64? a == some b
  | .str a, .str b => a == b
  | a, b => a == b

/-- The name of a value's type. -/
def typeName : Value → String
  | .nil => "nil"
  | .bool _ => "boolean"
  | .int _ | .float _ => "number"
  | .str _ => "string"
  | .table _ => "table"
  | .closure _ | .builtin _ | .native _ => "function"
  | .thread _ => "thread"
  | .handle _ => "userdata"

/-- Is it a function? -/
def isFunction : Value → Bool
  | .closure _ | .builtin _ | .native _ => true
  | _ => false

/-- The number that a value is; strings are not converted. -/
def number? : Value → Option Number
  | .int i => some (.int i)
  | .float x => some (.float x)
  | _ => none

/-- The number that a value is or, for a string, reads as. -/
def toNumber? : Value → Option Number
  | .int i => some (.int i)
  | .float x => some (.float x)
  | .str s => Numeral.read? s.toList
  | _ => none

/-- The integer that a number is, if it is one of 64 bits. -/
def numberToInt? : Number → Option Int64
  | .int i => some i
  | .float x => Binary64.toInt64? x

/-- The integer that a number or a numeral in a string is. -/
def toInt? (value : Value) : Option Int64 :=
  match value with
  | .int i => some i
  | _ => value.toNumber? >>= numberToInt?

/-- The float nearest to a number. -/
def numberToFloat : Number → Binary64
  | .int i => Binary64.ofInt64 i
  | .float x => x

/-- The float that a number or a numeral in a string is. -/
def toFloat? (value : Value) : Option Binary64 :=
  match value with
  | .float x => some x
  | _ => value.toNumber?.map numberToFloat

/-- The bytes of a string or of the text of a number. -/
def toBytes? : Value → Option Bytes
  | .str s => some s
  | .int i => some (Integer.text i).toUTF8
  | .float x => some (Number.floatText x).toUTF8
  | _ => none

/-- The key that a value is in a table: a float that is an integer is the same
key as the integer. -/
@[inline] def key : Value → Value
  | .float x =>
      match Binary64.toInt64? x with
      | some i => .int i
      | none => .float x
  | value => value

end Value

/-- A value that can be written out in a script: it refers to nothing on the heap. -/
inductive Constant where
  | nil
  | bool (value : Bool)
  | int (value : Int64)
  | float (value : Binary64)
  | str (bytes : Bytes)
  deriving DecidableEq

namespace Constant

instance : Inhabited Constant := ⟨.nil⟩

/-- The value that is written out. -/
def value : Constant → Value
  | .nil => .nil
  | .bool b => .bool b
  | .int i => .int i
  | .float x => .float x
  | .str s => .str s

/-- A string from text. -/
def ofString (text : String) : Constant := .str text.toUTF8

/-- A number. -/
def ofNumber : Number → Constant
  | .int i => .int i
  | .float x => .float x

/-- Everything but `nil` and `false` counts as true. -/
def truthy (constant : Constant) : Bool := constant.value.truthy

end Constant

end LuaSession.Script
