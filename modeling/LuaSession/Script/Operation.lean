import LuaSession.Script.Arithmetic
import LuaSession.Script.Step

/-!
# Operations on values

What the operators do, metatables included: taking and putting fields,
arithmetic, comparison, concatenation, length and text. An operation that has no
meaning for its operands fails with a message that names the expression an
operand comes from, as far as it can be named.
-/

namespace LuaSession.Script

/-- An expression that messages have no name for. -/
def Expr.unnamed : Expr := .variadic

/-- The name of a metamethod's field. -/
def eventKey (event : String) : Value := .ofString ("__" ++ event)

namespace Event

def index : Value := eventKey "index"
def newindex : Value := eventKey "newindex"
def call : Value := eventKey "call"
def eq : Value := eventKey "eq"
def lt : Value := eventKey "lt"
def le : Value := eventKey "le"
def concat : Value := eventKey "concat"
def len : Value := eventKey "len"
def unm : Value := eventKey "unm"
def bnot : Value := eventKey "bnot"
def close : Value := eventKey "close"
def gc : Value := eventKey "gc"
def mode : Value := eventKey "mode"
def name : Value := eventKey "name"
def metatable : Value := eventKey "metatable"
def tostring : Value := eventKey "tostring"
def pairs : Value := eventKey "pairs"

end Event

/-- The name of a value's type, as its metatable may tell it. -/
def Store.typeNameOf (s : Store) (value : Value) : Bytes :=
  match value with
  | .str _ => "string".toUTF8
  | value =>
      match s.metafield value Event.name with
      | .str name => name
      | _ => value.typeName.toUTF8

/-- The methods of the adapter, by their names. -/
def adapterMethods : List (String × AdapterMethod) :=
  [("write", .write), ("flush", .flush), ("setvbuf", .setvbuf), ("close", .close)]

/-- A field of the adapter: one of its methods, or nothing. -/
def adapterField (key : Value) : Value :=
  match adapterMethods.find? fun entry => Value.ofString entry.1 == key with
  | some (_, method) => .builtin (.adapter method)
  | none => .nil

/-- What a value has as a field of its own; `none` when its metatable decides. -/
def Store.field? (s : Store) (object key : Value) : Option Value :=
  match object with
  | .table ref =>
      let value := (s.table ref).get key
      if value.isNil then none else some value
  | .handle ref =>
      match s.resource ref with
      | .adapter => some (adapterField key)
      | _ => none
  | _ => none

namespace Run

/-- Fail because an operation has no meaning for a value. -/
def failType {α : Type} (place : Place) (blame : Expr) (value : Value) (action : String) :
    Run α := do
  let type ← read (·.typeNameOf value)
  let origin := match place with
    | .script _ => describeOrigin blame.origin?
    | .library => ByteArray.empty
  faultBytes place (s!"attempt to {action} a ".toUTF8 ++ type ++ " value".toUTF8 ++ origin)

/-- Call a function in place of an operation. -/
def callEvent (place : Place) (event : String) (function : Value) (arguments : Array Value) :
    Run (Array Value) :=
  let line := match place with
    | .script line => line
    | .library => 0
  call function arguments { kind := .event, line, callee := .event event }

/-- How many metatables a field is looked for in. -/
def chainLimit : Nat := 2000

/-- Take a field of a value that is no table holding it. -/
def indexChain (place : Place) (blame : Expr) : (fuel : Nat) → (object key : Value) → Run Value
  | 0, _, _ => fault place "'__index' chain too long; possible loop"
  | fuel + 1, object, key => do
      match ← read (·.field? object key) with
      | some value => return value
      | none =>
          let handler ← read (·.metafield object Event.index)
          match handler with
          | .nil =>
              match object with
              | .table _ => return .nil
              | _ => failType place blame object "index"
          | .closure _ | .builtin _ | .native _ =>
              return firstOf (← callEvent place "index" handler #[object, key])
          | handler => indexChain place Expr.unnamed fuel handler key

/-- Take a field of a value. -/
@[inline] def index (place : Place) (blame : Expr) (object key : Value) : Run Value := fun s =>
  match object with
  | .table ref =>
      let value := (s.table ref).get key
      if value.isNil then
        if (s.table ref).metatable.isNone then .done .nil s
        else indexChain place blame chainLimit object key s
      else .done value s
  | _ => indexChain place blame chainLimit object key s

/-- About how many bytes a further field takes. -/
def fieldBytes : Nat := 32

/-- Put a field into a table, metatables apart. -/
def rawSet (place : Place) (ref : Nat) (key value : Value) : Run Unit :=
  match key with
  | .nil => fault place "table index is nil"
  | .float x =>
      if Binary64.isNaN x then fault place "table index is NaN"
      else modify fun s => (s.put ref (Value.key key) value).charged fieldBytes
  | key => modify fun s =>
      let known := !((s.table ref).get key).isNil
      let s := s.put ref key value
      if known then s else s.charged fieldBytes

/-- Put a field into a value that is no table holding it. -/
def assignChain (place : Place) (blame : Expr) : (fuel : Nat) → (object key value : Value) →
    Run Unit
  | 0, _, _, _ => fault place "'__newindex' chain too long; possible loop"
  | fuel + 1, object, key, value => do
      let handler ← read fun s =>
        match object with
        | .table ref =>
            if ((s.table ref).get key).isNil then s.metafield object Event.newindex else .nil
        | _ => s.metafield object Event.newindex
      match handler with
      | .nil =>
          match object with
          | .table ref => rawSet place ref key value
          | _ => failType place blame object "index"
      | .closure _ | .builtin _ | .native _ =>
          let _ ← callEvent place "newindex" handler #[object, key, value]
      | handler => assignChain place Expr.unnamed fuel handler key value

/-- Put a field into a value. -/
@[inline] def assign (place : Place) (blame : Expr) (object key value : Value) : Run Unit :=
  fun s =>
    match object with
    | .table ref =>
        if (s.table ref).metatable.isNone then rawSet place ref key value s
        else assignChain place blame chainLimit object key value s
    | _ => assignChain place blame chainLimit object key value s

/-- Call the metamethod that the first operand has, or else the second. -/
def binaryEvent? (place : Place) (event : String) (key x y : Value) : Run (Option Value) := do
  let first ← read (·.metafield x key)
  let handler ← if first.isNil then read (·.metafield y key) else pure first
  if handler.isNil then return none
  else return some (firstOf (← callEvent place event handler #[x, y]))

/-- Fail because an operator of two operands has no meaning for one of them: the
second one, unless the first is no number either. -/
def failOperand {α : Type} (place : Place) (action : String) (left right : Expr) (x y : Value) :
    Run α :=
  if x.number?.isNone then failType place left x action else failType place right y action

/-- An arithmetic operator on values that are not both numbers, or have no
result. -/
def arithmeticSlow (place : Place) (left right : Expr) (op : Arithmetic) (x y : Value) :
    Run Value := do
  match op.result? x y with
  | some (.ok value) => return value
  | some (.error error) => fault place error.message
  | none =>
      match ← binaryEvent? place op.event (eventKey op.event) x y with
      | some value => return value
      | none => failOperand place "perform arithmetic on" left right x y

/-- An arithmetic operator. -/
@[inline] def arithmetic (place : Place) (left right : Expr) (op : Arithmetic) (x y : Value) :
    Run Value := fun s =>
  match op.result? x y with
  | some (.ok value) => .done value s
  | _ => arithmeticSlow place left right op x y s

/-- Fail because a number is no integer. -/
def failInteger {α : Type} (place : Place) (left right : Expr) (x : Value) : Run α :=
  let blame := if (exactInt? x).isNone then left else right
  let origin := match place with
    | .script _ => describeOrigin blame.origin?
    | .library => ByteArray.empty
  faultBytes place ("number".toUTF8 ++ origin ++ " has no integer representation".toUTF8)

/-- A bitwise operator. -/
def bitwise (place : Place) (left right : Expr) (op : Bitwise) (x y : Value) : Run Value := do
  match x.toInt?, y.toInt? with
  | some a, some b => return .int (op.onInts a b)
  | _, _ =>
      match ← binaryEvent? place op.event (eventKey op.event) x y with
      | some value => return value
      | none =>
          if x.number?.isSome && y.number?.isSome then failInteger place left right x
          else failOperand place "perform bitwise operation on" left right x y

/-- The opposite of a number. -/
def negate (place : Place) (operand : Expr) (x : Value) : Run Value := do
  match negate? x with
  | some value => return value
  | none =>
      match ← binaryEvent? place "unm" Event.unm x x with
      | some value => return value
      | none => failOperand place "perform arithmetic on" operand operand x x

/-- The bitwise complement of an integer. -/
def complement (place : Place) (operand : Expr) (x : Value) : Run Value := do
  match x.toInt? with
  | some a => return .int (~~~a)
  | none =>
      match ← binaryEvent? place "bnot" Event.bnot x x with
      | some value => return value
      | none =>
          if x.number?.isSome then failInteger place operand operand x
          else failOperand place "perform bitwise operation on" operand operand x x

/-- The length of a value. -/
def length (place : Place) (operand : Expr) (x : Value) : Run Value := do
  match x with
  | .str bytes => return .ofNat bytes.size
  | .table ref =>
      let handler ← read (·.metafield x Event.len)
      if handler.isNil then read fun s => .ofNat (s.table ref).border
      else return firstOf (← callEvent place "len" handler #[x, x])
  | x =>
      let handler ← read (·.metafield x Event.len)
      if handler.isNil then failType place operand x "get length of"
      else return firstOf (← callEvent place "len" handler #[x, x])

/-- Two values one after the other, as text. -/
def concat (place : Place) (left right : Expr) (x y : Value) : Run Value := do
  match x.toBytes?, y.toBytes? with
  | some a, some b =>
      charge (a.size + b.size + 24)
      return .str (a ++ b)
  | a, _ =>
      match ← binaryEvent? place "concat" Event.concat x y with
      | some value => return value
      | none =>
          if a.isSome then failType place right y "concatenate"
          else failType place left x "concatenate"

/-- Are two values equal? -/
def equal (place : Place) (x y : Value) : Run Bool := do
  if x.rawEq y then return true
  else
    match x, y with
    | .table _, .table _ | .handle _, .handle _ =>
        match ← binaryEvent? place "eq" Event.eq x y with
        | some value => return value.truthy
        | none => return false
    | _, _ => return false

end Run

/-- Is a byte sequence before another one in the order of their bytes? -/
def bytesBefore : List UInt8 → List UInt8 → Bool
  | _, [] => false
  | [], _ :: _ => true
  | a :: as, b :: bs => if a == b then bytesBefore as bs else a < b

/-- The order of numbers. -/
def numberLt : Number → Number → Bool
  | .int a, .int b => a < b
  | .float x, .float y => Binary64.lt x y
  | .int a, .float y => Binary64.ltOfInt a y
  | .float x, .int b => Binary64.ltInt x b

/-- The order of numbers, equality included. -/
def numberLe : Number → Number → Bool
  | .int a, .int b => a ≤ b
  | .float x, .float y => Binary64.le x y
  | .int a, .float y => Binary64.leOfInt a y
  | .float x, .int b => Binary64.leInt x b

namespace Run

/-- Fail because two values have no order. -/
def failOrder {α : Type} (place : Place) (x y : Value) : Run α := do
  let first ← read (·.typeNameOf x)
  let second ← read (·.typeNameOf y)
  if first == second then
    faultBytes place ("attempt to compare two ".toUTF8 ++ first ++ " values".toUTF8)
  else
    faultBytes place ("attempt to compare ".toUTF8 ++ first ++ " with ".toUTF8 ++ second)

/-- Is a value less than another one? -/
def lessThan (place : Place) (x y : Value) : Run Bool := do
  match x, y with
  | .int a, .int b => return a < b
  | .str a, .str b => return bytesBefore a.toList b.toList
  | x, y =>
      match x.number?, y.number? with
      | some a, some b => return numberLt a b
      | _, _ =>
          match ← binaryEvent? place "lt" Event.lt x y with
          | some value => return value.truthy
          | none => failOrder place x y

/-- Is a value less than another one or equal to it? Without a metamethod for
that, it is if the other one is not less. -/
def lessEqual (place : Place) (x y : Value) : Run Bool := do
  match x, y with
  | .int a, .int b => return a ≤ b
  | .str a, .str b => return !bytesBefore b.toList a.toList
  | x, y =>
      match x.number?, y.number? with
      | some a, some b => return numberLe a b
      | _, _ =>
          match ← binaryEvent? place "le" Event.le x y with
          | some value => return value.truthy
          | none =>
              match ← binaryEvent? place "lt" Event.lt y x with
              | some value => return !value.truthy
              | none => failOrder place x y

end Run

/-- The text that stands for an entry of the heap. -/
def referenceText (kind n : Nat) : String :=
  let digits := Nat.toDigits 16 (0x55d0c0000000 + kind * 0x10000000 + n * 0x20)
  "0x" ++ String.ofList digits

/-- The text that tells a value that has no other text from others. -/
def identityText : Value → String
  | .table n => referenceText 1 n
  | .closure n => referenceText 2 n
  | .native n => referenceText 3 n
  | .thread n => referenceText 4 n
  | .handle n => referenceText 5 n
  | .builtin f => referenceText 6 (hash f).toNat
  | _ => "0x0"

end LuaSession.Script
