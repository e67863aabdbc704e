import LuaSession.Script.Value

/-!
# Script trees

The tree that a script is read into. Names are resolved: a variable is a slot of
its function's frame or one of the function's captured variables, and a global
name is a field of the captured environment. Nodes that can fail carry the line
that a message about them names.
-/

namespace LuaSession.Script

/-- The bitwise operators. -/
inductive Bitwise where
  | and | or | xor | shl | shr
  deriving DecidableEq, Repr

/-- The operators of two operands that evaluate both. -/
inductive BinaryOp where
  | arithmetic (operator : Arithmetic)
  | bitwise (operator : Bitwise)
  | concat
  | eq | ne | lt | le | gt | ge
  deriving DecidableEq, Repr

/-- The operators of one operand. -/
inductive UnaryOp where
  | negate | not | length | complement
  deriving DecidableEq, Repr

/-- Where a closure takes a captured variable from when it is made. -/
inductive Capture where
  /-- A slot of the enclosing function's frame. -/
  | slot (index : Nat)
  /-- A captured variable of the enclosing function. -/
  | captured (index : Nat)
  deriving DecidableEq, Repr

/-- What is known of a function beside its body. -/
structure CodeInfo where
  /-- The name of the text, as messages show it. -/
  chunk : Bytes
  /-- The line it is defined on; zero for a whole script. -/
  line : Nat
  parameters : Nat
  isVariadic : Bool
  /-- How many slots its variables need. -/
  slots : Nat
  /-- How much room a call of it takes on the stack of calls. -/
  frameSize : Nat
  /-- The slots whose variables closures capture; empty when there are none. -/
  shared : Array Bool
  captures : Array Capture
  deriving Inhabited

mutual

/-- An expression. -/
inductive Expr where
  | const (constant : Constant)
  | variadic
  | slot (index : Nat) (name : Bytes)
  | captured (index : Nat) (name : Bytes)
  | index (object key : Expr) (line : Nat)
  /-- A call; `room` is how far the frame is in use below it. -/
  | call (function : Expr) (arguments : List Expr) (line room : Nat)
  | method (object : Expr) (name : Bytes) (arguments : List Expr) (nameLine line room : Nat)
  | function (code : Code)
  | unary (operator : UnaryOp) (operand : Expr) (line : Nat)
  | binary (operator : BinaryOp) (left right : Expr) (line : Nat)
  | and (left right : Expr)
  | or (left right : Expr)
  /-- An expression in parentheses: one value. -/
  | single (inner : Expr)
  | table (fields : List Field)

/-- A field of a table constructor. -/
inductive Field where
  | positional (value : Expr)
  | keyed (key value : Expr) (line : Nat)

/-- A statement. -/
inductive Stmt where
  /-- Assignment to variables and fields. -/
  | assign (targets : List Expr) (values : List Expr) (line : Nat)
  /-- New variables in the slots from `first` on. -/
  | declare (first count : Nat) (values : List Expr)
  /-- New variables, of which the one in slot `closing` is closed when the rest
  of the block is left. -/
  | declareClosing (first count : Nat) (values : List Expr) (closing : Nat) (name : Bytes)
      (line : Nat)
  | run (call : Expr)
  | block (labelled : Bool) (body : List Stmt)
  | «while» (condition : Expr) (labelled : Bool) (body : List Stmt)
  | «repeat» (labelled : Bool) (body : List Stmt) (condition : Expr)
  | branch (clauses : List Clause)
  /-- A loop over numbers; the variable stands in slot `index`. -/
  | count (index : Nat) (start stop step : Expr) (labelled : Bool) (body : List Stmt)
      (line : Nat)
  /-- A loop over an iterator; the variables stand in the slots from `first`
  on. -/
  | iterate (first count : Nat) (values : List Expr) (labelled : Bool) (body : List Stmt)
      (line room : Nat)
  /-- A function that can call itself by its name. -/
  | declareFunction (index : Nat) (code : Code)
  | «return» (values : List Expr)
  /-- A call whose results are the function's own, in place of the function. -/
  | tailCall (call : Expr)
  | «break»
  | goto (label : Bytes)
  | label (name : Bytes)

/-- A clause of a conditional statement; the last one may have the condition
`true`. -/
inductive Clause where
  | mk (condition : Expr) (labelled : Bool) (body : List Stmt)

/-- A function. -/
inductive Code where
  | mk (info : CodeInfo) (labelled : Bool) (body : List Stmt)

end

instance : Inhabited Expr := ⟨.variadic⟩
instance : Inhabited Stmt := ⟨.«break»⟩
instance : Inhabited Code := ⟨.mk default false []⟩

/-- What is known of a function beside its body. -/
def Code.info : Code → CodeInfo
  | .mk info _ _ => info

/-- What messages call a value that an expression has given. -/
inductive Origin where
  | variable (name : Bytes)
  | captured (name : Bytes)
  | global (name : Bytes)
  | field (name : Bytes)
  | method (name : Bytes)
  | constant (bytes : Bytes)
  deriving DecidableEq

namespace Origin

/-- The words for an origin: its kind and its name. -/
def words : Origin → String × Bytes
  | .variable name => ("local", name)
  | .captured name => ("upvalue", name)
  | .global name => ("global", name)
  | .field name => ("field", name)
  | .method name => ("method", name)
  | .constant bytes => ("constant", bytes)

end Origin

namespace Expr

/-- The name of the variable that holds the environment of global names. -/
def environment : Bytes := "_ENV".toUTF8

/-- Does an expression stand for the environment of global names? -/
def isEnvironment : Expr → Bool
  | .slot _ name => name == environment
  | .captured _ name => name == environment
  | _ => false

/-- What messages call a field, by the expression of its key. Small integers
that are written out are called alike; other keys that are no string constants
have no name. -/
def keyName : Expr → Bytes
  | .const (.str bytes) => bytes
  | .const (.int i) => if 0 ≤ i && i ≤ 255 then "integer index".toUTF8 else "?".toUTF8
  | _ => "?".toUTF8

/-- What messages call the value of an expression, if they can tell. -/
def origin? : Expr → Option Origin
  | .slot _ name => some (.variable name)
  | .captured _ name => some (.captured name)
  | .const (.str bytes) => some (.constant bytes)
  | .index object key _ =>
      match key with
      | .const (.str name) =>
          if object.isEnvironment then some (.global name) else some (.field name)
      | key => some (.field key.keyName)
  | _ => none

/-- Can an expression give any number of values? -/
def isMulti : Expr → Bool
  | .variadic | .call .. | .method .. => true
  | _ => false

end Expr

end LuaSession.Script
