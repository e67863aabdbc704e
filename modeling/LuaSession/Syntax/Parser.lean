import LuaSession.Syntax.Scope

/-!
# Reading scripts

The grammar of scripts, read by recursive descent. Each reader consumes the
tokens of one construct and gives its tree. Nested constructs are read by a
`Reader` that is handed in, so no reader calls itself through another; `reader`
ties them together as deep as scripts may nest.

A reader also keeps count of how much of the function's frame an expression
holds while it is evaluated: scripts that need too much are refused.
-/

namespace LuaSession.Syntax

open LuaSession.Script

/-- What kind of expression has been read, before its value is needed. -/
inductive Form where
  | const
  /-- A name for a known value. -/
  | named (name : Bytes)
  | slot (kind : VariableKind) (name : Bytes)
  | captured (kind : VariableKind) (name : Bytes)
  | indexed
  | call
  | variadic
  /-- A value that stands on the frame. -/
  | placed
  /-- A value that is not on the frame yet. -/
  | loose

/-- An expression that has been read. -/
structure Parsed where
  expr : Expr
  form : Form
  /-- How many places at the top of the frame it holds. -/
  held : Nat := 0

namespace Parsed

/-- A constant. -/
def ofValue (constant : Constant) : Parsed := ⟨.const constant, .const, 0⟩

/-- The value of a constant. -/
def value? (p : Parsed) : Option Constant :=
  match p.form, p.expr with
  | .const, .const value => some value
  | .named _, .const value => some value
  | _, _ => none

/-- Is it a number that is known while reading? -/
def isNumeral (p : Parsed) : Bool :=
  match p.value? with
  | some (.int _) | some (.float _) => true
  | _ => false

/-- Can it be assigned to, apart from being read-only? -/
def isTarget (p : Parsed) : Bool :=
  match p.form with
  | .named _ | .slot .. | .captured .. | .indexed => true
  | _ => false

/-- The name of a variable that may not be assigned to. -/
def readOnlyName? (p : Parsed) : Option Bytes :=
  match p.form with
  | .named name => some name
  | .slot kind name | .captured kind name => if kind.isReadOnly then some name else none
  | _ => none

/-- Can it give any number of values? -/
def isMulti (p : Parsed) : Bool :=
  match p.form with
  | .call | .variadic => true
  | _ => false

end Parsed

/-- A field access with the line on which it happens. -/
def settled (line : Nat) : Expr → Expr
  | .index object key 0 => .index object key line
  | expr => expr

namespace Read

/-- The expression is needed as a value from here on. -/
def discharge (p : Parsed) : Read Parsed := do
  match p.form with
  | .named _ => return { p with form := .const }
  | .slot .. => return { p with form := .placed }
  | .captured .. | .variadic => return { p with form := .loose }
  | .indexed =>
      release p.held
      return ⟨settled (← get).lastLine p.expr, .loose, 0⟩
  | .call => return { p with form := .placed }
  | .const | .placed | .loose => return p

/-- Put the value on top of the frame. -/
def toNext (p : Parsed) : Read Parsed := do
  let p ← discharge p
  release p.held
  reserve 1
  return ⟨p.expr, .placed, 1⟩

/-- Put the value on the frame unless it stands there. -/
def toAny (p : Parsed) : Read Parsed := do
  let p ← discharge p
  match p.form with
  | .placed => return p
  | _ =>
      reserve 1
      return ⟨p.expr, .placed, 1⟩

/-- Put the value on the frame unless it is a captured variable. -/
def toAnyOrCaptured (p : Parsed) : Read Parsed :=
  match p.form with
  | .captured .. => return p
  | _ => toAny p

/-- Put the value on the frame unless it is a constant. -/
def toAnyOrConst (p : Parsed) : Read Parsed := do
  let p ← discharge p
  match p.form with
  | .const => return p
  | _ => toAny p

/-- The value is used up: what it holds is free again. -/
def finish (p : Parsed) : Read Expr := do
  let p ← discharge p
  release p.held
  return p.expr

/-- A field of a value. -/
def indexed (object key : Parsed) : Read Parsed := do
  let isName := match key.value? with
    | some (.str name) => name.size ≤ 40
    | _ => false
  let isShort := isName || match key.value? with
    | some (.int i) => 0 ≤ i && i ≤ 255
    | _ => false
  let object ← match object.form with
    | .captured .. => if isName then pure object else toAny object
    | _ => pure object
  let key ← if isShort then pure key else toAny key
  return ⟨.index object.expr key.expr 0, .indexed, object.held + key.held⟩

/-- The variable that a name stands for here, if it is no global name. -/
def localVariable? (name : Bytes) : Read (Option Parsed) := do
  match ← meaning name with
  | .slot v =>
      match v.kind with
      | .constant value => return some ⟨.const value, .named name, 0⟩
      | kind => return some ⟨.slot v.slot name, .slot kind name, 0⟩
  | .captured index kind => return some ⟨.captured index name, .captured kind name, 0⟩
  | .global => return none

/-- What a name stands for here; a global name is a field of the environment. -/
def variableNamed (name : Bytes) : Read Parsed := do
  match ← localVariable? name with
  | some p => return p
  | none =>
      let environment ← localVariable? Expr.environment
      let environment ← toAnyOrCaptured (environment.getD (.ofValue .nil))
      indexed environment (.ofValue (.str name))

/-- Read a name and the variable it stands for. -/
def singleVariable : Read Parsed := do
  let name ← expectName
  variableNamed name

/-- Fail if an expression may not be assigned to. -/
def checkWritable (p : Parsed) : Read Unit := do
  match p.readOnlyName? with
  | some name =>
      failMeaning ("attempt to assign to const variable '".toUTF8 ++ name ++ "'".toUTF8)
  | none => return

/-- Does the current token end a block? -/
def blockEnds (untilEnds : Bool) : Read Bool := do
  match ← token with
  | .eof | .keyword .kElse | .keyword .kElseif | .keyword .kEnd => return true
  | .keyword .kUntil => return untilEnds
  | _ => return false

end Read

/-- The readers of nested constructs. -/
structure Reader where
  /-- Read an expression whose operators bind tighter than the limit. -/
  expression : (limit : Nat) → Read Parsed
  /-- Read the statements of a block, up to the token that ends it. -/
  block : Read (List Stmt)

namespace Operator

/-- How tight the operators of one operand bind. -/
def unaryPriority : Nat := 12

/-- The operators of two operands, `and` and `or` among them. -/
inductive Infix where
  | plain (op : BinaryOp)
  | and
  | or

/-- The operator of one operand that a token stands for. -/
def unary? : Token → Option UnaryOp
  | .keyword .kNot => some .not
  | .symbol 0x2D => some .negate
  | .symbol 0x7E => some .complement
  | .symbol 0x23 => some .length
  | _ => none

/-- The operator of two operands that a token stands for, with how tight it
binds to the left and to the right. -/
def infix? : Token → Option (Infix × Nat × Nat)
  | .symbol 0x2B => some (.plain (.arithmetic .add), 10, 10)
  | .symbol 0x2D => some (.plain (.arithmetic .sub), 10, 10)
  | .symbol 0x2A => some (.plain (.arithmetic .mul), 11, 11)
  | .symbol 0x25 => some (.plain (.arithmetic .mod), 11, 11)
  | .symbol 0x5E => some (.plain (.arithmetic .pow), 14, 13)
  | .symbol 0x2F => some (.plain (.arithmetic .div), 11, 11)
  | .keyword .idiv => some (.plain (.arithmetic .idiv), 11, 11)
  | .symbol 0x26 => some (.plain (.bitwise .and), 6, 6)
  | .symbol 0x7C => some (.plain (.bitwise .or), 4, 4)
  | .symbol 0x7E => some (.plain (.bitwise .xor), 5, 5)
  | .keyword .shl => some (.plain (.bitwise .shl), 7, 7)
  | .keyword .shr => some (.plain (.bitwise .shr), 7, 7)
  | .keyword .concat => some (.plain .concat, 9, 8)
  | .keyword .ne => some (.plain .ne, 3, 3)
  | .keyword .eq => some (.plain .eq, 3, 3)
  | .symbol 0x3C => some (.plain .lt, 3, 3)
  | .keyword .le => some (.plain .le, 3, 3)
  | .symbol 0x3E => some (.plain .gt, 3, 3)
  | .keyword .ge => some (.plain .ge, 3, 3)
  | .keyword .kAnd => some (.and, 2, 2)
  | .keyword .kOr => some (.or, 1, 1)
  | _ => none

end Operator

namespace Read

/-- Read a comma. -/
def acceptComma : Read Bool := accept (.symbol 0x2C)

/-- Read a whole expression. -/
def expression (r : Reader) : Read Parsed := r.expression 0

/-- Read further expressions of a list; `done` holds those before the last one
read, in reverse. -/
def moreExpressions (r : Reader) : (fuel : Nat) → (done : List Expr) → Parsed →
    Read (List Expr × Parsed)
  | 0, done, last => return (done, last)
  | fuel + 1, done, last => do
      if ← acceptComma then
        let placed ← toNext last
        let next ← expression r
        moreExpressions r fuel (placed.expr :: done) next
      else return (done, last)

/-- Read a list of expressions: those before the last one in reverse, and the
last one. -/
def expressions (r : Reader) : Read (List Expr × Parsed) := do
  let first ← expression r
  moreExpressions r (← get).size [] first

/-- The items of a list whose last item may give any number of values. -/
def closeList (done : List Expr) (last : Parsed) : Read (List Expr) := do
  if last.isMulti then return (last.expr :: done).reverse
  else
    let last ← toNext last
    return (last.expr :: done).reverse

/-- Read an expression in brackets. -/
def bracketed (r : Reader) : Read Parsed := do
  advance
  let key ← expression r
  let key ← discharge key
  expect (.symbol 0x5D)
  return key

/-- A table constructor that is being read. -/
structure Constructor where
  /-- The fields so far, in reverse. -/
  fields : List Field := []
  /-- A positional item that has been read last. -/
  pending : Option Parsed := none
  /-- How many positional items stand on the frame. -/
  stacked : Nat := 0

/-- How many positional items are stored at once. -/
def itemsAtOnce : Nat := 50

/-- Place the item that has been read last. -/
def placeItem (c : Constructor) : Read Constructor := do
  match c.pending with
  | none => return c
  | some item =>
      let item ← toNext item
      if c.stacked + 1 == itemsAtOnce then
        release itemsAtOnce
        return ⟨.positional item.expr :: c.fields, none, 0⟩
      else return ⟨.positional item.expr :: c.fields, none, c.stacked + 1⟩

/-- Read a field with a key. -/
def keyedField (r : Reader) (c : Constructor) (readKey : Read Parsed) : Read Constructor := do
  let before := (← scope).used
  let key ← readKey
  expect (.symbol 0x3D)
  let key ← toAnyOrConst key
  let value ← expression r
  let value ← toAnyOrConst value
  modifyScope fun s => { s with used := before }
  return { c with fields := .keyed key.expr value.expr (← get).lastLine :: c.fields }

/-- Read one field of a table constructor. -/
def field (r : Reader) (c : Constructor) : Read Constructor := do
  let item : Read Constructor := do
    let item ← expression r
    return { c with pending := some item }
  match ← token with
  | .name _ =>
      if (← lookAhead) == .symbol 0x3D then
        keyedField r c do return .ofValue (.str (← expectName))
      else item
  | .symbol 0x5B => keyedField r c (bracketed r)
  | _ => item

/-- Read the fields of a table constructor. -/
def fields (r : Reader) : (fuel : Nat) → Constructor → Read Constructor
  | 0, c => return c
  | fuel + 1, c => do
      if (← token) == .symbol 0x7D then return c
      else
        let c ← placeItem c
        let c ← field r c
        if ← accept (.symbol 0x2C) then fields r fuel c
        else if ← accept (.symbol 0x3B) then fields r fuel c
        else return c

/-- Read a table constructor. -/
def tableConstructor (r : Reader) : Read Parsed := do
  let start ← line
  reserve 1
  expect (.symbol 0x7B)
  let c ← fields r (← get).size {}
  expectClosing (.symbol 0x7D) (.symbol 0x7B) start
  let fields ← match c.pending with
    | none => do
        release c.stacked
        pure c.fields
    | some item =>
        if item.isMulti then do
          release (item.held + c.stacked)
          pure (.positional item.expr :: c.fields)
        else do
          let item ← toNext item
          release (1 + c.stacked)
          pure (.positional item.expr :: c.fields)
  return ⟨.table fields.reverse, .placed, 1⟩

/-- Read the arguments of a call whose function, and receiver if it has one,
stand on the frame from `base` on. -/
def arguments (r : Reader) (base : Nat) : Read (List Expr) := do
  let start ← line
  let arguments ← match ← token with
    | .symbol 0x28 => do
        advance
        if (← token) == .symbol 0x29 then
          expectClosing (.symbol 0x29) (.symbol 0x28) start
          pure []
        else
          let (done, last) ← expressions r
          expectClosing (.symbol 0x29) (.symbol 0x28) start
          closeList done last
    | .symbol 0x7B => do
        let table ← tableConstructor r
        closeList [] table
    | .string bytes => do
        advance
        closeList [] (.ofValue (.str bytes))
    | _ => failText "function arguments expected"
  modifyScope fun s => { s with used := base + 1 }
  return arguments

/-- Read a name, a number of selections after it, or an expression in
parentheses. -/
def primary (r : Reader) : Read Parsed := do
  match ← token with
  | .name _ => singleVariable
  | .symbol 0x28 => do
      let start ← line
      advance
      let inner ← expression r
      expectClosing (.symbol 0x29) (.symbol 0x28) start
      let isMulti := inner.isMulti
      let inner ← discharge inner
      return if isMulti then { inner with expr := .single inner.expr } else inner
  | _ => failText "unexpected symbol"

/-- Read a field selection by name. -/
def selection (object : Parsed) : Read Parsed := do
  let object ← toAnyOrCaptured object
  advance
  let name ← expectName
  indexed object (.ofValue (.str name))

/-- Read a method call. -/
def methodCall (r : Reader) (object : Parsed) : Read Parsed := do
  advance
  let name ← expectName
  let nameLine := (← get).lastLine
  let object ← toAny object
  release object.held
  let base := (← scope).used
  reserve 2
  let start ← line
  let arguments ← arguments r base
  return ⟨.method object.expr name arguments nameLine start base, .call, 1⟩

/-- Read a call. -/
def functionCall (r : Reader) (function : Parsed) : Read Parsed := do
  let function ← toNext function
  let base := (← scope).used - 1
  let start ← line
  let arguments ← arguments r base
  return ⟨.call function.expr arguments start base, .call, 1⟩

/-- Read the selections and calls after an expression. -/
def suffixes (r : Reader) : (fuel : Nat) → Parsed → Read Parsed
  | 0, p => return p
  | fuel + 1, p => do
      match ← token with
      | .symbol 0x2E => suffixes r fuel (← selection p)
      | .symbol 0x5B =>
          let object ← toAnyOrCaptured p
          let key ← bracketed r
          suffixes r fuel (← indexed object key)
      | .symbol 0x3A => suffixes r fuel (← methodCall r p)
      | .symbol 0x28 | .string _ | .symbol 0x7B => suffixes r fuel (← functionCall r p)
      | _ => return p

/-- Read a primary expression with its selections and calls. -/
def suffixed (r : Reader) : Read Parsed := do
  let p ← primary r
  suffixes r (← get).size p

/-- Make announced variables visible. -/
def declareAll (names : List (Bytes × VariableKind)) : Read Unit :=
  names.forM fun (name, kind) => do let _ ← declare name kind

/-- Read parameters up to the closing parenthesis: their names in reverse, and
whether further arguments are taken. -/
def parameters : (fuel : Nat) → (names : List Bytes) → Read (List Bytes × Bool)
  | 0, names => return (names, false)
  | fuel + 1, names => do
      match ← token with
      | .name _ =>
          let name ← expectName
          announce
          if ← acceptComma then parameters fuel (name :: names)
          else return (name :: names, false)
      | .keyword .dots =>
          advance
          return (names, true)
      | _ => failText "<name> or '...' expected"

/-- Read a function from its parameters on. -/
def functionBody (r : Reader) (isMethod : Bool) (start : Nat) : Read Code := do
  openFunction start
  expect (.symbol 0x28)
  if isMethod then
    announce
    declareAll [("self".toUTF8, .regular)]
  let (names, isVariadic) ← if (← token) == .symbol 0x29 then pure ([], false)
    else parameters (← get).size []
  declareAll (names.reverse.map fun name => (name, .regular))
  modifyScope fun s => { s with isVariadic }
  let count := (← scope).bindings.size
  reserve count
  expect (.symbol 0x29)
  let body ← r.block
  expectClosing (.keyword .kEnd) (.keyword .kFunction) start
  let labelled ← hasLabels
  let info ← closeFunction count
  return .mk info labelled body

/-- Read an expression without operators. -/
def simple (r : Reader) : Read Parsed := do
  match ← token with
  | .number n =>
      advance
      return .ofValue (.ofNumber n)
  | .string bytes =>
      advance
      return .ofValue (.str bytes)
  | .keyword .kNil =>
      advance
      return .ofValue .nil
  | .keyword .kTrue =>
      advance
      return .ofValue (.bool true)
  | .keyword .kFalse =>
      advance
      return .ofValue (.bool false)
  | .keyword .dots =>
      unless (← scope).isVariadic do
        failText "cannot use '...' outside a vararg function"
      advance
      return ⟨.variadic, .variadic, 0⟩
  | .symbol 0x7B => tableConstructor r
  | .keyword .kFunction => do
      advance
      let code ← functionBody r false (← line)
      reserve 1
      return ⟨.function code, .placed, 1⟩
  | _ => suffixed r

/-- Apply an operator of one operand. -/
def applyUnary (op : UnaryOp) (operand : Parsed) (start : Nat) : Read Parsed := do
  let operand ← discharge operand
  match op, operand.value? with
  | .not, some value => return .ofValue (.bool !value.truthy)
  | op, some value =>
      match Fold.unary? op value with
      | some folded => return .ofValue folded
      | none =>
          let operand ← toAny operand
          release operand.held
          return ⟨.unary op operand.expr start, .loose, 0⟩
  | op, none =>
      let operand ← toAny operand
      release operand.held
      return ⟨.unary op operand.expr start, .loose, 0⟩

/-- Prepare the left operand of an operator. -/
def prepareLeft (op : Operator.Infix) (left : Parsed) : Read Parsed := do
  let left ← discharge left
  match op with
  | .and | .or =>
      match left.form with
      | .const => return left
      | _ =>
          release left.held
          return { left with held := 0 }
  | .plain .concat => toNext left
  | .plain .eq | .plain .ne => toAnyOrConst left
  | .plain _ => if left.isNumeral then return left else toAny left

/-- A chain of concatenations: its operands' lines are that of the last
operator. -/
def concatLine (start : Nat) : Expr → Nat
  | .binary .concat _ _ line => line
  | _ => start

/-- Apply an operator of two operands, the left one prepared. -/
def applyInfix (op : Operator.Infix) (left right : Parsed) (start : Nat) : Read Parsed := do
  let right ← discharge right
  match op with
  | .and =>
      match left.form, left.expr with
      | .const, .const value =>
          if value.truthy then return right
          else return ⟨.and left.expr right.expr, if right.held == 0 then .loose else .placed,
            right.held⟩
      | _, _ =>
          return ⟨.and left.expr right.expr, if right.held == 0 then .loose else .placed,
            right.held⟩
  | .or =>
      match left.form, left.expr with
      | .const, .const value =>
          if !value.truthy then return right
          else return ⟨.or left.expr right.expr, if right.held == 0 then .loose else .placed,
            right.held⟩
      | _, _ =>
          return ⟨.or left.expr right.expr, if right.held == 0 then .loose else .placed,
            right.held⟩
  | .plain .concat =>
      let right ← toNext right
      release 1
      let line := concatLine start right.expr
      return ⟨.binary .concat left.expr right.expr line, .placed, 1⟩
  | .plain op =>
      let folded := match left.value?, right.value? with
        | some x, some y => Fold.binary? op x y
        | _, _ => none
      match folded with
      | some value => return .ofValue value
      | none =>
          let right ← toAnyOrConst right
          release (left.held + right.held)
          let last := (← get).lastLine
          let line := match op with
            | .arithmetic _ | .bitwise _ => start
            | _ => last
          return ⟨.binary op left.expr right.expr line, .loose, 0⟩

/-- Read the operators after an operand that bind tighter than the limit. -/
def operators (r : Reader) (limit : Nat) : (fuel : Nat) → Parsed → Read Parsed
  | 0, left => return left
  | fuel + 1, left => do
      match Operator.infix? (← token) with
      | none => return left
      | some (op, leftPriority, rightPriority) =>
          if leftPriority > limit then
            let start ← line
            advance
            let left ← prepareLeft op left
            let right ← r.expression rightPriority
            operators r limit fuel (← applyInfix op left right start)
          else return left

/-- Read an expression whose operators bind tighter than the limit. -/
def subexpression (r : Reader) (limit : Nat) : Read Parsed := do
  enter
  let first ← match Operator.unary? (← token) with
    | some op => do
        let start ← line
        advance
        let operand ← r.expression Operator.unaryPriority
        applyUnary op operand start
    | none => simple r
  let whole ← operators r limit (← get).size first
  leave
  return whole

/-- Read the statements of a block of its own: whether it has labels, and the
statements. -/
def block (r : Reader) (isLoop : Bool) : Read (Bool × List Stmt) := do
  openBlock isLoop
  let body ← r.block
  let labelled ← hasLabels
  closeBlock
  return (labelled, body)

/-- Read a condition and use its value. -/
def condition (r : Reader) : Read Expr := do
  let p ← expression r
  finish p

/-- Read one clause of a conditional statement, its first word included. -/
def clause (r : Reader) : Read Clause := do
  advance
  let p ← expression r
  expect (.keyword .kThen)
  let condition ← finish p
  let (labelled, body) ← block r false
  return .mk condition labelled body

/-- Read the clauses of a conditional statement after the first one. -/
def clauses (r : Reader) : (fuel : Nat) → List Clause → Read (List Clause)
  | 0, done => return done.reverse
  | fuel + 1, done => do
      if (← token) == .keyword .kElseif then clauses r fuel ((← clause r) :: done)
      else if ← accept (.keyword .kElse) then
        let (labelled, body) ← block r false
        return (.mk (.const (.bool true)) labelled body :: done).reverse
      else return done.reverse

/-- Read a conditional statement. -/
def conditional (r : Reader) (start : Nat) : Read Stmt := do
  let first ← clause r
  let all ← clauses r (← get).size [first]
  expectClosing (.keyword .kEnd) (.keyword .kIf) start
  return .branch all

/-- Read a loop with its condition in front. -/
def whileLoop (r : Reader) (start : Nat) : Read Stmt := do
  advance
  let test ← condition r
  openBlock true
  expect (.keyword .kDo)
  let (labelled, body) ← block r false
  expectClosing (.keyword .kEnd) (.keyword .kWhile) start
  closeBlock
  return .while test labelled body

/-- Read a loop with its condition at the end. -/
def repeatLoop (r : Reader) (start : Nat) : Read Stmt := do
  openBlock true
  openBlock false
  advance
  let body ← r.block
  expectClosing (.keyword .kUntil) (.keyword .kRepeat) start
  let test ← condition r
  let labelled ← hasLabels
  closeBlock
  closeBlock
  return .repeat labelled body test

/-- The name of the variables that a loop keeps for itself. -/
def hiddenName : Bytes := "(for state)".toUTF8

/-- Do the same several times. -/
def times (run : Read Unit) : Nat → Read Unit
  | 0 => return
  | n + 1 => do
      run
      times run n

/-- Announce several variables. -/
def announceAll (n : Nat) : Read Unit := times announce n

/-- Read an expression and place its value. -/
def placedExpression (r : Reader) : Read Expr := do
  let p ← expression r
  return (← toNext p).expr

/-- Declare the variables of a loop: those it keeps for itself and those that
scripts see, each time the body runs anew. -/
def loopBody (r : Reader) (names : List Bytes) : Read (Nat × Bool × List Stmt) := do
  openBlock false
  let first := (← scope).freeSlot
  declareAll (names.map fun name => (name, .regular))
  reserve names.length
  let (labelled, body) ← block r false
  closeBlock
  return (first, labelled, body)

/-- Read a loop over numbers, from its `=` on. -/
def countingLoop (r : Reader) (name : Bytes) : Read Stmt := do
  announceAll 4
  expect (.symbol 0x3D)
  let start ← placedExpression r
  expect (.symbol 0x2C)
  let stop ← placedExpression r
  let step ← if ← acceptComma then placedExpression r else do
    reserve 1
    pure (.const (.int 1))
  declareAll (List.replicate 3 (hiddenName, .regular))
  expect (.keyword .kDo)
  let line := (← get).lastLine
  let (index, labelled, body) ← loopBody r [name]
  return .count index start stop step labelled body line

/-- Read further names of a list, in reverse. -/
def moreNames : (fuel : Nat) → List Bytes → Read (List Bytes)
  | 0, names => return names
  | fuel + 1, names => do
      if ← acceptComma then
        let name ← expectName
        announce
        moreNames fuel (name :: names)
      else return names

/-- Use the values of a list of expressions for `count` variables. -/
def adjust (count : Nat) (done : List Expr) (last : Parsed) : Read (List Expr) := do
  let given := done.length + 1
  let last ← if last.isMulti then do
      release last.held
      if count ≥ given then reserve (count + 1 - given)
      pure last
    else do
      let last ← toNext last
      if count > given then reserve (count - given)
      pure last
  if given > count then release (given - count)
  return (last.expr :: done).reverse

/-- Read a loop over an iterator, after its first variable. -/
def iteratingLoop (r : Reader) (name : Bytes) : Read Stmt := do
  announceAll 5
  let names ← moreNames (← get).size [name]
  expect (.keyword .kIn)
  let line ← line
  let room := (← scope).used
  let (done, last) ← expressions r
  let values ← adjust 4 done last
  declareAll (List.replicate 4 (hiddenName, .regular))
  markClosing
  reserve 3
  release 3
  expect (.keyword .kDo)
  let (first, labelled, body) ← loopBody r names.reverse
  return .iterate first names.length values labelled body line (room + 4)

/-- Read a counting or iterating loop. -/
def forLoop (r : Reader) (start : Nat) : Read Stmt := do
  openBlock true
  advance
  let name ← expectName
  let loop ← match ← token with
    | .symbol 0x3D => countingLoop r name
    | .symbol 0x2C | .keyword .kIn => iteratingLoop r name
    | _ => failText "'=' or 'in' expected"
  expectClosing (.keyword .kEnd) (.keyword .kFor) start
  closeBlock
  return loop

/-- Read the selections in the name of a function. -/
def functionFields : (fuel : Nat) → Parsed → Read Parsed
  | 0, p => return p
  | fuel + 1, p => do
      if (← token) == .symbol 0x2E then functionFields fuel (← selection p) else return p

/-- Read a statement that defines a function. -/
def functionStatement (r : Reader) (start : Nat) : Read Stmt := do
  advance
  let target ← singleVariable
  let target ← functionFields (← get).size target
  let (target, isMethod) ← if (← token) == .symbol 0x3A then do
      let target ← selection target
      pure (target, true)
    else pure (target, false)
  checkWritable target
  let code ← functionBody r isMethod start
  return .assign [settled start target.expr] [.function code] start

/-- Read a local function. -/
def localFunction (r : Reader) : Read Stmt := do
  let name ← expectName
  announce
  let slot ← declare name .regular
  let code ← functionBody r false (← line)
  return .declareFunction slot code

/-- Read the attribute of a variable, if it has one. -/
def variableAttribute : Read VariableKind := do
  if ← accept (.symbol 0x3C) then
    let name ← expectName
    expect (.symbol 0x3E)
    if name == "const".toUTF8 then return .const
    else if name == "close".toUTF8 then return .closing
    else failMeaning ("unknown attribute '".toUTF8 ++ name ++ "'".toUTF8)
  else return .regular

/-- Read the variables of a local statement, in reverse. -/
def attributedNames : (fuel : Nat) → (names : List (Bytes × VariableKind)) →
    Read (List (Bytes × VariableKind))
  | 0, names => return names
  | fuel + 1, names => do
      let name ← expectName
      announce
      let kind ← variableAttribute
      if kind == .closing && names.any fun entry => entry.2 == .closing then
        failMeaning "multiple to-be-closed variables in local list".toUTF8
      let names := (name, kind) :: names
      if ← acceptComma then attributedNames fuel names else return names

/-- Declare a name for a known value. -/
def declareConstant (name : Bytes) (value : Constant) : Read Unit :=
  modifyScope fun s =>
    { s with
      bindings := s.bindings.push ⟨name, .constant value, s.freeSlot⟩
      announced := s.announced - 1 }

/-- Read a local statement after its first word. -/
def localStatement (r : Reader) : Read (List Stmt) := do
  let names ← attributedNames (← get).size []
  let first := (← scope).freeSlot
  let count := names.length
  let given ← if ← accept (.symbol 0x3D) then some <$> expressions r else pure none
  let constant? := match given, names with
    | some (done, last), (name, .const) :: _ =>
        if done.length + 1 == count then last.value?.map fun value => (name, value, done)
        else none
    | _, _ => none
  match constant? with
  | some (name, value, done) =>
      declareAll (names.drop 1).reverse
      declareConstant name value
      return if done.isEmpty then [] else [.declare first done.length done.reverse]
  | none =>
      let values ← match given with
        | some (done, last) => adjust count done last
        | none => do
            reserve count
            pure []
      let line := (← get).lastLine
      declareAll names.reverse
      match names.reverse.findIdx? fun entry => entry.2 == .closing with
      | some place =>
          markClosing
          let name := (names.reverse.getD place (ByteArray.empty, .regular)).1
          return [.declareClosing first count values (first + place) name line]
      | none => return [.declare first count values]

/-- The label of a name that is visible here. -/
def findLabel? (name : Bytes) : Read (Option Label) := do
  return (← scope).labels.find? fun label => label.name == name

/-- Drop empty statements and other labels after a label, and give the other
labels. -/
def labelStatement (statement : Read (List Stmt)) (size : Nat) (start : Nat) :
    Read (List Stmt) := do
  let name ← expectName
  expect (.keyword .dbcolon)
  let others ← skip statement size []
  match ← findLabel? name with
  | some label =>
      failMeaning ("label '".toUTF8 ++ name ++ s!"' already defined on line {label.line}".toUTF8)
  | none =>
      let s ← scope
      let block := s.blocks.headD ⟨0, 0, 0, false, false⟩
      let visible := if ← blockEnds false then block.visible else s.bindings.size
      modifyScope fun s => { s with labels := s.labels.push ⟨name, start, visible⟩ }
      resolve (some name) visible block.jumps
      return .label name :: others
where
  skip (statement : Read (List Stmt)) : (fuel : Nat) → List Stmt → Read (List Stmt)
    | 0, done => return done
    | fuel + 1, done => do
        match ← token with
        | .symbol 0x3B | .keyword .dbcolon => skip statement fuel (done ++ (← statement))
        | _ => return done

/-- Note a jump to a label that has not been met. -/
def noteJump (label : Option Bytes) (start : Nat) : Read Unit :=
  modifyScope fun s =>
    { s with jumps := s.jumps.push ⟨label, start, s.bindings.size⟩ }

/-- Read the rest of a jump statement. -/
def jumpStatement : Read Stmt := do
  let start ← line
  let name ← expectName
  if (← findLabel? name).isNone then noteJump (some name) start
  return .goto name

/-- Read a return statement after its first word. -/
def returnStatement (r : Reader) : Read Stmt := do
  let isEmpty := (← blockEnds true) || (← token) == .symbol 0x3B
  let statement ← if isEmpty then pure (.return []) else do
    let (done, last) ← expressions r
    let inside := match (← scope).blocks with
      | block :: _ => block.insideClosing
      | [] => false
    match last.form with
    | .call =>
        if done.isEmpty && !inside then pure (.tailCall last.expr)
        else pure (.return (last.expr :: done).reverse)
    | .variadic => pure (.return (last.expr :: done).reverse)
    | _ =>
        let last ← if done.isEmpty then toAny last else toNext last
        pure (.return (last.expr :: done).reverse)
  let _ ← accept (.symbol 0x3B)
  return statement

/-- Read the rest of an assignment; `targets` holds the targets so far, in
reverse, and `levels` counts them. -/
def assignment (r : Reader) : (fuel levels : Nat) → (targets : List Parsed) → Read Stmt
  | 0, _, _ => throw .tooDeep
  | fuel + 1, levels, targets => do
      match targets with
      | [] => failText "syntax error"
      | target :: _ =>
          unless target.isTarget do failText "syntax error"
          checkWritable target
          if ← acceptComma then
            let next ← suffixed r
            enter
            assignment r fuel (levels + 1) (next :: targets)
          else
            expect (.symbol 0x3D)
            let (done, last) ← expressions r
            let values ← if done.length + 1 == targets.length then do
                let last ← toAnyOrConst last
                pure (last.expr :: done).reverse
              else adjust targets.length done last
            times leave levels
            return .assign (targets.reverse.map Parsed.expr) values (← get).lastLine

/-- Read a statement that is an expression: a call or an assignment. -/
def expressionStatement (r : Reader) : Read Stmt := do
  let p ← suffixed r
  match ← token with
  | .symbol 0x3D | .symbol 0x2C => assignment r (← get).size 0 [p]
  | _ =>
      match p.form with
      | .call => return .run p.expr
      | _ => failText "syntax error"

/-- Read one statement, given how to read a further one. -/
def statementWith (r : Reader) (further : Read (List Stmt)) : Read (List Stmt) := do
  let start ← line
  enter
  let statements ← match ← token with
    | .symbol 0x3B => do
        advance
        pure []
    | .keyword .kIf => do pure [← conditional r start]
    | .keyword .kWhile => do pure [← whileLoop r start]
    | .keyword .kDo => do
        advance
        let (labelled, body) ← block r false
        expectClosing (.keyword .kEnd) (.keyword .kDo) start
        pure [.block labelled body]
    | .keyword .kFor => do pure [← forLoop r start]
    | .keyword .kRepeat => do pure [← repeatLoop r start]
    | .keyword .kFunction => do pure [← functionStatement r start]
    | .keyword .kLocal => do
        advance
        if ← accept (.keyword .kFunction) then pure [← localFunction r] else localStatement r
    | .keyword .dbcolon => do
        advance
        labelStatement further (← get).size start
    | .keyword .kReturn => do
        advance
        pure [← returnStatement r]
    | .keyword .kBreak => do
        advance
        noteJump none start
        pure [.break]
    | .keyword .kGoto => do
        advance
        pure [← jumpStatement]
    | _ => do pure [← expressionStatement r]
  modifyScope fun s => { s with used := s.freeSlot }
  leave
  return statements

/-- Read one statement. Labels may follow each other `fuel` times. -/
def statement (r : Reader) : (fuel : Nat) → Read (List Stmt)
  | 0 => throw .tooDeep
  | fuel + 1 => statementWith r (statement r fuel)

/-- Read statements up to the end of the block; `done` is in reverse. -/
def statements (r : Reader) : (fuel : Nat) → (done : List Stmt) → Read (List Stmt)
  | 0, done => return done.reverse
  | fuel + 1, done => do
      if ← blockEnds true then return done.reverse
      else
        let isReturn := (← token) == .keyword .kReturn
        let read ← statement r depthLimit
        let done := read.reverse ++ done
        if isReturn then return done.reverse else statements r fuel done

/-- The readers for constructs nested up to a depth. -/
def reader : Nat → Reader
  | 0 => ⟨fun _ => throw .tooDeep, throw .tooDeep⟩
  | n + 1 =>
      let inner := reader n
      ⟨subexpression inner, do statements inner (← get).size []⟩

/-- Read a whole script. -/
def script : Read Code := do
  openBlock false
  advance
  let r := reader (2 * depthLimit + 2)
  let body ← r.block
  unless (← token) == .eof do failExpected .eof
  let labelled ← hasLabels
  let info ← closeFunction 0
  return .mk info labelled body

end Read

/-- The function that a script is: it takes any arguments and captures the
environment. -/
def mainScope : FunctionScope where
  line := 0
  isVariadic := true
  captured := #[⟨Expr.environment, .slot 0, .regular⟩]

/-- Read a script of the given name, `depth` levels deep in calls of the
host. -/
def readScript (chunk : Bytes) (depth : Nat) (bytes : Bytes) : Except Trouble Code :=
  let start : ReadState := {
    rest := bytes.toList
    size := bytes.size + 2
    scope := mainScope
    depth
    chunk }
  match Read.script.run start with
  | .ok code _ => .ok code
  | .error trouble _ => .error trouble

end LuaSession.Syntax
