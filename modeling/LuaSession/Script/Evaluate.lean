import LuaSession.Script.Operation

/-!
# Evaluation of scripts

`eval` gives the value of an expression and `exec` performs a statement, by
recursion on the tree of the script. Calls, loops, blocks with labels and the
scopes of closing variables are requests.

An operand that is a plain variable is read when the operator runs, after the
other operand: what the other operand assigns to it counts.
-/

namespace LuaSession.Script

namespace Run

/-- The value of a slot. -/
@[inline] def slot (index : Nat) : Run Value := read fun s => s.slot index

/-- Assign to a slot's variable. -/
@[inline] def setSlot (index : Nat) (value : Value) : Run Unit :=
  modify fun s => s.setSlot index value

/-- Put a new variable into a slot. -/
@[inline] def declareSlot (index : Nat) (value : Value) : Run Unit :=
  modify fun s => s.declareSlot index value

/-- Put new variables into the slots from `first` on; values that are missing
are `nil`. -/
def declareSlots (first : Nat) (values : Array Value) : (count : Nat) → Run Unit
  | 0 => pure ()
  | count + 1 => do
      declareSlots first values count
      declareSlot (first + count) (values.getD count .nil)

end Run

namespace Store

/-- The cells that a closure captures from the running function. -/
def capture (s : Store) (captures : Array Capture) : Array Nat × Store :=
  captures.foldl
    (fun (acc : Array Nat × Store) capture =>
      let (cells, s) := acc
      match capture with
      | .captured index => (cells.push (s.frame.captured.getD index 0), s)
      | .slot index =>
          match s.frame.boxes.getD index 0 with
          | box + 1 => (cells.push box, s)
          | 0 =>
              let (cell, s) := s.newCell (s.frame.slots.getD index .nil)
              (cells.push cell,
                { s with
                  frame := { s.frame with boxes := s.frame.boxes.setIfInBounds index (cell + 1) } }))
    (#[], s)

/-- A closure of a function that is written in the running one. -/
def makeClosure (s : Store) (code : Code) : Value × Store :=
  let (captured, s) := s.capture code.info.captures
  let (ref, s) := s.newClosure { code, captured }
  (.closure ref, s)

end Store

/-- An operator of two operands. -/
def Run.binary (op : BinaryOp) (left right : Expr) (line : Nat) (x y : Value) : Run Value :=
  match op with
  | .arithmetic op => Run.arithmetic (.script line) left right op x y
  | .bitwise op => Run.bitwise (.script line) left right op x y
  | .concat => Run.concat (.script line) left right x y
  | .eq => do return .bool (← Run.equal (.script line) x y)
  | .ne => do return .bool !(← Run.equal (.script line) x y)
  | .lt => do return .bool (← Run.lessThan (.script line) x y)
  | .le => do return .bool (← Run.lessEqual (.script line) x y)
  | .gt => do return .bool (← Run.lessThan (.script line) y x)
  | .ge => do return .bool (← Run.lessEqual (.script line) y x)

/-- An operator of one operand. -/
def Run.unary (op : UnaryOp) (operand : Expr) (line : Nat) (x : Value) : Run Value :=
  match op with
  | .not => return .bool !x.truthy
  | .negate => Run.negate (.script line) operand x
  | .complement => Run.complement (.script line) operand x
  | .length => Run.length (.script line) operand x

/-- How many fields of a table constructor have keys, and how many have none. -/
def Field.counts (fields : List Field) : Nat × Nat :=
  fields.foldl
    (fun (acc : Nat × Nat) field =>
      match field with
      | .positional _ => (acc.1, acc.2 + 1)
      | .keyed .. => (acc.1 + 1, acc.2))
    (0, 0)

/-- Put the positional values of a table constructor into the table. -/
def Table.fill (t : Table) (values : Array Value) : Table :=
  if values.isEmpty then t
  else
    match t with
    | { array, pairs, index, capacity, metatable } =>
        if pairs.isEmpty then { array := values, pairs, index, capacity, metatable }
        else
          let t := if array.size < values.size then
              Table.resize { array, pairs, index, capacity, metatable } values.size capacity
            else { array, pairs, index, capacity, metatable }
          { t with array := values ++ t.array.extract values.size t.array.size }

/-- The statement is a target of an assignment, its object and key evaluated. -/
inductive Target where
  | slot (index : Nat)
  | captured (index : Nat)
  | field (object key : Value) (blame : Expr)
  | nowhere

namespace Run

/-- Assign to a target. -/
def store (line : Nat) (target : Target) (value : Value) : Run Unit :=
  match target with
  | .slot index => setSlot index value
  | .captured index => modify fun s => s.setCaptured index value
  | .field object key blame => assign (.script line) blame object key value
  | .nowhere => pure ()

/-- Assign values to targets, the last one first. -/
def storeAll (line : Nat) (values : Array Value) : (index : Nat) → List Target → Run Unit
  | _, [] => pure ()
  | index, target :: rest => do
      storeAll line values (index + 1) rest
      store line target (values.getD index .nil)

/-- Fail because a control value of a loop is no number. -/
def failControl {α : Type} (line : Nat) (what : String) (value : Value) : Run α := do
  let type ← read (·.typeNameOf value)
  faultBytes (.script line)
    (s!"bad 'for' {what} (number expected, got ".toUTF8 ++ type ++ ")".toUTF8)

end Run

/-- How many times a loop over integers runs after the first time; `none` when
it does not run at all. -/
def countSteps (start stop step : Int64) : Option UInt64 :=
  if step > 0 then
    if start > stop then none
    else some ((stop.toUInt64 - start.toUInt64) / step.toUInt64)
  else
    if start < stop then none
    else some ((start.toUInt64 - stop.toUInt64) / ((-(step + 1)).toUInt64 + 1))

/-- The last integer that a loop over integers may reach; `none` when the loop
does not run. -/
def countStop (stop : Number) (step : Int64) : Option Int64 :=
  match stop with
  | .int i => some i
  | .float x =>
      let rounded := if step < 0 then Binary64.ceil? x else Binary64.floor? x
      match rounded with
      | some i => some i
      | none =>
          if Binary64.lt 0 x then if step < 0 then none else some Int64.maxValue
          else if step > 0 then none
          else some Int64.minValue

namespace Run

/-- Run a loop over numbers. -/
def countLoop (index : Nat) (labelled : Bool) (body : List Stmt) (line : Nat)
    (start stop step : Value) : Run Exit := do
  match start, step with
  | .int i, .int d =>
      if d == 0 then fault (.script line) "'for' step is zero"
      else
        match stop.toNumber? with
        | none => failControl line "limit" stop
        | some n =>
            match countStop n d >>= fun last => countSteps i last d with
            | none => return .fell
            | some remaining => ask (.loop (.countInts index i d remaining labelled body))
  | start, step =>
      match stop.toFloat? with
      | none => failControl line "limit" stop
      | some last =>
          match step.toFloat? with
          | none => failControl line "step" step
          | some d =>
              match start.toFloat? with
              | none => failControl line "initial value" start
              | some x =>
                  if Binary64.eq d 0 then fault (.script line) "'for' step is zero"
                  else if (if Binary64.lt 0 d then Binary64.lt last x else Binary64.lt x last) then
                    return .fell
                  else ask (.loop (.countFloats index x last d labelled body))

/-- How many slots before its variables a loop over an iterator keeps for
itself. -/
def iterationSlots : Nat := 4

/-- Run a loop over an iterator: the function, its state, the control value and
a value to close afterwards. -/
def iterateLoop (first count : Nat) (labelled : Bool) (body : List Stmt) (line room : Nat)
    (values : Array Value) : Run Exit := do
  declareSlots (first - iterationSlots) values iterationSlots
  let loop : Loop := .iterate first count labelled body line room
  let closing := values.getD 3 .nil
  if closing.truthy then ask (.guarded closing "(for state)".toUTF8 line (.loop loop))
  else ask (.loop loop)

/-- Run a block. -/
@[inline] def inBlock (labelled : Bool) (body : List Stmt) (run : Run Exit) : Run Exit :=
  if labelled then ask (.labelled body none) else run

end Run

open Run in
mutual

/-- The value of an expression. -/
def eval : Expr → Run Value
  | .const constant => pure constant.value
  | .variadic => read fun s => s.frame.extra.getD 0 .nil
  | .slot index _ => slot index
  | .captured index _ => read fun s => s.capturedValue index
  | .index object key line =>
      match object with
      | .slot i _ => do
          let k ← eval key
          let o ← slot i
          index (.script line) object o k
      | _ => do
          let o ← eval object
          let k ← eval key
          index (.script line) object o k
  | .call function arguments line room => do
      let f ← eval function
      let values ← evalList arguments #[]
      let results ← call f values
        { kind := .script, line, callee := .expression function, room }
      return firstOf results
  | .method object name arguments nameLine line room => do
      let o ← eval object
      let f ← index (.script nameLine) object o (.str name)
      let values ← evalList arguments #[o]
      let results ← call f values { kind := .script, line, callee := .method name, room }
      return firstOf results
  | .function code => update (·.makeClosure code)
  | .unary op operand line => do
      let x ← eval operand
      unary op operand line x
  | .binary op left right line =>
      match left with
      | .slot i _ => do
          if op == .concat then
            let x ← slot i
            let y ← eval right
            binary op left right line x y
          else
            let y ← eval right
            let x ← slot i
            binary op left right line x y
      | _ => do
          let x ← eval left
          let y ← eval right
          binary op left right line x y
  | .and left right => do
      let x ← eval left
      if x.truthy then eval right else return x
  | .or left right => do
      let x ← eval left
      if x.truthy then return x else eval right
  | .single inner => eval inner
  | .table fields => do
      let (keyed, positional) := Field.counts fields
      let ref ← update (·.newTable
        { array := Array.replicate positional .nil, capacity := Table.roomFor keyed })
      let values ← evalFields fields ref #[]
      modify fun s => (s.modifyTable ref (·.fill values)).charged (16 * values.size)
      return .table ref

/-- All values of an expression. -/
def evalMulti : Expr → Run (Array Value)
  | .variadic => read fun s => s.frame.extra
  | .call function arguments line room => do
      let f ← eval function
      let values ← evalList arguments #[]
      call f values { kind := .script, line, callee := .expression function, room }
  | .method object name arguments nameLine line room => do
      let o ← eval object
      let f ← index (.script nameLine) object o (.str name)
      let values ← evalList arguments #[o]
      call f values { kind := .script, line, callee := .method name, room }
  | _ => pure #[]

/-- The values of a list of expressions after `done`; the last expression gives
all its values. -/
def evalList : List Expr → (done : Array Value) → Run (Array Value)
  | [], done => pure done
  | expr :: rest, done => do
      if rest.isEmpty && expr.isMulti then
        return done ++ (← evalMulti expr)
      else
        let value ← eval expr
        evalList rest (done.push value)

/-- Evaluate the fields of a table constructor: those with keys go into the
table, the values of the others are given. -/
def evalFields : List Field → (ref : Nat) → (done : Array Value) → Run (Array Value)
  | [], _, done => pure done
  | .positional expr :: rest, ref, done => do
      if rest.isEmpty && expr.isMulti then
        return done ++ (← evalMulti expr)
      else
        let value ← eval expr
        evalFields rest ref (done.push value)
  | .keyed key expr line :: rest, ref, done => do
      let k ← eval key
      let value ← eval expr
      rawSet (.script line) ref k value
      evalFields rest ref done

end

namespace Run

/-- Evaluate the object and the key of a target. -/
def target : Expr → Run Target
  | .slot index _ => return .slot index
  | .captured index _ => return .captured index
  | .index object key _ => do
      let o ← eval object
      let k ← eval key
      return .field o k object
  | _ => return .nowhere

/-- Evaluate the objects and the keys of targets. -/
def targets : List Expr → Run (List Target)
  | [] => return []
  | expr :: rest => do
      let first ← target expr
      return first :: (← targets rest)

/-- The value of an expression unless it is a plain variable, which is read
later. -/
@[inline] def evalEarly (expr : Expr) : Run Value :=
  match expr with
  | .slot .. => return .nil
  | expr => eval expr

/-- The value of an expression that has been evaluated unless it is a plain
variable. -/
@[inline] def evalLate (expr : Expr) (value : Value) : Run Value :=
  match expr with
  | .slot index _ => slot index
  | _ => return value

/-- Assign one value to one target. -/
def assignOne (target value : Expr) (line : Nat) : Run Exit := do
  match target with
  | .slot index _ =>
      let x ← eval value
      setSlot index x
      return .fell
  | .captured index _ =>
      let x ← eval value
      modify fun s => s.setCaptured index x
      return .fell
  | .index object key _ =>
      let o ← evalEarly object
      let k ← evalEarly key
      let x ← eval value
      let o ← evalLate object o
      let k ← evalLate key k
      assign (.script line) object o k x
      return .fell
  | _ => return .fell

/-- Assign values to targets. -/
def assignAll (targetExprs values : List Expr) (line : Nat) : Run Exit := do
  let places ← targets targetExprs
  let results ← evalList values #[]
  storeAll line results 0 places
  return .fell

/-- Make new variables. -/
def declareAll (first count : Nat) (values : List Expr) : Run Unit := do
  match count, values with
  | 1, [expr] =>
      let value ← eval expr
      declareSlot first value
  | count, values =>
      let results ← evalList values #[]
      declareSlots first results count

/-- A call in place of the running function. -/
def tailCall : Expr → Run Exit
  | .call function arguments line room => do
      let f ← eval function
      let values ← evalList arguments #[]
      return .tail f values { kind := .script, line, callee := .expression function, room }
  | .method object name arguments nameLine line room => do
      let o ← eval object
      let f ← index (.script nameLine) object o (.str name)
      let values ← evalList arguments #[o]
      return .tail f values { kind := .script, line, callee := .method name, room }
  | _ => return .returned #[]

end Run

open Run in
mutual

/-- Perform a statement. -/
def exec : Stmt → Run Exit
  | .assign [target] [value] line => assignOne target value line
  | .assign targets values line => assignAll targets values line
  | .declare first count values => do
      declareAll first count values
      return .fell
  | .declareClosing .. => pure .fell
  | .run call => do
      let _ ← evalMulti call
      return .fell
  | .block labelled body => inBlock labelled body (execBlock none body)
  | .while condition labelled body => ask (.loop (.while condition labelled body))
  | .repeat labelled body condition => ask (.loop (.repeat labelled body condition))
  | .branch clauses => execClauses clauses
  | .count index start stop step labelled body line => do
      let first ← eval start
      let last ← eval stop
      let distance ← eval step
      countLoop index labelled body line first last distance
  | .iterate first count values labelled body line room => do
      let results ← evalList values #[]
      iterateLoop first count labelled body line room results
  | .declareFunction index code => do
      declareSlot index .nil
      let closure ← update (·.makeClosure code)
      setSlot index closure
      return .fell
  | .return [expr] => do
      if expr.isMulti then return .returned (← evalMulti expr)
      else
        let value ← eval expr
        return .returned #[value]
  | .return values => do return .returned (← evalList values #[])
  | .tailCall call => tailCall call
  | .break => pure .broke
  | .goto label => pure (.jumped label)
  | .label _ => pure .fell

/-- Perform statements one after the other. The rest after a closing variable is
handed over, with the condition that ends the block of a loop. -/
def execBlock (condition : Option Expr) : List Stmt → Run Exit
  | [] => pure .fell
  | statement :: rest => do
      match statement with
      | .declareClosing first count values closing name line =>
          declareAll first count values
          let value ← slot closing
          if value.truthy then ask (.guarded value name line (.rest rest condition))
          else execBlock condition rest
      | _ =>
          match ← exec statement with
          | .fell => execBlock condition rest
          | exit => return exit

/-- Perform the first clause whose condition holds. -/
def execClauses : List Clause → Run Exit
  | [] => pure .fell
  | .mk condition labelled body :: rest => do
      let test ← eval condition
      if test.truthy then inBlock labelled body (execBlock none body)
      else execClauses rest

end

/-- The condition at the end of a loop's body. -/
def evalEnd (condition : Expr) : Run Exit := do
  let test ← eval condition
  return if test.truthy then .broke else .again

/-- The statements after a label. -/
def afterLabel? (label : Bytes) : List Stmt → Option (List Stmt)
  | [] => none
  | .label name :: rest => if name == label then some rest else afterLabel? label rest
  | _ :: rest => afterLabel? label rest

namespace Loop

open Run

/-- Run the body of a loop once. -/
def once (labelled : Bool) (body : List Stmt) : Run Exit :=
  inBlock labelled body (execBlock none body)

/-- Bind the variables of a loop over an iterator and run its body, unless the
iterator has ended. -/
def withResults (first count : Nat) (labelled : Bool) (body : List Stmt)
    (results : Array Value) : Run Exit := do
  let control := firstOf results
  if control.isNil then return .broke
  else
    setSlot (first - 2) control
    declareSlots first results count
    once labelled body

/-- One iteration of a loop over an iterator. -/
def iterateOnce (first count : Nat) (labelled : Bool) (body : List Stmt) (line room : Nat) :
    Run Exit := do
  let iterator ← slot (first - 4)
  let state ← slot (first - 3)
  let control ← slot (first - 2)
  let viaCall : Run Exit := do
    let results ← call iterator #[state, control]
      { kind := .script, line, callee := .iterator, room }
    withResults first count labelled body results
  match iterator, state with
  | .builtin (.base .next), .table ref =>
      match ← read fun s => (s.table ref).next? control with
      | some (some pair) => withResults first count labelled body #[pair.key, pair.value]
      | some none => return .broke
      | none => viaCall
  | _, _ => viaCall

/-- One iteration of a loop, and what is left of the loop after it; `none` when
it is over. -/
def iteration? : Loop → Option (Run Exit × Option Loop)
  | .while condition labelled body =>
      let run : Run Exit := do
        let test ← eval condition
        if test.truthy then once labelled body else return .broke
      some (run, some (.while condition labelled body))
  | .repeat labelled body condition =>
      let run : Run Exit := do
        let exit ← if labelled then ask (.labelled body (some condition))
          else execBlock (some condition) body
        match exit with
        | .fell => evalEnd condition
        | exit => return exit
      some (run, some (.repeat labelled body condition))
  | .countInts index next step remaining labelled body =>
      let run : Run Exit := do
        declareSlot index (.int next)
        once labelled body
      let rest := if remaining == 0 then none
        else some (.countInts index (next + step) step (remaining - 1) labelled body)
      some (run, rest)
  | .countFloats index next stop step labelled body =>
      if (if Binary64.lt 0 step then Binary64.le next stop else Binary64.le stop next) then
        let run : Run Exit := do
          declareSlot index (.float next)
          once labelled body
        some (run, some (.countFloats index (Binary64.add next step) stop step labelled body))
      else none
  | .iterate first count labelled body line room =>
      some (iterateOnce first count labelled body line room,
        some (.iterate first count labelled body line room))

end Loop

end LuaSession.Script
