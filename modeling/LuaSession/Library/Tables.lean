import LuaSession.Library.Arguments

/-!
# The table library

The functions here take and put fields as scripts do, metatables included, so
that they also work on values that act as tables.
-/

namespace LuaSession.Library

open LuaSession.Script

namespace Tables

/-- What a function does with a table. -/
structure Use where
  reads : Bool := false
  writes : Bool := false
  measures : Bool := false

/-- Fail unless an argument is a table or acts as one. -/
def checkTable (caller : Caller) (arguments : Array Value) (index : Nat) (use : Use) :
    Run Unit := do
  match argument arguments index with
  | .table _ => return
  | value =>
      let acts ← Run.read fun s =>
        let has (key : Value) : Bool := !(s.metafield value key).isNil
        (!use.reads || has Event.index) && (!use.writes || has Event.newindex) &&
          (!use.measures || has Event.len)
      if acts then return else typeFail caller arguments index "table"

/-- The length of a value, which has to be an integer. -/
def lengthOf (caller : Caller) (value : Value) : Run Int64 := do
  match (← Run.length .library Expr.unnamed value).toInt? with
  | some n => return n
  | none => caller.fail "object length is not an integer"

/-- The length of a table argument. -/
def size (caller : Caller) (arguments : Array Value) (index : Nat) (use : Use) : Run Int64 := do
  checkTable caller arguments index { use with measures := true }
  lengthOf caller (argument arguments index)

/-- Take an element. -/
@[inline] def get (table : Value) (i : Int64) : Run Value :=
  Run.index .library Expr.unnamed table (.int i)

/-- Put an element. -/
@[inline] def put (table : Value) (i : Int64) (value : Value) : Run Unit :=
  Run.assign .library Expr.unnamed table (.int i) value

/-- Move `n` elements one place up, the last one first; `i` is the place of the
last one. -/
def shiftUp (table : Value) : (n : Nat) → (i : Int64) → Run Unit
  | 0, _ => return
  | n + 1, i => do
      put table (i + 1) (← get table i)
      shiftUp table n (i - 1)

/-- Move `n` elements one place down, the first one first; `i` is where the
first one goes. -/
def shiftDown (table : Value) : (n : Nat) → (i : Int64) → Run Unit
  | 0, _ => return
  | n + 1, i => do
      put table i (← get table (i + 1))
      shiftDown table n (i + 1)

/-- Copy `n` elements. -/
def copy (source target : Value) (step : Int64) : (n : Nat) → (i j : Int64) → Run Unit
  | 0, _, _ => return
  | n + 1, i, j => do
      put target j (← get source i)
      copy source target step n (i + step) (j + step)

/-- The texts of `n` elements with separators between them. -/
def join (caller : Caller) (table : Value) (separator : Bytes) :
    (n : Nat) → (i : Int64) → (done : Bytes) → Run Bytes
  | 0, _, done => return done
  | n + 1, i, done => do
      let value ← get table i
      match value.toBytes? with
      | some bytes =>
          let done := done ++ bytes
          join caller table separator n (i + 1) (if n == 0 then done else done ++ separator)
      | none =>
          caller.fail
            s!"invalid value ({value.typeName}) at index {i.toInt} in table for 'concat'"

/-- The values of `n` elements. -/
def elements (table : Value) : (n : Nat) → (i : Int64) → (done : Array Value) →
    Run (Array Value)
  | 0, _, done => return done
  | n + 1, i, done => do
      let value ← get table i
      elements table n (i + 1) (done.push value)

/-- Sort with this order. -/
def isLess (order : Value) (x y : Value) : Run Bool := do
  if order.isNil then Run.lessThan .library x y
  else
    let results ← Run.callLibrary order #[x, y]
    return (firstOf results).truthy

/-- Fail because an order contradicts itself. -/
def failOrder {α : Type} (caller : Caller) : Run α :=
  caller.fail "invalid order function for sorting"

/-- Look upwards for an element not less than the pivot: its place and the
element. -/
def scanUp (caller : Caller) (table order pivot : Value) (last : Int64) :
    (fuel : Nat) → (i : Int64) → Run (Int64 × Value)
  | 0, _ => failOrder caller
  | fuel + 1, i => do
      let value ← get table i
      if ← isLess order value pivot then
        if i == last then failOrder caller
        else scanUp caller table order pivot last fuel (i + 1)
      else return (i, value)

/-- Look downwards for an element not greater than the pivot. -/
def scanDown (caller : Caller) (table order pivot : Value) (first : Int64) :
    (fuel : Nat) → (j : Int64) → Run (Int64 × Value)
  | 0, _ => failOrder caller
  | fuel + 1, j => do
      let value ← get table j
      if ← isLess order pivot value then
        if j < first then failOrder caller
        else scanDown caller table order pivot first fuel (j - 1)
      else return (j, value)

/-- Put the elements less than the pivot before the others: the pivot's place.
The pivot stands last but one. -/
def partition (caller : Caller) (table order pivot : Value) (up : Int64) :
    (fuel : Nat) → (i j : Int64) → Run Int64
  | 0, i, _ => return i
  | fuel + 1, i, j => do
      let room := (up - i).toInt.toNat + 2
      let (i, low) ← scanUp caller table order pivot (up - 1) room (i + 1)
      let (j, high) ← scanDown caller table order pivot i (room + 2) (j - 1)
      if j < i then
        put table (up - 1) low
        put table i pivot
        return i
      else
        put table i high
        put table j low
        partition caller table order pivot up fuel i j

/-- Swap two elements if they stand in the wrong order. -/
def sortTwo (table order : Value) (i j : Int64) : Run Unit := do
  let x ← get table i
  let y ← get table j
  if ← isLess order y x then
    put table i y
    put table j x

/-- Sort the elements from `lo` to `up` when the first, the middle and the last
one are in order: the middle one is the pivot, the smaller part is sorted first. -/
def sortParts (caller : Caller) (table order : Value) (sort : (lo up : Int64) → Run Unit)
    (lo up : Int64) : Run Unit := do
  if up - lo != 2 then
    let p := (lo + up) / 2
    let pivot ← get table p
    let other ← get table (up - 1)
    put table p other
    put table (up - 1) pivot
    let p ← partition caller table order pivot up (up - lo).toInt.toNat lo (up - 1)
    if p - lo < up - p then
      sort lo (p - 1)
      sort (p + 1) up
    else
      sort (p + 1) up
      sort lo (p - 1)

/-- Sort the elements from `lo` to `up`. -/
def sortRange (caller : Caller) (table order : Value) : (fuel : Nat) → (lo up : Int64) → Run Unit
  | 0, _, _ => return
  | fuel + 1, lo, up => do
      if lo < up then
        sortTwo table order lo up
        if up - lo != 1 then
          let p := (lo + up) / 2
          let middle ← get table p
          let low ← get table lo
          if ← isLess order middle low then
            put table p low
            put table lo middle
          else
            let high ← get table up
            if ← isLess order high middle then
              put table p high
              put table up middle
          sortParts caller table order (sortRange caller table order fuel) lo up

/-- The most values that a function may give. -/
def resultLimit : Nat := 999000

end Tables

open Tables in
/-- The functions of the table library. -/
def runTable (function : TableFunction) : Function := fun caller arguments => do
  let table := argument arguments 1
  match function with
  | .insert =>
      let n ← size caller arguments 1 { reads := true, writes := true }
      let last := n + 1
      if arguments.size == 2 then
        put table last (argument arguments 2)
        return #[]
      else if arguments.size == 3 then
        let position ← intArgument caller arguments 2
        if !((position - 1).toUInt64 < last.toUInt64) then
          argFail caller 2 "position out of bounds"
        else
          shiftUp table (last - position).toInt.toNat (last - 1)
          put table position (argument arguments 3)
          return #[]
      else caller.fail "wrong number of arguments to 'insert'"
  | .remove =>
      let n ← size caller arguments 1 { reads := true, writes := true }
      let position ← optionalInt caller arguments 2 n
      if arguments.size ≥ 2 && position != n && !((position - 1).toUInt64 ≤ n.toUInt64) then
        argFail caller 2 "position out of bounds"
      else
        let removed ← get table position
        let count := (n - position).toInt.toNat
        shiftDown table count position
        put table (if position < n then n else position) .nil
        return #[removed]
  | .concat =>
      let n ← size caller arguments 1 { reads := true }
      let separator ← optionalBytes caller arguments 2 ByteArray.empty
      let first ← optionalInt caller arguments 3 1
      let last ← optionalInt caller arguments 4 n
      if first > last then return #[.str ByteArray.empty]
      else
        let text ← join caller table separator ((last.toInt - first.toInt).toNat + 1) first
          ByteArray.empty
        Run.charge text.size
        return #[.str text]
  | .pack =>
      let ref ← Run.update fun s => s.newTable (Table.ofArray arguments)
      Run.modify fun s => s.put ref (.ofString "n") (.ofNat arguments.size)
      return #[.table ref]
  | .unpack =>
      let first ← optionalInt caller arguments 2 1
      let last ← if (argument arguments 3).isNil then lengthOf caller table
        else intArgument caller arguments 3
      if first > last then return #[]
      else
        let count := (last.toInt - first.toInt).toNat + 1
        if count ≥ resultLimit then caller.fail "too many results to unpack"
        else elements table count first #[]
  | .move =>
      let first ← intArgument caller arguments 2
      let last ← intArgument caller arguments 3
      let target ← intArgument caller arguments 4
      let other := !(argument arguments 5).isNil
      checkTable caller arguments 1 { reads := true }
      checkTable caller arguments (if other then 5 else 1) { writes := true }
      let destination := if other then argument arguments 5 else table
      if last ≥ first then
        if !(first > 0 || last.toInt < Table.maxKey + first.toInt) then
          argFail caller 3 "too many elements to move"
        else
          let count := (last.toInt - first.toInt).toNat + 1
          if target.toInt > (Table.maxKey : Int) - count + 1 then
            argFail caller 4 "destination wrap around"
          else
            let apart ← if target > last || target ≤ first then pure true
              else if other then do
                let same ← Run.equal .library table destination
                pure !same
              else pure false
            if apart then copy table destination 1 count first target
            else
              let offset := Int64.ofNat (count - 1)
              copy table destination (-1) count (first + offset) (target + offset)
            return #[destination]
      else return #[destination]
  | .sort =>
      let n ← size caller arguments 1 { reads := true, writes := true }
      if n > 1 then
        if n.toInt ≥ 0x7FFFFFFF then argFail caller 1 "array too big"
        else
          let order := argument arguments 2
          if !order.isNil && !order.isFunction then typeFail caller arguments 2 "function"
          else
            sortRange caller table order (n.toInt.toNat + 1) 1 n
            return #[]
      else return #[]

end LuaSession.Library
