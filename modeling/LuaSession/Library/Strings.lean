import LuaSession.Library.Directive
import LuaSession.Library.Packing
import LuaSession.Script.Compiled

/-!
# The string library

Positions count from one; negative ones count from the end.
-/

namespace LuaSession.Library

open LuaSession.Script

namespace Strings

/-- The most bytes a string may have here. -/
def sizeLimit : Nat := 1 <<< 31

/-- Where a range starts. -/
def startOf (position : Int64) (size : Nat) : Nat :=
  let p := position.toInt
  if p > 0 then p.toNat
  else if p == 0 then 1
  else if p < -(size : Int) then 1
  else ((size : Int) + p + 1).toNat

/-- Where a range ends. -/
def stopOf (position : Int64) (size : Nat) : Nat :=
  let p := position.toInt
  if p > size then size
  else if p ≥ 0 then p.toNat
  else if p < -(size : Int) then 0
  else ((size : Int) + p + 1).toNat

/-- Give a result, or fail with a pattern's error. -/
def ofPattern {α : Type} (caller : Caller) (result : Except Pattern.PatternError α) : Run α :=
  match result with
  | .ok value => return value
  | .error error => caller.fail error.message

/-- The value of a capture; without captures the first one is the whole match. -/
def captureValue (subject : Bytes) (start : Nat) (found : Pattern.Match) (index : Nat) :
    Except Pattern.PatternError Value :=
  match found.captures[index]? with
  | none =>
      if index == 0 then .ok (.str (subject.extract start found.stop))
      else .error (.captureIndex (index + 1))
  | some capture =>
      match capture.extent with
      | .length n => .ok (.str (subject.extract capture.start (capture.start + n)))
      | .position => .ok (.ofNat (capture.start + 1))
      | .unfinished => .error .unfinishedCapture

/-- The values of all captures; `whole` asks for the whole match when there are
none. -/
def captureValues (subject : Bytes) (start : Nat) (found : Pattern.Match) (whole : Bool) :
    Except Pattern.PatternError (Array Value) := do
  let count := if found.captures.isEmpty && whole then 1 else found.captures.size
  let values ← (List.range count).mapM fun i => captureValue subject start found i
  return values.toArray

/-- Look for a pattern: its place, or its captures. -/
def findAux (caller : Caller) (arguments : Array Value) (places : Bool) : Run (Array Value) := do
  let subject ← bytesArgument caller arguments 1
  let pattern ← bytesArgument caller arguments 2
  let position ← optionalInt caller arguments 3 1
  let start := startOf position subject.size - 1
  if start > subject.size then return #[.nil]
  else if places && ((argument arguments 4).truthy || Pattern.isPlain pattern) then
    match Pattern.findPlain subject pattern (subject.size + 1) start with
    | some place => return #[.ofNat (place + 1), .ofNat (place + pattern.size)]
    | none => return #[.nil]
  else
    let anchored := Pattern.byteAt pattern 0 == 0x5E && pattern.size > 0
    let found ←
      if anchored then do
        let found ← ofPattern caller (Pattern.matchAt subject pattern start 1)
        pure (found.map fun found => (start, found))
      else ofPattern caller (Pattern.search subject pattern 0 (subject.size + 2) start)
    match found with
    | none => return #[.nil]
    | some (place, found) =>
        let captures ← ofPattern caller (captureValues subject place found !places)
        if places then return #[.ofNat (place + 1), .ofNat found.stop] ++ captures
        else return captures

/-- The next match of an iteration that starts after `position`, not ending
where the last one did. -/
def nextMatch (subject pattern : Bytes) (lastEnd : Option Nat) :
    (fuel position : Nat) → Except Pattern.PatternError (Option (Nat × Pattern.Match))
  | 0, _ => return none
  | fuel + 1, position => do
      if position > subject.size then return none
      else
        match ← Pattern.matchAt subject pattern position 0 with
        | some found =>
            if lastEnd == some found.stop then
              nextMatch subject pattern lastEnd fuel (position + 1)
            else return some (position, found)
        | none => nextMatch subject pattern lastEnd fuel (position + 1)

/-- Go on with an iteration over matches. -/
def matchesStep (caller : Caller) (ref : Nat) (source pattern : Bytes) (position : Nat)
    (lastEnd : Option Nat) : Run (Array Value) := do
  let found ← ofPattern caller (nextMatch source pattern lastEnd (source.size + 2) position)
  match found with
  | none =>
      Run.modify fun s => s.setNative ref (.matches source pattern (source.size + 1) lastEnd)
      return #[]
  | some (start, found) =>
      Run.modify fun s => s.setNative ref (.matches source pattern found.stop (some found.stop))
      ofPattern caller (captureValues source start found true)

/-- Write a replacement for a match. -/
def expand (caller : Caller) (subject : Bytes) (start : Nat) (found : Pattern.Match) :
    (done : Bytes) → List UInt8 → Run Bytes
  | done, [] => return done
  | done, b :: rest => do
      if b != Pattern.escape then expand caller subject start found (done.push b) rest
      else
        match rest with
        | [] => caller.fail "invalid use of '%' in replacement string"
        | c :: rest =>
            if c == Pattern.escape then expand caller subject start found (done.push c) rest
            else if c == 0x30 then
              expand caller subject start found (done ++ subject.extract start found.stop) rest
            else if Pattern.isDigit c then
              let value ← ofPattern caller (captureValue subject start found (c.toNat - 0x31))
              expand caller subject start found (done ++ value.toBytes?.getD ByteArray.empty) rest
            else caller.fail "invalid use of '%' in replacement string"

/-- The replacement for a match. -/
def replacement (caller : Caller) (subject : Bytes) (start : Nat) (found : Pattern.Match)
    (what : Value) : Run Bytes := do
  let whole := subject.extract start found.stop
  let keep (value : Value) : Run Bytes := do
    if !value.truthy then return whole
    else
      match value.toBytes? with
      | some bytes => return bytes
      | none =>
          caller.failBytes (s!"invalid replacement value (a {value.typeName})".toUTF8)
  match what with
  | .table _ =>
      let key ← ofPattern caller (captureValue subject start found 0)
      let value ← Run.index .library Expr.unnamed what key
      keep value
  | .str text => expand caller subject start found ByteArray.empty text.toList
  | .int _ | .float _ =>
      expand caller subject start found ByteArray.empty (what.toBytes?.getD ByteArray.empty).toList
  | function =>
      let captures ← ofPattern caller (captureValues subject start found true)
      let results ← Run.callLibrary function captures
      keep (firstOf results)

/-- Replace matches from a place on. -/
def replaceFrom (caller : Caller) (subject pattern : Bytes) (anchored : Bool) (what : Value)
    (limit : Int) : (fuel : Nat) → (place count : Nat) → (lastEnd : Option Nat) →
      (done : Bytes) → Run (Bytes × Nat)
  | 0, _, count, _, done => return (done, count)
  | fuel + 1, place, count, lastEnd, done => do
      if (count : Int) ≥ limit then return (done ++ subject.extract place subject.size, count)
      else
        let found ← ofPattern caller
          (Pattern.matchAt subject pattern place (if anchored then 1 else 0))
        let found := found.filter fun found => lastEnd != some found.stop
        match found with
        | some found =>
            let text ← replacement caller subject place found what
            let done := done ++ text
            if anchored then
              return (done ++ subject.extract found.stop subject.size, count + 1)
            else
              replaceFrom caller subject pattern anchored what limit fuel found.stop (count + 1)
                (some found.stop) done
        | none =>
            if place < subject.size then
              let done := done.push (Pattern.byteAt subject place)
              if anchored then
                return (done ++ subject.extract (place + 1) subject.size, count)
              else
                replaceFrom caller subject pattern anchored what limit fuel (place + 1) count
                  lastEnd done
            else return (done, count)

/-- Replace matches of a pattern. -/
def replaceAll (caller : Caller) (arguments : Array Value) : Run (Array Value) := do
  let subject ← bytesArgument caller arguments 1
  let pattern ← bytesArgument caller arguments 2
  let what := argument arguments 3
  let limit ← optionalInt caller arguments 4 (Int64.ofNat (subject.size + 1))
  let usable := match what with
    | .str _ | .int _ | .float _ | .table _ => true
    | what => what.isFunction
  if !usable then typeFail caller arguments 3 "string/function/table"
  else
    let anchored := pattern.size > 0 && Pattern.byteAt pattern 0 == 0x5E
    let (text, count) ← replaceFrom caller subject pattern anchored what limit.toInt
      (2 * subject.size + 4) 0 0 none ByteArray.empty
    Run.charge text.size
    return #[.str text, .ofNat count]

/-- Bytes repeated with a separator between them. -/
def repeated (text separator : Bytes) : (count : Nat) → Bytes → Bytes
  | 0, done => done
  | 1, done => done ++ text
  | count + 2, done => repeated text separator (count + 1) (done ++ text ++ separator)

/-- Change every byte. -/
def mapBytes (f : UInt8 → UInt8) (bytes : Bytes) : Bytes := (bytes.toList.map f).toByteArray

end Strings

open Strings in
/-- The functions of the string library. -/
def runString (function : StringFunction) : Function := fun caller arguments => do
  match function with
  | .len =>
      let text ← bytesArgument caller arguments 1
      return #[.ofNat text.size]
  | .sub =>
      let text ← bytesArgument caller arguments 1
      let start ← intArgument caller arguments 2
      let stop ← optionalInt caller arguments 3 (-1)
      let first := startOf start text.size
      let last := stopOf stop text.size
      return #[.str (if first > last then ByteArray.empty else text.extract (first - 1) last)]
  | .byte =>
      let text ← bytesArgument caller arguments 1
      let start ← optionalInt caller arguments 2 1
      let stop ← optionalInt caller arguments 3 start
      let first := startOf start text.size
      let last := stopOf stop text.size
      if first > last then return #[]
      else
        return ((text.extract (first - 1) last).toList.map fun b => .ofNat b.toNat).toArray
  | .char =>
      let bytes ← (List.range arguments.size).mapM fun i => do
        let n ← intArgument caller arguments (i + 1)
        if n < 0 || n > 255 then argFail caller (i + 1) "value out of range"
        else return UInt8.ofNat n.toInt.toNat
      return #[.str bytes.toByteArray]
  | .upper =>
      let text ← bytesArgument caller arguments 1
      return #[.str (mapBytes (fun b => if Pattern.isLower b then b - 0x20 else b) text)]
  | .lower =>
      let text ← bytesArgument caller arguments 1
      return #[.str (mapBytes (fun b => if Pattern.isUpper b then b + 0x20 else b) text)]
  | .reverse =>
      let text ← bytesArgument caller arguments 1
      return #[.str text.toList.reverse.toByteArray]
  | .rep =>
      let text ← bytesArgument caller arguments 1
      let count ← intArgument caller arguments 2
      let separator ← optionalBytes caller arguments 3 ByteArray.empty
      if count ≤ 0 then return #[.str ByteArray.empty]
      else
        let n := count.toInt.toNat
        let size := n * (text.size + separator.size)
        if (text.size + separator.size) * n ≥ 1 <<< 63 && text.size + separator.size > 0 then
          caller.fail "resulting string too large"
        else
          Run.charge size
          if size > sizeLimit then Run.throw .memory
          else if text.size + separator.size == 0 then return #[.str ByteArray.empty]
          else return #[.str (repeated text separator n ByteArray.empty)]
  | .find => findAux caller arguments true
  | .match => findAux caller arguments false
  | .gmatch =>
      let subject ← bytesArgument caller arguments 1
      let pattern ← bytesArgument caller arguments 2
      let position ← optionalInt caller arguments 3 1
      let start := startOf position subject.size - 1
      let start := if start > subject.size then subject.size + 1 else start
      let ref ← Run.update fun s => s.newNative (.matches subject pattern start none)
      return #[.native ref]
  | .gsub => replaceAll caller arguments
  | .format =>
      let format ← bytesArgument caller arguments 1
      let text ← formatAll caller arguments (format.size + 1) 2 ByteArray.empty format.toList
      Run.charge text.size
      return #[.str text]
  | .pack =>
      let format ← bytesArgument caller arguments 1
      let bytes ← packAll caller arguments (format.size + 1) {} 1 ByteArray.empty format.toList
      return #[.str bytes]
  | .packsize =>
      let format ← bytesArgument caller arguments 1
      let size ← packedSize caller (format.size + 1) {} 0 format.toList
      return #[.ofNat size]
  | .unpack =>
      let format ← bytesArgument caller arguments 1
      let data ← bytesArgument caller arguments 2
      let position ← optionalInt caller arguments 3 1
      let start := startOf position data.size - 1
      if start > data.size then argFail caller 3 "initial position out of string"
      else unpackAll caller data (format.size + 1) {} start #[] format.toList
  | .dump =>
      let function ← functionArgument caller arguments 1
      match function with
      | .closure ref =>
          let bytes ← Run.update fun s => Compiled.encode s (s.closure ref).code
          return #[.str bytes]
      | _ => caller.fail "unable to dump given function"

/-- The number that a string or number is. -/
def operandNumber? (value : Value) : Option Value := value.toNumber?.map Value.ofNumber

/-- An arithmetic operator on strings that read as numbers. Without an operator
it is negation. -/
def runStringArithmetic (op : Option Arithmetic) : Function := fun caller arguments => do
  let x := argument arguments 1
  let y := argument arguments 2
  match operandNumber? x, operandNumber? y with
  | some a, some b =>
      match op with
      | some op => return #[← Run.arithmetic .library Expr.unnamed Expr.unnamed op a b]
      | none => return #[← Run.negate .library Expr.unnamed a]
  | _, _ =>
      let event := match op with
        | some op => op.event
        | none => "unm"
      let handler ← match y with
        | .str _ => pure .nil
        | y => Run.read (·.metafield y (eventKey event))
      if handler.isNil then
        caller.fail s!"attempt to {event} a '{x.typeName}' with a '{y.typeName}'"
      else
        let results ← Run.callLibrary handler #[x, y]
        return #[firstOf results]

end LuaSession.Library
