import LuaSession.Machine.State
import Std.Data.HashSet

/-!
# Collecting garbage

Everything that can be reached from the stacks and from the tables that are
always there is in use. A weak table does not keep its keys or its values in
use; a pair whose key is weak keeps its value in use only as long as the key is.
Values with a finalizer that are no longer in use are handed out once.
-/

namespace LuaSession.Machine.Collector

open LuaSession.Script

/-- Something in use that has not been looked into yet. -/
inductive Item where
  | table (ref : Nat)
  | closure (ref : Nat)
  | cell (ref : Nat)
  | native (ref : Nat)
  | thread (ref : Nat)

/-- What is known to be in use. -/
structure Marks where
  tables : Array Bool
  closures : Array Bool
  cells : Array Bool
  natives : Array Bool
  resources : Array Bool
  threads : Array Bool
  /-- What has still to be looked into. -/
  work : List Item := []
  /-- The tables with weak keys that have been looked into. -/
  ephemerons : List Nat := []
  /-- The short texts seen, if texts are to be counted. -/
  texts : Option (Std.HashSet Bytes) := none
  /-- About how many bytes are in use. -/
  bytes : Nat := 0

namespace Marks

/-- Nothing is known to be in use. -/
def ofStore (s : Store) (counts : Bool) : Marks where
  tables := Array.replicate s.heap.tables.size false
  closures := Array.replicate s.heap.closures.size false
  cells := Array.replicate s.heap.cells.size false
  natives := Array.replicate s.heap.natives.size false
  resources := Array.replicate s.heap.resources.size false
  threads := Array.replicate s.heap.threads.size false
  texts := if counts then some {} else none

/-- Look into something later. -/
def later (marks : Marks) (item : Item) : Marks := { marks with work := item :: marks.work }

/-- A variable on the heap is in use. -/
def markCell (marks : Marks) (ref : Nat) : Marks :=
  if marks.cells.getD ref true then marks
  else { marks with cells := marks.cells.set! ref true }.later (.cell ref)

/-- The longest text of which equal copies are one. -/
def shortTextSize : Nat := 40

/-- Is a text counted already, or not to be counted? -/
def knows (marks : Marks) (text : Bytes) : Bool :=
  match marks.texts with
  | none => true
  | some texts => text.size ≤ shortTextSize && texts.contains text

/-- Count a text. -/
def note (marks : Marks) (text : Bytes) : Marks :=
  { marks with
    texts := if text.size ≤ shortTextSize then marks.texts.map (·.insert text) else marks.texts
    bytes := marks.bytes + text.size + 24 }

/-- A value is in use. -/
def mark (marks : Marks) (value : Value) : Marks :=
  match value with
  | .table ref =>
      if marks.tables.getD ref true then marks
      else { marks with tables := marks.tables.set! ref true }.later (.table ref)
  | .closure ref =>
      if marks.closures.getD ref true then marks
      else { marks with closures := marks.closures.set! ref true }.later (.closure ref)
  | .native ref =>
      if marks.natives.getD ref true then marks
      else { marks with natives := marks.natives.set! ref true }.later (.native ref)
  | .thread ref =>
      if marks.threads.getD ref true then marks
      else { marks with threads := marks.threads.set! ref true }.later (.thread ref)
  | .handle ref => { marks with resources := marks.resources.setIfInBounds ref true }
  | .str bytes =>
      if marks.knows bytes then marks else marks.note bytes
  | _ => marks

/-- Several values are in use. -/
def markAll (marks : Marks) (values : Array Value) : Marks := values.foldl mark marks

/-- Is a value in use? Only references can be out of use. -/
def holds (marks : Marks) : Value → Bool
  | .table ref => marks.tables.getD ref true
  | .closure ref => marks.closures.getD ref true
  | .native ref => marks.natives.getD ref true
  | .thread ref => marks.threads.getD ref true
  | .handle ref => marks.resources.getD ref true
  | _ => true

/-- The variables of a function are in use. -/
def markFrame (marks : Marks) (frame : Frame) : Marks :=
  let marks := (marks.markAll frame.slots).markAll frame.extra
  let marks := frame.captured.foldl markCell marks
  frame.boxes.foldl (fun marks box => if box == 0 then marks else marks.markCell (box - 1)) marks

/-- What waits is in use. -/
def markWait (marks : Marks) : Wait → Marks
  | .call _ _ frame _ => marks.markFrame frame
  | .protect (.script function) .. => marks.mark function
  | .guarded value .. => marks.mark value
  | .unwinding pending error _ => pending.foldl mark (marks.mark error)
  | _ => marks

/-- A thread's stack and variables are in use. -/
def markPaused (marks : Marks) (paused : Paused) : Marks :=
  paused.stack.foldl markWait (marks.markFrame paused.frame)

end Marks

/-- Which pairs of a table are weak: by their keys, by their values. -/
def weakness (s : Store) (ref : Nat) : Bool × Bool :=
  match s.metafield (.table ref) Event.mode with
  | .str mode => (mode.toList.contains 0x6B, mode.toList.contains 0x76)
  | _ => (false, false)

/-- Look into a table. -/
def visitTable (s : Store) (ref : Nat) (marks : Marks) : Marks :=
  let t := s.table ref
  let marks := match t.metatable with
    | some metatable => marks.mark (.table metatable)
    | none => marks
  let marks := { marks with bytes := marks.bytes + t.bytes }
  match weakness s ref with
  | (false, false) =>
      t.pairs.foldl
        (fun marks pair =>
          if pair.value.isNil then marks else (marks.mark pair.key).mark pair.value)
        (marks.markAll t.array)
  | (true, false) =>
      { marks.markAll t.array with ephemerons := ref :: marks.ephemerons }
  | (false, true) =>
      t.pairs.foldl
        (fun marks pair => if pair.value.isNil then marks else marks.mark pair.key) marks
  | (true, true) => marks

/-- Look into something in use. -/
def visit (s : Store) (threads : Array Dormant) (item : Item) (marks : Marks) : Marks :=
  match item with
  | .table ref => visitTable s ref marks
  | .closure ref =>
      let closure := s.closure ref
      closure.captured.foldl Marks.markCell
        { marks with bytes := marks.bytes + 40 + 8 * closure.captured.size }
  | .cell ref => { marks with bytes := marks.bytes + 40 }.mark (s.cell ref)
  | .native ref =>
      match s.native ref with
      | .resumer thread => marks.mark (.thread thread)
      | .lines file formats _ => (marks.mark (.handle file)).markAll formats
      | _ => marks
  | .thread ref =>
      match threads.getD ref default with
      | .fresh function => marks.mark function
      | .suspended paused => marks.markPaused paused
      | .ended error pending => pending.foldl Marks.mark (marks.mark (error.getD .nil))

/-- Look into everything in use. `fuel` bounds the number of things. -/
def propagate (s : Store) (threads : Array Dormant) : (fuel : Nat) → Marks → Marks
  | 0, marks => marks
  | fuel + 1, marks =>
      match marks.work with
      | [] => marks
      | item :: work => propagate s threads fuel (visit s threads item { marks with work })

/-- How many things there are on the heap. -/
def heapSize (s : Store) : Nat :=
  s.heap.tables.size + s.heap.closures.size + s.heap.cells.size + s.heap.natives.size +
    s.heap.threads.size + 1

/-- Look into the pairs of tables with weak keys whose keys are in use. -/
def visitEphemerons (s : Store) (marks : Marks) : Marks :=
  marks.ephemerons.foldl
    (fun marks ref =>
      (s.table ref).pairs.foldl
        (fun marks pair =>
          if !pair.value.isNil && marks.holds pair.key then marks.mark pair.value else marks)
        marks)
    marks

/-- Look into everything in use until nothing more turns up. -/
def converge (s : Store) (threads : Array Dormant) : (fuel : Nat) → Marks → Marks
  | 0, marks => marks
  | fuel + 1, marks =>
      let marks := visitEphemerons s (propagate s threads (heapSize s) marks)
      if marks.work.isEmpty then marks else converge s threads fuel marks

/-- What is always in use. -/
def markRoots (m : State) (s : Store) (marks : Marks) : Marks :=
  let r := s.registry
  let tables := [r.globals, r.loaded, r.preload, r.strings, r.files, s.scope] ++
    r.package.toList
  let handles := [r.standardInput, r.standardOutput, r.defaultInput, r.defaultOutput]
  let marks := tables.foldl (fun marks ref => marks.mark (.table ref)) marks
  let marks := handles.foldl (fun marks ref => marks.mark (.handle ref)) marks
  let marks := m.stack.foldl Marks.markWait (marks.markFrame s.frame)
  m.parents.foldl (fun marks (_, paused) => marks.markPaused paused) marks

/-- Mark everything in use. -/
def survey (m : State) (s : Store) (counts : Bool) : Marks :=
  converge s m.threads (heapSize s) (markRoots m s (Marks.ofStore s counts))

/-- About how many bytes are in use. -/
def bytesInUse (m : State) (s : Store) : Nat := (survey m s true).bytes

/-- Remove pairs of weak tables whose values, or keys and values, are out of
use. -/
def clearWeak (marks : Marks) (keysToo : Bool) (s : Store) : Store :=
  (List.range s.heap.tables.size).foldl
    (fun s ref =>
      if !marks.tables.getD ref false || (s.table ref).metatable.isNone then s
      else
        match weakness s ref with
        | (false, false) => s
        | (weakKeys, weakValues) =>
            s.sweep ref fun key value =>
              (!(weakKeys && keysToo) || marks.holds key) && (!weakValues || marks.holds value))
    s

/-- Collect garbage: the values to finalize. -/
def collect (m : State) (s : Store) : Array Value × Store :=
  let marks := survey m s false
  let s := clearWeak marks false s
  let (kept, dead) := s.finalizable.partition marks.holds
  let marks := converge s m.threads (heapSize s) (dead.foldl Marks.mark marks)
  let s := clearWeak marks true s
  (dead.toArray, { s with finalizable := kept })

end LuaSession.Machine.Collector
