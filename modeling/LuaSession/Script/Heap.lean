import LuaSession.Failure
import LuaSession.Number.Random
import LuaSession.Script.Disk
import LuaSession.Script.Table
import LuaSession.Script.Tree

/-!
# The store

Everything that scripts can change: the heap of tables, closures, captured
variables and resources, the variables of the running function, and the world
outside: messages written, files, standard streams. The heap only grows; a
value refers to its entry by position.
-/

namespace LuaSession.Script

/-- A closure: a function and the cells of its captured variables. -/
structure Closure where
  code : Code
  captured : Array Nat
  deriving Inhabited

/-- What a function of the host does when a script calls it. -/
inductive HostFunction where
  /-- Panics with a text, or with something that is no text. -/
  | panic (text : Option String)
  | fail (failure : Failure)
  | wantInteger
  | wantText
  /-- Calls its argument without arguments. -/
  | call
  | publish
  | execute
  | echo
  deriving DecidableEq, Repr, Inhabited

/-- What the scripts of a session run under: the name that messages show for
them, and the table that is their environment. -/
structure Setting where
  chunkName : String := ""
  scope : Nat := 0
  deriving DecidableEq, Repr, Inhabited

/-- A function with a state of its own. -/
inductive Native where
  /-- A function of the host's, for a session of that setting. -/
  | host (function : HostFunction) (setting : Setting)
  /-- Resumes a thread. -/
  | resumer (thread : Nat)
  /-- Goes on looking for a pattern; the end of the last match is kept, since a
  match may not end where it did. -/
  | matches (source pattern : Bytes) (position : Nat) (lastEnd : Option Nat)
  /-- Reads a file piece by piece. -/
  | lines (file : Nat) (formats : Array Value) (closes : Bool)
  deriving Inhabited

/-- A resource of the host. -/
inductive Resource where
  /-- What scripts write their output to. -/
  | adapter
  /-- An error of the host that passes through scripts. -/
  | failure (failure : Failure)
  /-- A panic that passes through scripts, until it has been reported. -/
  | panic (text : Option String)
  | spentPanic
  | file (file : File)
  deriving Inhabited

/-- The fields of the metatables that are no tables: scripts cannot change what the
adapter and errors of the host do. -/
def Resource.metafields : Resource → List (String × Value)
  | .adapter =>
      [ ("__name", .ofString "OutputAdapter"), ("__index", .builtin (.adapter .field)),
        ("__metatable", .bool false) ]
  | .failure _ | .panic _ | .spentPanic =>
      [ ("__tostring", .builtin (.adapter .failureText)), ("__metatable", .bool false) ]
  | .file _ => []

/-- A field of a metatable that is no table. -/
def Resource.metafield (resource : Resource) (name : Value) : Value :=
  match resource.metafields.find? fun field => Value.ofString field.1 == name with
  | some (_, value) => value
  | none => .nil

/-- What a thread is doing. -/
inductive ThreadStatus where
  | suspended
  | running
  /-- It has resumed another thread. -/
  | normal
  | dead
  deriving DecidableEq, Repr, Inhabited

/-- The entries that values refer to. -/
structure Heap where
  tables : Array Table := #[]
  closures : Array Closure := #[]
  cells : Array Value := #[]
  natives : Array Native := #[]
  resources : Array Resource := #[]
  threads : Array ThreadStatus := #[.running]
  /-- The functions that compiled scripts stand for. -/
  compiled : Array Code := #[]
  deriving Inhabited

/-- The variables of a running function. -/
structure Frame where
  /-- The name of its text, as messages show it. -/
  chunk : Bytes := ByteArray.empty
  slots : Array Value := #[]
  /-- For a function whose variables are captured: one more than the cell of a
  slot's variable, zero when it has none. -/
  boxes : Array Nat := #[]
  shared : Array Bool := #[]
  captured : Array Nat := #[]
  /-- The arguments beyond the parameters. -/
  extra : Array Value := #[]
  frameSize : Nat := 0
  deriving Inhabited

/-- Tables that are always there. -/
structure Registry where
  globals : Nat := 0
  /-- The modules that are loaded. -/
  loaded : Nat := 0
  preload : Nat := 0
  /-- The metatable of strings. -/
  strings : Nat := 0
  files : Nat := 0
  /-- The library of packages, if there is one. -/
  package : Option Nat := none
  standardInput : Nat := 0
  standardOutput : Nat := 0
  defaultInput : Nat := 0
  defaultOutput : Nat := 0
  deriving Inhabited

/-- A message that is given out while scripts run. -/
inductive Emission where
  /-- The adapter has accepted a write. -/
  | written (text : String)
  /-- A function of the host has published a text. -/
  | published (text : String)
  deriving DecidableEq, Repr, Inhabited

/-- The text of a message. -/
def Emission.text : Emission → String
  | .written text => text
  | .published text => text

/-- What lies outside of the heap. -/
structure World where
  /-- The messages given out and not yet delivered. -/
  emitted : Array Emission := #[]
  disk : Disk := {}
  /-- Standard input, and how much of it has been read. -/
  input : Bytes := ByteArray.empty
  inputPosition : Nat := 0
  /-- What has been written to the standard streams. -/
  output : Bytes := ByteArray.empty
  errors : Bytes := ByteArray.empty
  random : RandomState := RandomState.ofSeeds 1 2
  /-- The seconds since the beginning of 1970. -/
  now : Int := 1700000000
  deriving Inhabited

/-- How garbage is collected; scripts can ask. -/
inductive Collecting where
  | incremental
  | generational
  deriving DecidableEq, Repr, Inhabited

/-- Everything that scripts can change. -/
structure Store where
  frame : Frame := {}
  heap : Heap := {}
  registry : Registry := {}
  world : World := {}
  /-- The table that the host keeps for its scripts; it is always in use. -/
  scope : Nat := 0
  /-- What has been assigned in that table, the last pair first. -/
  assigned : List Pair := []
  /-- The most bytes scripts may hold. -/
  limit : Option Nat := none
  /-- About how many bytes have been taken since they were last counted. -/
  charge : Nat := 0
  collecting : Collecting := .incremental
  collectorRuns : Bool := true
  /-- The values to finalize when they are no longer in use, the last first. -/
  finalizable : List Value := []
  /-- The running thread; the main one is zero. -/
  thread : Nat := 0
  deriving Inhabited

namespace Store

/-- About how many bytes a table takes at first. -/
def tableBytes : Nat := 56

/-- About how many bytes a closure takes at first. -/
def closureBytes : Nat := 40

/-- Count bytes that were taken. -/
@[inline] def charged (s : Store) (bytes : Nat) : Store := { s with charge := s.charge + bytes }

/-- The table of a reference. -/
@[inline] def table (s : Store) (ref : Nat) : Table := s.heap.tables.getD ref default

/-- Change a table. -/
@[inline] def modifyTable (s : Store) (ref : Nat) (f : Table → Table) : Store :=
  { s with heap := { s.heap with tables := s.heap.tables.modify ref f } }

/-- Put a value into a table; what the host's table is assigned is noted. -/
@[inline] def put (s : Store) (ref : Nat) (key value : Value) : Store :=
  let s := s.modifyTable ref (·.set key value)
  if ref == s.scope then { s with assigned := ⟨key, value⟩ :: s.assigned } else s

/-- Keep only those pairs of a table that a test allows; that the host's table
loses others is noted as assigning `nil`. -/
def sweep (s : Store) (ref : Nat) (test : Value → Value → Bool) : Store :=
  let lost := (s.table ref).pairs.toList.filter fun pair => !test pair.key pair.value
  let s := s.modifyTable ref (·.keep test)
  if ref == s.scope then
    { s with assigned := lost.map (fun pair => { pair with value := .nil }) ++ s.assigned }
  else s

/-- Put a table on the heap. -/
def newTable (s : Store) (table : Table) : Nat × Store :=
  let ref := s.heap.tables.size
  let bytes := table.bytes
  (ref, { s with
    heap := { s.heap with tables := s.heap.tables.push table }
    charge := s.charge + bytes })

/-- Put a closure on the heap. -/
def newClosure (s : Store) (closure : Closure) : Nat × Store :=
  let ref := s.heap.closures.size
  (ref, { s with
    heap := { s.heap with closures := s.heap.closures.push closure }
    charge := s.charge + closureBytes })

/-- The closure of a reference. -/
@[inline] def closure (s : Store) (ref : Nat) : Closure := s.heap.closures.getD ref default

/-- Put a variable on the heap. -/
@[inline] def newCell (s : Store) (value : Value) : Nat × Store :=
  let ref := s.heap.cells.size
  (ref, { s with
    heap := { s.heap with cells := s.heap.cells.push value }
    charge := s.charge + 40 })

/-- The value of a variable on the heap. -/
@[inline] def cell (s : Store) (ref : Nat) : Value := s.heap.cells.getD ref .nil

/-- Assign to a variable on the heap. -/
@[inline] def setCell (s : Store) (ref : Nat) (value : Value) : Store :=
  { s with heap := { s.heap with cells := s.heap.cells.setIfInBounds ref value } }

/-- Put a function with a state on the heap. -/
def newNative (s : Store) (native : Native) : Nat × Store :=
  let ref := s.heap.natives.size
  (ref, { s with heap := { s.heap with natives := s.heap.natives.push native } })

/-- The function of a reference. -/
def native (s : Store) (ref : Nat) : Native := s.heap.natives.getD ref default

/-- Change the state of a function. -/
def setNative (s : Store) (ref : Nat) (native : Native) : Store :=
  { s with heap := { s.heap with natives := s.heap.natives.setIfInBounds ref native } }

/-- Put a resource on the heap. -/
def newResource (s : Store) (resource : Resource) : Nat × Store :=
  let ref := s.heap.resources.size
  (ref, { s with heap := { s.heap with resources := s.heap.resources.push resource } })

/-- The resource of a reference. -/
def resource (s : Store) (ref : Nat) : Resource := s.heap.resources.getD ref default

/-- Change a resource. -/
def setResource (s : Store) (ref : Nat) (resource : Resource) : Store :=
  { s with heap := { s.heap with resources := s.heap.resources.setIfInBounds ref resource } }

/-- Start a new thread; it is suspended. -/
def newThread (s : Store) : Nat × Store :=
  let ref := s.heap.threads.size
  (ref, { s with
    heap := { s.heap with threads := s.heap.threads.push .suspended }
    charge := s.charge + 1000 })

/-- What a thread is doing. -/
def threadStatus (s : Store) (ref : Nat) : ThreadStatus := s.heap.threads.getD ref .dead

/-- Note what a thread is doing. -/
def setThreadStatus (s : Store) (ref : Nat) (status : ThreadStatus) : Store :=
  { s with heap := { s.heap with threads := s.heap.threads.setIfInBounds ref status } }

/-- The value of a slot. -/
@[inline] def slot (s : Store) (index : Nat) : Value :=
  let box := s.frame.boxes.getD index 0
  if box == 0 then s.frame.slots.getD index .nil else s.cell (box - 1)

/-- Assign to the variable of a slot. -/
@[inline] def setSlot (s : Store) (index : Nat) (value : Value) : Store :=
  let box := s.frame.boxes.getD index 0
  if box == 0 then
    { s with frame := { s.frame with slots := s.frame.slots.setIfInBounds index value } }
  else s.setCell (box - 1) value

/-- Put a new variable into a slot. -/
@[inline] def declareSlot (s : Store) (index : Nat) (value : Value) : Store :=
  if s.frame.shared.getD index false then
    let (cell, s) := s.newCell value
    { s with frame := { s.frame with boxes := s.frame.boxes.setIfInBounds index (cell + 1) } }
  else { s with frame := { s.frame with slots := s.frame.slots.setIfInBounds index value } }

/-- The value of a captured variable. -/
@[inline] def capturedValue (s : Store) (index : Nat) : Value :=
  s.cell (s.frame.captured.getD index 0)

/-- Assign to a captured variable. -/
@[inline] def setCaptured (s : Store) (index : Nat) (value : Value) : Store :=
  s.setCell (s.frame.captured.getD index 0) value

/-- Give a message out. -/
def emit (s : Store) (emission : Emission) : Store :=
  { s with world := { s.world with emitted := s.world.emitted.push emission } }

/-- Count all messages as delivered. -/
def delivered (s : Store) : Store := { s with world := { s.world with emitted := #[] } }

/-- Let scripts see the files of a disk. -/
def withDisk (s : Store) (disk : Disk) : Store := { s with world := { s.world with disk } }

/-- Replace the frame. -/
@[inline] def withFrame (s : Store) (frame : Frame) : Store := { s with frame }

/-- The metatable of a value, if it is a table. -/
def metatable? (s : Store) : Value → Option Nat
  | .table ref => (s.table ref).metatable
  | .str _ => some s.registry.strings
  | .handle ref =>
      match s.resource ref with
      | .file _ => some s.registry.files
      | _ => none
  | _ => none

/-- The field of a value's metatable. -/
def metafield (s : Store) (value : Value) (name : Value) : Value :=
  match s.metatable? value with
  | some ref => (s.table ref).get name
  | none =>
      match value with
      | .handle ref => (s.resource ref).metafield name
      | _ => .nil

end Store

end LuaSession.Script
