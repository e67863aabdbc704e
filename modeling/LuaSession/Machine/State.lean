import LuaSession.Library.Functions

/-!
# The state of the machine

The machine answers the requests of an evaluation. While it works on an answer,
what waits for it stands on a stack: callers, protected calls, loops, blocks.
Every thread has a stack of its own.
-/

namespace LuaSession.Machine

open LuaSession.Script

/-- How an evaluation goes on with the answer to its request. -/
abbrev Resume := Exit → Store → Step Exit

/-- What the machine knows of a running function, its variables apart. -/
structure Activation where
  /-- Is it written in a script? -/
  isScript : Bool := false
  /-- How deep calls by the host are nested in the thread. -/
  nesting : Nat := 0
  /-- How far the stack of calls is in use below the function. -/
  base : Nat := 0
  /-- How many of the calls around it cannot be left by the thread. -/
  barriers : Nat := 0
  /-- How many functions wait for it. -/
  depth : Nat := 0
  deriving Inhabited

/-- What waits for the end of something. -/
inductive Wait where
  /-- A caller, its variables and the line of the call. -/
  | call (resume : Resume) (caller : Activation) (frame : Frame) (line : Nat)
  | protect (handler : Handler) (isSealed : Bool) (resume : Resume) (caller : Activation)
  /-- A loop, and what is left of it. -/
  | loop (rest : Option Loop) (resume : Resume)
  | labelled (body : List Stmt) (condition : Option Expr) (resume : Resume)
  /-- The scope of a value that has to be closed. -/
  | guarded (value : Value) (line : Nat) (body : List Stmt) (condition : Option Expr)
      (resume : Resume)
  /-- A protected call that has failed and closes values. -/
  | unwinding (pending : List Value) (error : Value) (isMemory : Bool)

/-- A thread that is not running, but has been. -/
structure Paused where
  stack : List Wait
  activation : Activation
  frame : Frame
  resume : Resume
  /-- How deep the calls of the threads around it were nested. -/
  nestingBase : Nat

/-- What a thread that is neither running nor waiting has still to do. -/
inductive Dormant where
  | fresh (function : Value)
  | suspended (paused : Paused)
  /-- It has ended; the error that ended it, and values still to be closed. -/
  | ended (error : Option Value) (pending : List Value)

instance : Inhabited Dormant := ⟨.ended none []⟩

/-- The machine. -/
structure State where
  /-- What waits in the running thread, the innermost first. -/
  stack : List Wait := []
  activation : Activation := {}
  /-- How deep the calls of the threads around the running one are nested. -/
  nestingBase : Nat := 0
  /-- Is an overflow of the stack being dealt with? -/
  overflowing : Bool := false
  /-- The threads that wait for the running one, the innermost first. -/
  parents : List (Nat × Paused) := []
  threads : Array Dormant := #[default]
  deriving Inhabited

namespace State

/-- How deep the host's calls are nested. -/
@[inline] def nesting (m : State) : Nat := m.nestingBase + m.activation.nesting

/-- Change what is known of the running function. -/
@[inline] def withActivation (m : State) (activation : Activation) : State := { m with activation }

/-- Let something wait. -/
@[inline] def push (m : State) (wait : Wait) : State := { m with stack := wait :: m.stack }

/-- Note what a thread has still to do. -/
def setThread (m : State) (thread : Nat) (dormant : Dormant) : State :=
  { m with threads := m.threads.setIfInBounds thread dormant }

end State

/-- The place of a call in a script some calls further out. -/
def positionAt : (level : Nat) → List Wait → Bytes
  | _, [] => ByteArray.empty
  | level, .call _ caller frame line :: rest =>
      if level ≤ 1 then
        if caller.isScript then frame.chunk ++ s!":{line}: ".toUTF8 else ByteArray.empty
      else positionAt (level - 1) rest
  | level, _ :: rest => positionAt level rest

/-- The handler of the innermost protected call. -/
def handlerOf : List Wait → Handler
  | [] => .none
  | .protect handler .. :: _ => handler
  | _ :: rest => handlerOf rest

/-- Leave everything up to the innermost protected call: the values to be closed
on the way, after those in `done`, and what is left of the stack. -/
def leaveWaits : (done : Array Value) → List Wait → List Value × List Wait
  | done, [] => (done.toList, [])
  | done, .protect handler isSealed resume caller :: rest =>
      (done.toList, .protect handler isSealed resume caller :: rest)
  | done, .guarded value .. :: rest => leaveWaits (done.push value) rest
  | done, .unwinding pending .. :: rest => leaveWaits (done ++ pending.toArray) rest
  | done, _ :: rest => leaveWaits done rest

/-- All values that a stack has still to close. -/
def allPending : (done : Array Value) → List Wait → List Value
  | done, [] => done.toList
  | done, .guarded value .. :: rest => allPending (done.push value) rest
  | done, .unwinding pending .. :: rest => allPending (done ++ pending.toArray) rest
  | done, _ :: rest => allPending done rest

end LuaSession.Machine
