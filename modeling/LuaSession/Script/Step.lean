import LuaSession.Script.Heap

/-!
# Steps of evaluation

Evaluating a piece of a script either ends with a value, fails with an error, or
asks for something that takes further steps: a call, a loop, a protected call, a
switch between threads. The answer to a question is an `Exit`, and evaluation
goes on with it.

A `Step` is thus a tree whose inner nodes are requests. Evaluation is defined by
recursion on the script; everything unbounded is a request, and what requests
mean is left to the machine that answers them.
-/

namespace LuaSession.Script

/-- How a called function is named at the place of its call. -/
inductive Callee where
  | unnamed
  | expression (expr : Expr)
  | method (name : Bytes)
  | event (name : String)
  | iterator
  deriving Inhabited

/-- What a message says about a called function: its kind and its name. -/
def Callee.words? : Callee → Option (String × Bytes)
  | .unnamed => none
  | .expression expr => expr.origin?.map Origin.words
  | .method name => some ("method", name)
  | .event name => some ("metamethod", name.toUTF8)
  | .iterator => some ("for iterator", "for iterator".toUTF8)

/-- Who calls a function. -/
inductive CallKind where
  /-- A call that is written in a script. -/
  | script
  /-- A call in place of an operator. -/
  | event
  /-- A call by a library function; threads cannot be left from inside it. -/
  | library
  /-- A call by a library function that may be left and come back to. -/
  | resumable
  deriving DecidableEq, Repr, Inhabited

/-- Where and how a function is called. -/
structure Site where
  kind : CallKind
  /-- The line of the call, in a script. -/
  line : Nat := 0
  callee : Callee := .unnamed
  /-- How far the frame is in use below the call. -/
  room : Nat := 0
  deriving Inhabited

/-- How a statement is left, or what a request is answered with. -/
inductive Exit where
  | fell
  | broke
  /-- The body of a loop has ended and its condition calls for another run. -/
  | again
  | jumped (label : Bytes)
  | returned (values : Array Value)
  /-- The results are those of a call in place of this function. -/
  | tail (function : Value) (arguments : Array Value) (site : Site)
  /-- A protected call has failed. -/
  | caught (value : Value) (isMemory : Bool)
  /-- A thread has been given up: the error that it has ended with, and the values
  that are still to be closed, the first one first. -/
  | abandoned (error : Option Value) (pending : List Value)
  deriving Inhabited

/-- Why evaluation fails. -/
inductive Raised where
  /-- An error that handlers get to see. -/
  | error (value : Value)
  /-- An error that has been through its handler, or that has none. -/
  | handled (value : Value)
  | memory
  deriving Inhabited

/-- A loop that is under way. -/
inductive Loop where
  | while (condition : Expr) (labelled : Bool) (body : List Stmt)
  | repeat (labelled : Bool) (body : List Stmt) (condition : Expr)
  /-- The next value, the distance to the one after it, and how many come after
  the next. -/
  | countInts (index : Nat) (next step : Int64) (remaining : UInt64) (labelled : Bool)
      (body : List Stmt)
  | countFloats (index : Nat) (next stop step : Binary64) (labelled : Bool) (body : List Stmt)
  /-- The iterator and its state stand in the slots before `first`. -/
  | iterate (first count : Nat) (labelled : Bool) (body : List Stmt) (line room : Nat)

/-- What runs in the scope of a closing variable. -/
inductive Guarded where
  /-- The rest of a block; a condition at the end of the block ends a loop. -/
  | rest (body : List Stmt) (condition : Option Expr)
  | loop (loop : Loop)

/-- Who turns an error into what a protected call sees. -/
inductive Handler where
  | none
  | script (function : Value)
  /-- Errors become texts with a traceback, as the host sees them. -/
  | host
  deriving Inhabited

/-- What evaluation can ask for. -/
inductive Request where
  | call (function : Value) (arguments : Array Value) (site : Site)
  | loop (loop : Loop)
  /-- A block with labels. -/
  | labelled (body : List Stmt) (condition : Option Expr)
  /-- Something that runs until the value has to be closed. -/
  | guarded (value : Value) (name : Bytes) (line : Nat) (body : Guarded)
  /-- A call whose errors are caught; a sealed one cannot be left by its thread. -/
  | protect (handler : Handler) (isSealed : Bool) (function : Value) (arguments : Array Value)
  | resume (thread : Nat) (arguments : Array Value)
  /-- Leave the running thread. -/
  | yield (values : Array Value)
  /-- A new thread for a function. -/
  | spawn (function : Value)
  /-- Give a thread up: it will not go on. -/
  | abandon (thread : Nat)
  /-- May the running thread be left here? -/
  | canYield
  /-- The place in the scripts some calls further out. -/
  | position (level : Nat)
  /-- How deep the host's calls are nested. -/
  | depth
  /-- Collect garbage: the answer holds what has to be finalized. -/
  | collect

/-- A step of evaluation. -/
inductive Step (α : Type) where
  | done (value : α) (store : Store)
  | fail (raised : Raised) (store : Store)
  | ask (request : Request) (store : Store) (resume : Exit → Store → Step α)

instance {α : Type} : Inhabited (Step α) := ⟨.fail .memory default⟩

namespace Step

variable {α β : Type}

/-- Go on after a step that has been asked for. -/
def bindAsked : Step α → (α → Store → Step β) → Step β
  | .done value store, f => f value store
  | .fail raised store, _ => .fail raised store
  | .ask request store resume, f =>
      .ask request store fun exit store => (resume exit store).bindAsked f

/-- Go on with the value of a step. -/
@[inline] def bind (step : Step α) (f : α → Store → Step β) : Step β :=
  match step with
  | .done value store => f value store
  | .fail raised store => .fail raised store
  | .ask request store resume =>
      .ask request store fun exit store => (resume exit store).bindAsked f

end Step

/-- A computation on the store. -/
def Run (α : Type) : Type := Store → Step α

namespace Run

variable {α β : Type}

@[always_inline, inline] protected def pure (value : α) : Run α := fun store => .done value store

@[always_inline, inline] protected def bind (x : Run α) (f : α → Run β) : Run β :=
  fun store => (x store).bind f

instance : Monad Run where
  pure := Run.pure
  bind := Run.bind

instance : Inhabited (Run α) := ⟨fun store => .fail .memory store⟩

/-- Read something off the store. -/
@[always_inline, inline] def read (f : Store → α) : Run α := fun store =>
  let value := f store
  .done value store

/-- Change the store. -/
@[always_inline, inline] def modify (f : Store → Store) : Run Unit := fun store => .done () (f store)

/-- Change the store and give a value. -/
@[always_inline, inline] def update (f : Store → α × Store) : Run α := fun store =>
  match f store with
  | (value, store) => .done value store

/-- Fail. -/
def throw (raised : Raised) : Run α := fun store => .fail raised store

/-- Fail with an error value. -/
def raise (value : Value) : Run α := throw (.error value)

/-- Fail with a message. -/
def raiseBytes (message : Bytes) : Run α := raise (.str message)

/-- Fail with a message. -/
def raiseText (message : String) : Run α := raiseBytes message.toUTF8

/-- Ask for something. -/
@[inline] def ask (request : Request) : Run Exit := fun store =>
  .ask request store fun exit store => .done exit store

/-- The values that a request is answered with. -/
def askValues (request : Request) : Run (Array Value) := do
  match ← ask request with
  | .returned values => return values
  | _ => return #[]

/-- Call a function. -/
def call (function : Value) (arguments : Array Value) (site : Site) : Run (Array Value) :=
  askValues (.call function arguments site)

/-- Call a function from a library function. -/
def callLibrary (function : Value) (arguments : Array Value) : Run (Array Value) :=
  call function arguments { kind := .library }

/-- Count bytes that are taken; fail at once if they are more than there may
be. -/
def charge (bytes : Nat) : Run Unit := fun store =>
  match store.limit with
  | some limit =>
      if bytes > limit then .fail .memory store else .done () (store.charged bytes)
  | none => .done () store

end Run

/-- The first of several values. -/
@[inline] def firstOf (values : Array Value) : Value := values.getD 0 .nil

/-- Where an operation runs: on a line of the running script, or in a library
function. Messages name the line. -/
inductive Place where
  | script (line : Nat)
  | library
  deriving DecidableEq, Repr

namespace Run

/-- Fail with a message that names the place. -/
def faultBytes {α : Type} (place : Place) (message : Bytes) : Run α := fun store =>
  match place with
  | .script line =>
      .fail (.error (.str (store.frame.chunk ++ s!":{line}: ".toUTF8 ++ message))) store
  | .library => .fail (.error (.str message)) store

/-- Fail with a message that names the place. -/
def fault {α : Type} (place : Place) (message : String) : Run α := faultBytes place message.toUTF8

end Run

/-- What a message adds about a value that has a kind and a name. -/
def describeName : Option (String × Bytes) → Bytes
  | some (kind, name) => s!" ({kind} '".toUTF8 ++ name ++ "')".toUTF8
  | none => ByteArray.empty

/-- What a message adds about an expression's value. -/
def describeOrigin (origin : Option Origin) : Bytes := describeName (origin.map Origin.words)

end LuaSession.Script
