import LuaSession.Machine.Collector
import LuaSession.Script.Evaluate

/-!
# Transitions of the machine

One step of an evaluation is a value, an error or a request. `advance` says what
comes of it: the next step, with what waits now. Nothing here is recursive in
the length of a run, and every request has an answer.
-/

namespace LuaSession.Machine

open LuaSession.Script
open LuaSession.Library (Caller)

/-- How deep calls by the host may be nested. -/
def nestingLimit : Nat := 200

/-- How deep they may be nested while an error is dealt with. -/
def errorNestingLimit : Nat := nestingLimit / 10 * 11

/-- The size of the stack of calls. -/
def stackLimit : Nat := 1000000

/-- What the stack of calls has in spare while an overflow is dealt with. -/
def stackSpare : Nat := 200

/-- How much of the stack a library function needs. -/
def libraryRoom : Nat := 20

/-- How often the metamethod for calls is looked up for one call. -/
def callChainLimit : Nat := 200

/-- What comes of a step. -/
abbrev Next := State × Step Exit

/-- The answer that is a list of values. -/
@[inline] def answerValues (values : Array Value) (store : Store) : Step Exit :=
  .done (.returned values) store

/-- An evaluation that ends with the answer. -/
def ends : Resume := fun exit store => .done exit store

/-- A step that gives values, as one that ends with an exit. -/
def ofValues (step : Step (Array Value)) : Step Exit := step.bindAsked answerValues

/-- The values that an exit carries. -/
def valuesOf : Exit → Array Value
  | .returned values => values
  | _ => #[]

/-- Where a library function is called from. -/
def placeOf (m : State) (line : Nat) : Place :=
  if m.activation.isScript then .script line else .library

/-- Fail with a message that names the place of a call. -/
def faultAt (m : State) (line : Nat) (message : Bytes) (store : Store) : Next :=
  (m, (Run.faultBytes (placeOf m line) message : Run Exit) store)

/-- The message that calls are nested too deeply. -/
def nestingMessage : String := "C stack overflow"

/-- The error that there is when an error in an error handler is not dealt with. -/
def handlingError : Raised := .handled (.ofString "error in error handling")

/-- The bytes that stacks take. -/
def stackBytes (m : State) : Nat := 16 * m.activation.base + 64 * m.activation.depth

/-- Is there room for what is in use? When it may not be so, everything in use is
counted anew; it is never more than what has been taken. -/
def checkMemory (m : State) (store : Store) : Bool × Store :=
  match store.limit with
  | none => (true, store)
  | some limit =>
      let stack := stackBytes m
      if store.charge + stack ≤ limit then (true, store)
      else
        let bytes := min store.charge (Collector.bytesInUse m store)
        let store := { store with charge := bytes }
        (bytes + stack ≤ limit, store)

/-- The variables of a function that begins. -/
def frameOf (closure : Closure) (arguments : Array Value) : Frame :=
  let info := closure.code.info
  let extra := if info.isVariadic then arguments.extract info.parameters arguments.size else #[]
  let given := if arguments.size ≤ info.parameters then arguments
    else arguments.extract 0 info.parameters
  let slots := if given.size < info.slots then
      given ++ Array.replicate (info.slots - given.size) .nil
    else given
  { chunk := info.chunk
    slots
    boxes := if info.shared.isEmpty then #[] else Array.replicate info.slots 0
    shared := info.shared
    captured := closure.captured
    extra
    frameSize := info.frameSize }

/-- Run the body of a function. -/
def runBody (code : Code) : Run Exit :=
  match code with
  | .mk _ false body => execBlock none body
  | .mk _ true body => Run.ask (.labelled body none)

/-- Fail because the stack of calls is full. -/
def overflow (m : State) (line : Nat) (store : Store) : Next :=
  if m.overflowing then (m, .fail handlingError store)
  else faultAt { m with overflowing := true } line "stack overflow".toUTF8 store

/-- Does the stack of calls have room up to here? -/
def hasRoom (m : State) (top : Nat) : Bool :=
  top ≤ (if m.overflowing then stackLimit + stackSpare else stackLimit)

/-- Begin a function that is written in a script, in place of nothing or of the
running function. -/
def begin (m : State) (closure : Closure) (arguments : Array Value) (activation : Activation)
    (store : Store) : Next :=
  (m.withActivation activation,
    runBody closure.code (store.withFrame (frameOf closure arguments)))

/-- How far the stack of calls is in use below the variables of a function. -/
def baseOf (closure : Closure) (arguments : Array Value) (base : Nat) : Nat :=
  if closure.code.info.isVariadic then base + arguments.size + 1 else base

/-- The function that a value is called as: the value itself, or its metamethod
for calls, which gets the value as its first argument. If there is none, the
value that cannot be called. -/
def callee (store : Store) : (fuel : Nat) → (function : Value) → (arguments : Array Value) →
    Except Value (Value × Array Value)
  | 0, function, _ => .error function
  | fuel + 1, function, arguments =>
      if function.isFunction then .ok (function, arguments)
      else
        let handler := store.metafield function Event.call
        if handler.isNil then .error function
        else callee store fuel handler (#[function] ++ arguments)

/-- Fail because a value cannot be called. -/
def failCall (m : State) (function : Value) (site : Site) (store : Store) : Next :=
  let name := if m.activation.isScript then describeName site.callee.words? else ByteArray.empty
  faultAt m site.line
    ("attempt to call a ".toUTF8 ++ store.typeNameOf function ++ " value".toUTF8 ++ name) store

/-- Run a library function. It is made to wait only when it asks for something; when it
fails, its place still counts, but its caller does not go on. -/
@[inline] def runLibrary (m : State) (run : Run (Array Value)) (line : Nat)
    (activation : Activation) (resume : Resume) (store : Store) : Next :=
  match run store with
  | .done values store => (m, resume (.returned values) store)
  | .fail raised store =>
      let frame := store.frame
      ((m.push (.call ends m.activation frame line)).withActivation activation,
        .fail raised store)
  | .ask request store goOn =>
      let frame := store.frame
      let store := store.withFrame {}
      ((m.push (.call resume m.activation frame line)).withActivation activation,
        .ask request store fun exit store => ofValues (goOn exit store))

/-- What a function does that is not written in a script. -/
def libraryRun (m : State) (function : Value) (arguments : Array Value) (site : Site) :
    Run (Array Value) := fun store =>
  let caller : Caller := {
    function
    callee := if m.activation.isScript then site.callee else .unnamed
    place := if m.activation.isScript then some (store.frame.chunk, site.line) else none }
  match function with
  | .builtin builtin => Library.runBuiltin builtin caller arguments store
  | .native ref => Library.runNative ref caller arguments store
  | _ => .done #[] store

/-- The nesting inside a call. -/
def nestingIn (m : State) (kind : CallKind) : Nat :=
  match kind with
  | .script => m.activation.nesting
  | _ => m.activation.nesting + 1

/-- The barriers inside a call. -/
def barriersIn (m : State) (kind : CallKind) : Nat :=
  match kind with
  | .library => m.activation.barriers + 1
  | .event => if m.activation.isScript then m.activation.barriers else m.activation.barriers + 1
  | _ => m.activation.barriers

/-- Call a function that can be called. -/
def enter (m : State) (function : Value) (arguments : Array Value) (site : Site)
    (resume : Resume) (store : Store) : Next :=
  let base := m.activation.base + site.room + 1
  let activation (isScript : Bool) (base : Nat) : Activation :=
    { isScript
      nesting := nestingIn m site.kind
      base
      barriers := barriersIn m site.kind
      depth := m.activation.depth + 1 }
  match function with
  | .closure ref =>
      let closure := store.closure ref
      let top := baseOf closure arguments base
      if !hasRoom m (top + closure.code.info.frameSize) then overflow m site.line store
      else
        let frame := store.frame
        let store := store.withFrame {}
        begin (m.push (.call resume m.activation frame site.line)) closure arguments
          (activation true top) store
  | function =>
      if !hasRoom m (base + arguments.size + libraryRoom) then overflow m site.line store
      else
        runLibrary m (libraryRun m function arguments site) site.line (activation false base)
          resume store

/-- Call a value. -/
def call (m : State) (function : Value) (arguments : Array Value) (site : Site)
    (resume : Resume) (store : Store) : Next :=
  let nesting := m.nestingBase + nestingIn m site.kind
  if site.kind != .script && nesting ≥ nestingLimit &&
      (nesting == nestingLimit || nesting ≥ errorNestingLimit) then
    let m := m.withActivation { m.activation with nesting := m.activation.nesting + 1 }
    if nesting == nestingLimit then faultAt m site.line nestingMessage.toUTF8 store
    else (m, .fail handlingError store)
  else
    match checkMemory m store with
    | (false, store) => (m, .fail .memory store)
    | (true, store) =>
        if function.isFunction then enter m function arguments site resume store
        else
          match callee store callChainLimit function arguments with
          | .ok (function, arguments) => enter m function arguments site resume store
          | .error value => failCall m value site store

/-- Call a value in place of the running function. A function that is not
written in a script does not take its place. -/
def tailCall (m : State) (function : Value) (arguments : Array Value) (site : Site)
    (store : Store) : Next :=
  match checkMemory m store with
  | (false, store) => (m, .fail .memory store)
  | (true, store) =>
      match callee store callChainLimit function arguments with
      | .error value => failCall m value site store
      | .ok (.closure ref, arguments) =>
          let closure := store.closure ref
          let top := baseOf closure arguments m.activation.base
          if !hasRoom m (top + closure.code.info.frameSize) then overflow m site.line store
          else begin m closure arguments m.activation store
      | .ok (function, arguments) => enter m function arguments site ends store

/-- Go back to the thread that waits for the running one. -/
def leaveThread (m : State) (dormant : Dormant) (status : ThreadStatus) (exit : Exit)
    (store : Store) : Next :=
  match m.parents with
  | [] => (m, .done exit store)
  | (thread, paused) :: parents =>
      let store := store.setThreadStatus store.thread status
      let m := m.setThread store.thread dormant
      let store := { store.setThreadStatus thread .running with thread }
      ({ m with
          stack := paused.stack
          activation := paused.activation
          nestingBase := paused.nestingBase
          overflowing := false
          parents },
        paused.resume exit (store.withFrame paused.frame))

/-- Close values of a protected call that has failed; then it is over. -/
def closePending (m : State) (pending : List Value) (error : Value) (isMemory : Bool)
    (store : Store) : Next :=
  match pending, m.stack with
  | [], .protect _ _ resume caller :: rest =>
      ({ m with stack := rest, activation := caller },
        resume (.caught error isMemory) store)
  | value :: pending, .protect _ isSealed _ _ :: _ =>
      let handler := store.metafield value Event.close
      call (m.push (.unwinding pending error isMemory)) handler #[value, error]
        { kind := if isSealed then .library else .resumable } ends store
  | _, _ => (m, .done (.caught error isMemory) store)

/-- Leave everything up to the innermost protected call, or else the thread. -/
def unwind (m : State) (error : Value) (isMemory : Bool) (store : Store) : Next :=
  let (pending, stack) := leaveWaits #[] m.stack
  match stack with
  | .protect handler isSealed resume caller :: rest =>
      closePending
        { m with
          stack := .protect handler isSealed resume caller :: rest
          activation := caller
          overflowing := false }
        pending error isMemory (store.withFrame {})
  | _ =>
      leaveThread { m with stack := [] } (.ended (some error) pending) .dead
        (.caught error isMemory) store

/-- The message that there is no memory left. -/
def memoryMessage : String := "not enough memory"

/-- How a handler's result goes on as an error. -/
def handled : Resume := fun exit store => .fail (.handled (firstOf (valuesOf exit))) store

/-- Deal with an error: show it to its handler, then unwind. -/
def fail (m : State) (raised : Raised) (store : Store) : Next :=
  match raised with
  | .memory => unwind m (.ofString memoryMessage) true store
  | .handled value => unwind m value false store
  | .error value =>
      match handlerOf m.stack with
      | .none => unwind m value false store
      | .script function => call m function #[value] { kind := .library } handled store
      | .host =>
          let nesting := m.nesting + 1
          if nesting ≥ errorNestingLimit then (m, .fail handlingError store)
          else
            runLibrary m (Library.Hosted.report value) 0
              { m.activation with
                isScript := false
                nesting := m.activation.nesting + 1
                barriers := m.activation.barriers + 1
                depth := m.activation.depth + 1 }
              handled store

/-- Run a loop once more, if it is not over. -/
def iterate (m : State) (loop : Loop) (resume : Resume) (store : Store) : Next :=
  match loop.iteration? with
  | none => (m, resume .fell store)
  | some (run, rest) =>
      match checkMemory m store with
      | (false, store) => (m, .fail .memory store)
      | (true, store) => (m.push (.loop rest resume), run store)

/-- Guard a value that has to be closed. -/
def guarded (m : State) (value : Value) (name : Bytes) (line : Nat) (body : Guarded)
    (resume : Resume) (store : Store) : Next :=
  if (store.metafield value Event.close).isNil then
    faultAt m line ("variable '".toUTF8 ++ name ++ "' got a non-closable value".toUTF8) store
  else
    match body with
    | .rest body condition =>
        (m.push (.guarded value line body condition resume), execBlock condition body store)
    | .loop loop => iterate (m.push (.guarded value line [] none resume)) loop ends store

/-- Resume a thread. -/
def resumeThread (m : State) (thread : Nat) (arguments : Array Value) (resume : Resume)
    (store : Store) : Next :=
  if m.nesting ≥ nestingLimit then
    (m, resume (.caught (.ofString nestingMessage) false) store)
  else
    let paused : Paused :=
      { stack := m.stack, activation := m.activation, frame := store.frame, resume
        nestingBase := m.nestingBase }
    let parents := (store.thread, paused) :: m.parents
    let nestingBase := m.nesting
    let store := (store.setThreadStatus store.thread .normal).setThreadStatus thread .running
    let store := { store with thread }.withFrame {}
    let dormant := m.threads.getD thread default
    let m := m.setThread thread default
    match dormant with
    | .fresh function =>
        call { m with stack := [], activation := {}, nestingBase, overflowing := false, parents }
          function arguments { kind := .resumable } ends store
    | .suspended paused =>
        ({ m with
            stack := paused.stack
            activation := paused.activation
            nestingBase := nestingBase + 1
            overflowing := false
            parents },
          paused.resume (.returned arguments) (store.withFrame paused.frame))
    | .ended .. => leaveThread { m with parents } default .dead (.returned #[]) store

/-- Leave the running thread. -/
def yieldThread (m : State) (values : Array Value) (resume : Resume) (store : Store) : Next :=
  if store.thread == 0 then
    (m, .fail (.error (.ofString "attempt to yield from outside a coroutine")) store)
  else if m.activation.barriers > 0 then
    (m, .fail (.error (.ofString "attempt to yield across a C-call boundary")) store)
  else
    let paused : Paused :=
      { stack := m.stack, activation := m.activation, frame := store.frame, resume
        nestingBase := 0 }
    leaveThread m (.suspended paused) .suspended (.returned values) store

/-- Give a thread up. -/
def abandonThread (m : State) (thread : Nat) (resume : Resume) (store : Store) : Next :=
  let (error, pending) : Option Value × List Value :=
    match m.threads.getD thread default with
    | .fresh _ => (none, [])
    | .suspended paused => (none, allPending #[] paused.stack)
    | .ended error pending => (error, pending)
  (m.setThread thread default,
    resume (.abandoned error pending) (store.setThreadStatus thread .dead))

/-- Answer a request. -/
def answer (m : State) (request : Request) (store : Store) (resume : Resume) : Next :=
  let answered (values : Array Value) : Next := (m, resume (.returned values) store)
  match request with
  | .call function arguments site => call m function arguments site resume store
  | .loop loop => iterate m loop resume store
  | .labelled body condition =>
      (m.push (.labelled body condition resume), execBlock condition body store)
  | .guarded value name line body => guarded m value name line body resume store
  | .protect handler isSealed function arguments =>
      call (m.push (.protect handler isSealed resume m.activation)) function arguments
        { kind := if isSealed then .library else .resumable } ends store
  | .resume thread arguments => resumeThread m thread arguments resume store
  | .yield values => yieldThread m values resume store
  | .spawn function =>
      let (thread, store) := store.newThread
      ({ m with threads := m.threads.push (.fresh function) },
        resume (.returned #[.thread thread]) store)
  | .abandon thread => abandonThread m thread resume store
  | .canYield => answered #[.bool (store.thread != 0 && m.activation.barriers == 0)]
  | .position level => answered #[.str (positionAt level m.stack)]
  | .depth => answered #[.ofNat m.nesting]
  | .collect =>
      let (values, store) := Collector.collect m store
      (m, resume (.returned values) store)

/-- Close a guarded value whose scope has been left. -/
def closeGuarded (m : State) (value : Value) (line : Nat) (exit : Exit) (resume : Resume)
    (store : Store) : Next :=
  call m (store.metafield value Event.close) #[value, .nil]
    { kind := .event, line, callee := .event "close" }
    (fun _ store => resume exit store) store

/-- Go on with what waits for an exit. -/
def leave (m : State) (wait : Wait) (rest : List Wait) (exit : Exit) (store : Store) : Next :=
  match wait with
  | .call resume caller frame _ =>
      match exit with
      | .tail function arguments site => tailCall m function arguments site store
      | exit =>
          ({ m with stack := rest, activation := caller },
            resume (.returned (valuesOf exit)) (store.withFrame frame))
  | .protect _ _ resume _ => ({ m with stack := rest }, resume exit store)
  | .loop loop resume =>
      let m := { m with stack := rest }
      match exit with
      | .fell | .again =>
          match loop with
          | some loop => iterate m loop resume store
          | none => (m, resume .fell store)
      | .broke => (m, resume .fell store)
      | exit => (m, resume exit store)
  | .labelled body condition resume =>
      match exit with
      | .jumped label =>
          match afterLabel? label body with
          | some body => (m, execBlock condition body store)
          | none => ({ m with stack := rest }, resume exit store)
      | exit => ({ m with stack := rest }, resume exit store)
  | .guarded value line body condition resume =>
      match exit, condition with
      | .fell, some condition =>
          ({ m with stack := .guarded value line [] none resume :: rest },
            evalEnd condition store)
      | .jumped label, condition =>
          match afterLabel? label body with
          | some body => (m, execBlock condition body store)
          | none => closeGuarded { m with stack := rest } value line exit resume store
      | exit, _ => closeGuarded { m with stack := rest } value line exit resume store
  | .unwinding pending error isMemory =>
      closePending { m with stack := rest } pending error isMemory store

/-- What comes of a step. -/
def advance (m : State) (step : Step Exit) : Next :=
  match step with
  | .ask request store resume => answer m request store resume
  | .fail raised store => fail m raised store
  | .done exit store =>
      match m.stack with
      | wait :: rest => leave m wait rest exit store
      | [] => leaveThread m (.ended none []) .dead exit store

end LuaSession.Machine
