import LuaSession.Proofs.Machine.Level
import LuaSession.Proofs.Session.Lookup
import LuaSession.Syntax.Chunk

/-!
# Errors that nothing catches

A function that the host has called raises an error with a text. Nothing in a script
catches it, so the host is shown the text, with the place of the call in front of it. Then
the values are closed whose scopes are left, and the host's call is over.
-/

namespace LuaSession.Machine

open LuaSession.Script LuaSession.Library

/-! ## Leaving waits -/

/-- A wait at which errors come to an end. -/
def Wait.isProtect : Wait → Bool
  | .protect .. => true
  | _ => false

/-- What waits within a function catches nothing. -/
theorem Wait.Within.isProtect {chunk : Bytes} {wait : Wait} (within : wait.Within chunk) :
    wait.isProtect = false := by
  cases wait with
  | protect => exact within.elim
  | _ => rfl

section Waits

variable {front : List Wait} (free : ∀ wait ∈ front, wait.isProtect = false)

include free

/-- The handler is that of the first wait at which errors come to an end. -/
theorem handlerOf_append (rest : List Wait) : handlerOf (front ++ rest) = handlerOf rest := by
  induction front with
  | nil => rfl
  | cons wait front ih =>
      obtain ⟨here, rest⟩ := List.forall_mem_cons.mp free
      cases wait with
      | protect => cases here
      | _ => exact ih rest

/-- Everything up to there is left. -/
theorem leaveWaits_append (done : Array Value) (handler : Handler) (isSealed : Bool)
    (resume : Resume) (caller : Activation) (rest : List Wait) :
    (leaveWaits done (front ++ .protect handler isSealed resume caller :: rest)).2 =
      .protect handler isSealed resume caller :: rest := by
  induction front generalizing done with
  | nil => rfl
  | cons wait front ih =>
      obtain ⟨here, free'⟩ := List.forall_mem_cons.mp free
      cases wait with
      | protect => cases here
      | _ => exact ih free' _

end Waits

/-! ## Closing values -/

/-- A protected call that has failed closes values one after the other, and each of these
calls comes back. -/
inductive Closes (error : Value) : State → List Value → Store → Prop where
  | none {m : State} {s : Store} : Closes error m [] s
  | next {m back : State} {value : Value} {pending : List Value} {exit : Exit} {s t : Store}
      (passes : Passes (closePending m (value :: pending) error false s).1
        (closePending m (value :: pending) error false s).2 back (.done exit t))
      (returns : back.stack = .unwinding pending error false :: m.stack)
      (parents : back.parents = m.parents)
      (later : Closes error { back with stack := m.stack } pending t) :
      Closes error m (value :: pending) s

/-- When the values are closed, the host's call is over. -/
theorem Closes.stops {error : Value} {m : State} {pending : List Value} {s : Store}
    (closes : Closes error m pending s) {handler : Handler} {isSealed : Bool}
    {caller : Activation} (stack : m.stack = [.protect handler isSealed ends caller])
    (parents : m.parents = []) :
    ∃ machine final, Stops (closePending m pending error false s).1
      (closePending m pending error false s).2 (.caught error false, machine, final) := by
  induction closes with
  | @none m s =>
      have isOver : closePending m [] error false s =
          ({ m with stack := [], activation := caller }, .done (.caught error false) s) := by
        rw [closePending.eq_def]
        simp only [stack, ends]
      rw [isOver]
      refine ⟨{ m with stack := [], activation := caller }, s, .now ?_⟩
      simp only [stopped?, parents]
  | @next m back value pending exit s t passes returns alone _ ih =>
      obtain ⟨machine, final, stops⟩ := ih stack (alone.trans parents)
      refine ⟨machine, final, passes.stops (.next ?_ ?_ stops)⟩
      · simp only [stopped?, returns]
      · simp only [advance, returns, leave]

/-! ## Raising an error -/

/-- What the host is shown of an error with a text. -/
def reported (text : Bytes) : Bytes :=
  Syntax.beforeZero text ++ s!"\n{Failure.tracebackMark}\n\t[C]: in ?".toUTF8

/-- The function of a level calls `error` with a text and nothing else, for its value or
in its own place. -/
inductive Level.Raises (level : Level) (site : Site) (message : Bytes) :
    State → Step Exit → Prop where
  | called {m : State} {s : Store} {resume : Resume} : Level.Raises level site message m
      (.ask (.call (.builtin (.base .error)) #[.str message] site) s resume)
  | inPlace {m : State} {s : Store} (stack : m.stack = level.base) :
      Level.Raises level site message m
        (.done (.tail (.builtin (.base .error)) #[.str message] site) s)

variable {m : State} {s checked : Store} {site : Site} {message : Bytes} {resume : Resume}

/-- Called by a script, the function `error` fails with the place of the call in front of
its text. -/
theorem libraryRun_error (isScript : m.activation.isScript = true) :
    libraryRun m (.builtin (.base .error)) #[.str message] site s =
      .fail (.error (.str (Syntax.located s.frame.chunk site.line message))) s := by
  simp only [libraryRun, isScript, reduceIte]
  rfl

/-- The call of `error` fails. -/
theorem enter_error (isScript : m.activation.isScript = true)
    (room : hasRoom m (m.activation.base + site.room + 2 + libraryRoom) = true) :
    enter m (.builtin (.base .error)) #[.str message] site resume s =
      ((m.push (.call ends m.activation s.frame site.line)).withActivation
          { nesting := nestingIn m site.kind
            base := m.activation.base + site.room + 1
            barriers := barriersIn m site.kind
            depth := m.activation.depth + 1 },
        .fail (.error (.str (Syntax.located s.frame.chunk site.line message))) s) := by
  rw [enter.eq_def]
  have room' : hasRoom m (m.activation.base + site.room + 1 + #[Value.str message].size +
    libraryRoom) = true := room
  simp only [room', Bool.not_true, Bool.false_eq_true, reduceIte]
  rw [runLibrary, libraryRun_error isScript]

/-- The level of a function that the host has called. -/
def Level.main (chunk : Bytes) (frame : Frame) (base : Nat) : Level where
  chunk
  base := [.call ends {} frame 0, .protect .host true ends {}]
  activation := { isScript := true, nesting := 1, base, barriers := 1, depth := 1 }
  shallow := show 0 + (1 + 1) < 200 by decide

section Main

variable {chunk : Bytes} {frame : Frame} {base : Nat} {step : Step Exit}

/-- Where a call of `error` has failed. -/
def raising (m : State) (site : Site) (frame : Frame) : State :=
  (m.push (.call ends m.activation frame site.line)).withActivation
    { nesting := nestingIn m site.kind
      base := m.activation.base + site.room + 1
      barriers := barriersIn m site.kind
      depth := m.activation.depth + 1 }

/-- Called on that level, `error` fails with the name of the text and the line of the
call. -/
theorem Level.Raises.advance (raises : (Level.main chunk frame base).Raises site message m step)
    (holds : (Level.main chunk frame base).Holds (m, step)) (kind : site.kind = .script)
    (memory : checkMemory m step.store = (true, checked))
    (room : hasRoom m (m.activation.base + site.room + 2 + libraryRoom) = true) :
    advance m step = (raising m site checked.frame,
      .fail (.error (.str (Syntax.located chunk site.line message))) checked) := by
  obtain ⟨_, activation, nestingBase, _⟩ := holds.on
  have activation : m.activation = (Level.main chunk frame base).activation := activation
  have isScript : m.activation.isScript = true := by
    rw [activation]
    rfl
  have inChunk : checked.frame.chunk = chunk := by
    obtain ⟨charge, counted⟩ := Session.checkMemory_store m step.store
    rw [memory] at counted
    have counted : checked = { step.store with charge } := counted
    rw [counted]
    cases raises with
    | called => exact holds.step.1
    | inPlace => exact holds.step
  rw [← inChunk]
  cases raises with
  | @called s resume =>
      have shallow : m.nestingBase + nestingIn m site.kind < nestingLimit := by
        have isBase : m.nestingBase = 0 := nestingBase
        rw [isBase, kind, nestingIn, activation]
        exact show 0 + 1 < 200 by decide
      exact (call_of_shallow memory shallow rfl).trans (enter_error isScript room)
  | @inPlace s stack =>
      have stack : m.stack = [.call ends {} frame 0, .protect .host true ends {}] := stack
      have calls : tailCall m (.builtin (.base .error)) #[.str message] site s =
          enter m (.builtin (.base .error)) #[.str message] site ends checked := by
        change checkMemory m s = _ at memory
        rw [tailCall, memory]
        rfl
      refine Eq.trans ?_ (calls.trans (enter_error isScript room))
      simp only [Machine.advance, stack, leave]

/-- The host is shown the error. -/
theorem fail_host (handler : handlerOf m.stack = .host) (shallow : m.nesting + 1 < errorNestingLimit)
    {text : Bytes} (noHandler : s.metafield (.str text) Event.tostring = .nil) :
    fail m (.error (.str text)) s = (m, .fail (.handled (.str (reported text))) s) := by
  rw [fail, handler]
  simp only [ge_iff_le, Nat.not_le.mpr shallow, reduceIte]
  rw [runLibrary, Hosted.report_str, textOf_str noHandler]
  rfl

/-- Everything up to the host's call is left. -/
theorem unwind_main {front : List Wait} (free : ∀ wait ∈ front, wait.isProtect = false)
    (stack : m.stack = front ++ [.protect .host true ends {}]) (error : Value) :
    unwind m error false s = closePending
      { m with stack := [.protect .host true ends {}], activation := {}, overflowing := false }
      (leaveWaits #[] m.stack).1 error false (s.withFrame {}) := by
  have left : (leaveWaits #[] m.stack).2 = [.protect .host true ends {}] := by
    rw [stack]
    exact leaveWaits_append free _ _ _ _ _ _
  rw [unwind]
  generalize leaveWaits #[] m.stack = split at left ⊢
  obtain ⟨pending, rest⟩ := split
  obtain rfl : rest = _ := left
  rfl

/-- An error that is raised there is shown to the host, and is what the call ends with when
all values are closed whose scopes are left. -/
theorem Level.Raises.stops (raises : (Level.main chunk frame base).Raises site message m step)
    (holds : (Level.main chunk frame base).Holds (m, step)) (kind : site.kind = .script)
    (memory : checkMemory m step.store = (true, checked))
    (room : hasRoom m (m.activation.base + site.room + 2 + libraryRoom) = true)
    (noHandler : checked.metafield (.str message) Event.tostring = .nil)
    (closes : Closes (.str (reported (Syntax.located chunk site.line message)))
      { m with stack := [.protect .host true ends {}], activation := {}, overflowing := false }
      (leaveWaits #[] m.stack).1 (checked.withFrame {})) :
    ∃ machine final, Stops m step
      (.caught (.str (reported (Syntax.located chunk site.line message))) false, machine, final) := by
  have raised := raises.advance holds kind memory room
  obtain ⟨⟨within, stack, all⟩, activation, nestingBase, parents⟩ := holds.on
  have stack : m.stack = within ++ [.call ends {} frame 0, .protect .host true ends {}] := stack
  have activation : m.activation = (Level.main chunk frame base).activation := activation
  have nestingBase : m.nestingBase = 0 := nestingBase
  generalize Syntax.located chunk site.line message = text at raised closes ⊢
  -- What stands above the host's call: the call of `error`, and the waits of the function.
  let front : List Wait :=
    .call ends m.activation checked.frame site.line :: (within ++ [.call ends {} frame 0])
  have free : ∀ wait ∈ front, wait.isProtect = false := by
    refine List.forall_mem_cons.mpr ⟨rfl, fun wait isMember => ?_⟩
    obtain own | isCall := List.mem_append.mp isMember
    · exact (all wait own).isProtect
    · rw [List.mem_singleton.mp isCall]
      rfl
  have above : (raising m site checked.frame).stack = front ++ [.protect .host true ends {}] := by
    rw [raising, State.withActivation, State.push, stack]
    simp [front]
  have handler : handlerOf (raising m site checked.frame).stack = .host := by
    rw [above, handlerOf_append free]
    rfl
  have shallow : (raising m site checked.frame).nesting + 1 < errorNestingLimit := by
    rw [State.nesting, raising, State.withActivation, State.push, nestingBase, kind, nestingIn,
      activation]
    exact show 0 + 1 + 1 < 220 by decide
  have shown : fail (raising m site checked.frame) (.error (.str text)) checked = _ :=
    fail_host handler shallow (by exact noHandler)
  have leaves : Machine.advance (raising m site checked.frame) (.fail (.handled (.str (reported text)))
      checked) = _ := unwind_main free above _
  obtain ⟨machine, final, stops⟩ := closes.stops rfl parents
  refine ⟨machine, final, .next (stopped?_of_waiting (by simp [stack])) raised ?_⟩
  refine .next (stopped?_of_waiting (by simp [above, front])) shown ?_
  exact .next (stopped?_of_waiting (by simp [above, front])) leaves stops

end Main

end LuaSession.Machine
