import LuaSession.Proofs.Machine.Calling
import Mathlib.Logic.Relation

/-!
# The level of a function

A function that is written in a script stands on a level of the stack. Its own loops,
blocks and closing variables wait on that level; the functions that it calls stand
higher, and it goes on when they have come back. As long as it does, it is the function
of the same text.
-/

namespace LuaSession.Script

/-- The function that runs is written in a text that is shown under a name. -/
def InChunk (chunk : Bytes) (s : Store) : Prop := s.frame.chunk = chunk

variable {chunk : Bytes}

/-- Capturing variables leaves the function's text alone. -/
theorem InChunk.capture {s : Store} (inChunk : InChunk chunk s) (captures : Array Capture) :
    InChunk chunk (s.capture captures).2 := by
  unfold Store.capture
  rw [← Array.foldl_toList]
  generalize (#[] : Array Nat) = cells
  induction captures.toList generalizing s cells with
  | nil => exact inChunk
  | cons capture captures ih =>
      rw [List.foldl_cons]
      cases capture with
      | captured index => exact ih inChunk _
      | slot index =>
          dsimp only
          split
          · exact ih inChunk _
          · apply ih
            exact inChunk

instance : Scripted (fun _ => False) (InChunk chunk) where
  effect effect inChunk := (congrArg Frame.chunk effect.frame).trans inChunk
  publish _ _ := fun _ inChunk => inChunk
  setSlot inChunk index value := by
    unfold Store.setSlot
    dsimp only
    split <;> exact inChunk
  declareSlot inChunk index value := by
    unfold Store.declareSlot
    split <;> exact inChunk
  setCaptured inChunk _ _ _ := inChunk
  makeClosure inChunk code _ := inChunk.capture code.info.captures

end LuaSession.Script

namespace LuaSession.Machine

open LuaSession.Script

/-- What functions do that are written in scripts. -/
abbrev scripts : Kind := .script fun _ => False

/-- A wait within a function, as opposed to a caller or a protected call. -/
def Wait.isWithin : Wait → Bool
  | .loop .. | .labelled .. | .guarded .. => true
  | _ => false

/-- A wait within a function of a text. -/
def Wait.Within (chunk : Bytes) : Wait → Prop
  | .loop _ resume => Resume.Keeps scripts (InChunk chunk) resume
  | .labelled _ _ resume => Resume.Keeps scripts (InChunk chunk) resume
  | .guarded _ _ _ _ resume => Resume.Keeps scripts (InChunk chunk) resume
  | _ => False

/-- Where a function stands: the text that it is written in, what waits for it, and what
the machine knows of it and of the thread that it runs in. -/
structure Level where
  chunk : Bytes
  base : List Wait
  activation : Activation
  nestingBase : Nat := 0
  parents : List (Nat × Paused) := []
  shallow : nestingBase + (activation.nesting + 1) < nestingLimit

namespace Level

/-- The function is the one that runs. -/
structure On (level : Level) (m : State) : Prop where
  stack : ∃ within, m.stack = within ++ level.base ∧ ∀ wait ∈ within, wait.Within level.chunk
  activation : m.activation = level.activation
  nestingBase : m.nestingBase = level.nestingBase
  parents : m.parents = level.parents

/-- The function is the one that runs, and does what functions of its text do. -/
structure Holds (level : Level) (next : Next) : Prop where
  on : level.On next.1
  step : next.2.Keeps scripts (InChunk level.chunk)

/-- The function has called another one. -/
structure Calls (level : Level) (next : Next) : Prop where
  stack : ∃ resume frame line within,
    next.1.stack = .call resume level.activation frame line :: (within ++ level.base) ∧
      Resume.Keeps scripts (InChunk level.chunk) resume ∧ frame.chunk = level.chunk ∧
      ∀ wait ∈ within, wait.Within level.chunk

variable {level : Level} {m : State} {s : Store} {resume : Resume}

theorem On.push (on : level.On m) {wait : Wait} (within : wait.Within level.chunk) :
    level.On (m.push wait) := by
  obtain ⟨waits, stack, all⟩ := on.stack
  refine ⟨⟨wait :: waits, ?_, List.forall_mem_cons.mpr ⟨within, all⟩⟩, on.activation,
    on.nestingBase, on.parents⟩
  rw [State.push, stack]
  rfl

theorem On.calls (on : level.On m) (resumes : Resume.Keeps scripts (InChunk level.chunk) resume)
    {frame : Frame} (inChunk : frame.chunk = level.chunk) (line : Nat) (activation : Activation)
    (step : Step Exit) :
    level.Calls ((m.push (.call resume m.activation frame line)).withActivation activation, step) := by
  obtain ⟨waits, stack, all⟩ := on.stack
  refine ⟨resume, frame, line, waits, ?_, resumes, inChunk, all⟩
  rw [State.withActivation, State.push, stack, on.activation]

theorem On.fails (on : level.On m) (inChunk : InChunk level.chunk s) (raised : Raised) :
    level.Holds (m, .fail raised s) := ⟨on, inChunk⟩

theorem On.resumes (on : level.On m) (resumes : Resume.Keeps scripts (InChunk level.chunk) resume)
    (inChunk : InChunk level.chunk s) (exit : Exit) : level.Holds (m, resume exit s) :=
  ⟨on, resumes _ id exit s inChunk⟩

theorem On.runs (on : level.On m) {run : Run Exit} (keeps : run.Keeps scripts (InChunk level.chunk))
    (inChunk : InChunk level.chunk s) : level.Holds (m, run s) :=
  ⟨on, keeps.at inChunk⟩

/-! ## One transition -/

theorem goes_fault (on : level.On m) (inChunk : InChunk level.chunk s) (line : Nat)
    (message : Bytes) : level.Holds (faultAt m line message s) :=
  on.runs (Run.keeps_faultBytes _ _) inChunk

theorem goes_overflow (on : level.On m) (inChunk : InChunk level.chunk s) (line : Nat) :
    level.Holds (overflow m line s) := by
  unfold overflow
  split
  · exact on.fails inChunk _
  · have still : level.On { m with overflowing := true } :=
      ⟨on.stack, on.activation, on.nestingBase, on.parents⟩
    exact goes_fault still inChunk _ _

theorem inChunk_checkMemory (inChunk : InChunk level.chunk s) (m : State) :
    InChunk level.chunk (checkMemory m s).2 := by
  unfold checkMemory
  dsimp only
  split
  · exact inChunk
  · split
    · exact inChunk
    · exact inChunk

/-- What comes of a transition of the function: it is at it still, or has called. -/
abbrev Goes (level : Level) (next : Next) : Prop := level.Holds next ∨ level.Calls next

theorem goes_enter (on : level.On m) (inChunk : InChunk level.chunk s)
    (resumes : Resume.Keeps scripts (InChunk level.chunk) resume) (function : Value)
    (arguments : Array Value) (site : Site) :
    level.Goes (enter m function arguments site resume s) := by
  unfold enter
  dsimp only
  split
  next ref =>
    split
    · exact .inl (goes_overflow on inChunk _)
    · exact .inr (on.calls resumes inChunk _ _ _)
  · split
    · exact .inl (goes_overflow on inChunk _)
    · have step : ((libraryRun m function arguments site) s).Keeps .library (InChunk level.chunk) :=
        (keeps_libraryRun m function arguments site).at inChunk
      unfold runLibrary
      generalize libraryRun m function arguments site s = ran at step
      cases ran with
      | done values after => exact .inl (on.resumes resumes step _)
      | fail raised after => exact .inr (on.calls (keeps_ends _) step _ _ _)
      | ask request after goOn => exact .inr (on.calls resumes step.1 _ _ _)

theorem goes_call (on : level.On m) (inChunk : InChunk level.chunk s)
    (resumes : Resume.Keeps scripts (InChunk level.chunk) resume) (function : Value)
    (arguments : Array Value) (site : Site) :
    level.Goes (call m function arguments site resume s) := by
  have checked := inChunk_checkMemory inChunk m
  have shallow : m.nestingBase + nestingIn m site.kind < nestingLimit := by
    have deepest : nestingIn m site.kind ≤ m.activation.nesting + 1 := by
      unfold nestingIn
      split
      · exact Nat.le_succ _
      · exact Nat.le_refl _
    have bound := level.shallow
    rw [← on.nestingBase, ← on.activation] at bound
    omega
  have notTooDeep : (site.kind != .script &&
      decide (m.nestingBase + nestingIn m site.kind ≥ nestingLimit) &&
      (m.nestingBase + nestingIn m site.kind == nestingLimit ||
        decide (m.nestingBase + nestingIn m site.kind ≥ errorNestingLimit))) = false := by
    rw [decide_eq_false (Nat.not_le.mpr shallow), Bool.and_false, Bool.false_and]
  rw [call]
  simp only [notTooDeep, Bool.false_eq_true, reduceIte]
  generalize checkMemory m s = check at checked
  obtain ⟨_ | _, after⟩ := check
  · exact .inl (on.fails checked _)
  · dsimp only
    split
    · exact goes_enter on checked resumes _ _ _
    · split
      · exact goes_enter on checked resumes _ _ _
      · exact .inl (goes_fault on checked _ _)

/-- Functions that hold nothing may touch everything. -/
theorem spares_scripts (touched : List Nat) : Script.Spares (fun _ => False) touched :=
  spares_of_holds_nothing fun _ => id

theorem goes_block (on : level.On m) (inChunk : InChunk level.chunk s) (condition : Option Expr)
    (body : List Stmt) : level.Holds (m, execBlock condition body s) :=
  on.runs (Run.keeps_execBlock _ _ (spares_scripts _) (spares_scripts _)) inChunk

theorem goes_iterate (on : level.On m) (inChunk : InChunk level.chunk s)
    (resumes : Resume.Keeps scripts (InChunk level.chunk) resume) (loop : Loop) :
    level.Holds (iterate m loop resume s) := by
  have checked := inChunk_checkMemory inChunk m
  unfold iterate
  split
  · exact on.resumes resumes inChunk _
  next run rest found =>
    generalize checkMemory m s = check at checked
    obtain ⟨_ | _, after⟩ := check
    · exact on.fails checked _
    · have pushed : level.On (m.push (.loop rest resume)) := on.push (by exact resumes)
      exact pushed.runs (loop.keeps_iteration? found (spares_scripts _)) checked

theorem goes_guarded (on : level.On m) (inChunk : InChunk level.chunk s)
    (resumes : Resume.Keeps scripts (InChunk level.chunk) resume) (value : Value) (name : Bytes)
    (line : Nat) (body : Guarded) : level.Holds (guarded m value name line body resume s) := by
  unfold guarded
  split
  · exact goes_fault on inChunk _ _
  · split
    · exact goes_block (on.push (by exact resumes)) inChunk _ _
    · exact goes_iterate (on.push (by exact resumes)) inChunk (keeps_ends _) _

theorem goes_closeGuarded (on : level.On m) (inChunk : InChunk level.chunk s)
    (resumes : Resume.Keeps scripts (InChunk level.chunk) resume) (value : Value) (line : Nat)
    (exit : Exit) : level.Goes (closeGuarded m value line exit resume s) :=
  goes_call on inChunk (fun K _ lets _ _ held => resumes K lets _ _ held) _ _ _

/-- The function goes on with what has been waiting for an exit on its level. -/
theorem goes_leave {wait : Wait} {rest : List Wait} (left : level.On { m with stack := rest })
    (found : m.stack = wait :: rest) (within : wait.Within level.chunk)
    (inChunk : InChunk level.chunk s) (exit : Exit) : level.Goes (leave m wait rest exit s) := by
  have on : level.On m := by
    have pushed := left.push within
    rw [State.push] at pushed
    dsimp only at pushed
    rwa [← found] at pushed
  cases wait with
  | call _ _ _ _ | protect _ _ _ _ | unwinding _ _ _ => exact within.elim
  | loop more resume =>
      have resumes : Resume.Keeps scripts (InChunk level.chunk) resume := within
      have goesOn (exit : Exit) : level.Holds ({ m with stack := rest }, resume exit s) :=
        left.resumes resumes inChunk exit
      left
      cases exit with
      | fell | again =>
          cases more with
          | some loop => exact goes_iterate left inChunk resumes loop
          | none => exact goesOn .fell
      | _ => exact goesOn _
  | labelled body condition resume =>
      have goesOn (exit : Exit) : level.Holds ({ m with stack := rest }, resume exit s) :=
        left.resumes within inChunk exit
      left
      cases exit with
      | jumped label =>
          unfold leave
          dsimp only
          split
          · exact goes_block on inChunk _ _
          · exact goesOn _
      | _ => exact goesOn _
  | guarded value line body condition resume =>
      have closes (exit : Exit) :
          level.Goes (closeGuarded { m with stack := rest } value line exit resume s) :=
        goes_closeGuarded left inChunk within value line exit
      unfold leave
      dsimp only
      split
      · left
        have again : level.On { m with stack := .guarded value line [] none resume :: rest } :=
          left.push (by exact within)
        exact again.runs (Run.keeps_evalEnd _ (spares_scripts _)) inChunk
      · split
        · exact .inl (goes_block on inChunk _ _)
        · exact closes _
      · exact closes _

/-- The function goes on: it has not failed, and it does not come to its end. -/
def Onward (level : Level) (m : State) (step : Step Exit) : Prop :=
  (∀ raised s, step ≠ .fail raised s) ∧ (m.stack = level.base → ∀ exit s, step ≠ .done exit s)

/-- A transition of the function while it goes on. -/
theorem Holds.advance {step : Step Exit} (holds : level.Holds (m, step))
    (onward : level.Onward m step) : level.Goes (advance m step) := by
  obtain ⟨on, keeps⟩ := holds
  cases step with
  | fail raised s => exact absurd rfl (onward.1 raised s)
  | done exit s =>
      obtain ⟨waits, stack, all⟩ := on.stack
      cases waits with
      | nil => exact absurd rfl (onward.2 stack exit s)
      | cons wait waits =>
          obtain ⟨within, all⟩ := List.forall_mem_cons.mp all
          have left : level.On { m with stack := waits ++ level.base } :=
            ⟨⟨waits, rfl, all⟩, on.activation, on.nestingBase, on.parents⟩
          have found : m.stack = wait :: (waits ++ level.base) := stack
          simp only [Machine.advance, found]
          exact goes_leave left found within keeps exit
  | ask request s resume =>
      obtain ⟨inChunk, asks, later⟩ := keeps
      have resumes : Resume.Keeps scripts (InChunk level.chunk) resume := later
      cases request with
      | call function arguments site => exact goes_call on inChunk resumes _ _ _
      | loop loop => exact .inl (goes_iterate on inChunk resumes _)
      | labelled body condition =>
          exact .inl (goes_block (on.push (by exact resumes)) inChunk _ _)
      | guarded value name line body => exact .inl (goes_guarded on inChunk resumes _ _ _ _)
      | _ => exact asks.elim

/-! ## A run -/

/-- The waits above the function's base are its own. -/
def Stands (level : Level) (m : State) : Prop :=
  ∃ within, m.stack = within ++ level.base ∧ ∀ wait ∈ within, wait.isWithin = true

/-- The function goes on to its next moment: that of the next transition, or, if it calls
another function, the one in which that has come back. Functions that it calls may take as
many transitions as they like. -/
inductive Moves (level : Level) : Next → Next → Prop where
  | within {m : State} {step : Step Exit} (onward : level.Onward m step)
      (stands : level.Stands (Machine.advance m step).1) :
      Moves level (m, step) (Machine.advance m step)
  | called {m back : State} {step : Step Exit} {resume : Resume} {caller : Activation}
      {frame : Frame} {line : Nat} {within : List Wait} {exit : Exit} {t : Store}
      (onward : level.Onward m step)
      (calls : (Machine.advance m step).1.stack =
        .call resume caller frame line :: (within ++ level.base))
      (passes : Passes (Machine.advance m step).1 (Machine.advance m step).2 back (.done exit t))
      (returns : back.stack = .call resume caller frame line :: (within ++ level.base))
      (nestingBase : back.nestingBase = level.nestingBase) (parents : back.parents = level.parents)
      (notTail : ∀ function arguments site, exit ≠ .tail function arguments site) :
      Moves level (m, step) (Machine.advance back (.done exit t))

/-- The function goes on from one moment to another one. -/
abbrev GoesOn (level : Level) : Next → Next → Prop := Relation.ReflTransGen level.Moves

/-- A function that fails does not go on. -/
theorem GoesOn.eq_of_fail {raised : Raised} {next : Next}
    (goesOn : level.GoesOn (m, .fail raised s) next) : next = (m, .fail raised s) := by
  obtain rfl | ⟨_, moves, _⟩ := goesOn.cases_head
  · rfl
  · cases moves with
    | within onward _ | called onward _ _ _ _ _ _ => exact absurd rfl (onward.1 raised s)

/-- As long as the function goes on, it does what functions of its text do. -/
theorem Holds.moves {next later : Next} (holds : level.Holds next)
    (moves : level.Moves next later) : level.Holds later := by
  cases moves with
  | within onward stands =>
      refine (holds.advance onward).resolve_right fun calls => ?_
      obtain ⟨own, stack, all⟩ := stands
      obtain ⟨resume, frame, line, waits, isCall, _⟩ := calls.stack
      have same : own = .call resume level.activation frame line :: waits :=
        List.append_cancel_right (stack.symm.trans isCall)
      have isWithin := all (.call resume level.activation frame line) (same ▸ List.mem_cons_self)
      cases isWithin
  | @called _ back _ _ _ _ _ within _ _ onward calls _ returns nestingBase parents notTail =>
      have gone := (holds.advance onward).resolve_left fun holds => by
        obtain ⟨own, stack, all⟩ := holds.on.stack
        have same := List.append_cancel_right ((stack.symm.trans calls).trans
          (List.cons_append).symm)
        exact all _ (same ▸ List.mem_cons_self)
      obtain ⟨_, _, _, waits, stack, resumes, inChunk, all⟩ := gone.stack
      injection calls.symm.trans stack with call rest
      cases call
      obtain rfl : within = waits := List.append_cancel_right rest
      simp only [Machine.advance, returns]
      rw [leave_call notTail]
      have on : level.On
          { back with stack := within ++ level.base, activation := level.activation } :=
        ⟨⟨within, rfl, all⟩, rfl, nestingBase, parents⟩
      exact on.resumes resumes (by exact inChunk) _

/-- A machine whose function goes on does not stop. -/
theorem Holds.stopped? {step : Step Exit} (holds : level.Holds (m, step))
    (onward : level.Onward m step) : stopped? m step = none := by
  cases step with
  | done exit s =>
      refine stopped?_of_waiting fun isEmpty => onward.2 ?_ exit s rfl
      obtain ⟨within, stack, _⟩ := holds.on.stack
      have nothing : within ++ level.base = [] := stack.symm.trans isEmpty
      rw [isEmpty, (List.append_eq_nil_iff.mp nothing).2]
  | _ => simp [Machine.stopped?]

/-- The machine passes through the moments of the function. -/
theorem Holds.passes {next later : Next} (holds : level.Holds next)
    (moves : level.Moves next later) : Passes next.1 next.2 later.1 later.2 := by
  cases moves with
  | within onward _ => exact .later (holds.stopped? onward) .now
  | called onward _ passes returns _ _ _ =>
      refine .later (holds.stopped? onward) (passes.trans (.later ?_ .now))
      exact stopped?_of_waiting (by simp [returns])

/-- Nothing that the function does makes it one of another text, and the machine passes
through all its moments. -/
theorem Holds.goesOn {next later : Next} (holds : level.Holds next)
    (goesOn : level.GoesOn next later) :
    level.Holds later ∧ Passes next.1 next.2 later.1 later.2 := by
  induction goesOn with
  | refl => exact ⟨holds, .now⟩
  | tail _ moves ih => exact ⟨ih.1.moves moves, ih.2.trans (ih.1.passes moves)⟩

end Level

end LuaSession.Machine
