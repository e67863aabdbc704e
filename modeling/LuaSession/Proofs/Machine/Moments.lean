import LuaSession.Proofs.Machine.Keeping
import LuaSession.Proofs.Script.Becoming

/-!
# Moments of a run

A machine that runs passes through moments: each is a state with a step to take.
The store of a moment becomes that of every later moment, and the one with which
the machine stops, whatever fails on the way.
-/

namespace LuaSession.Machine

open LuaSession.Script

/-- A machine passes through a moment. -/
inductive Passes : State → Step Exit → State → Step Exit → Prop where
  | now {m : State} {step : Step Exit} : Passes m step m step
  | later {m n : State} {step other : Step Exit} (notYet : stopped? m step = none)
      (passes : Passes (advance m step).1 (advance m step).2 n other) : Passes m step n other

/-- A machine that passes through a moment from which it stops. -/
theorem Passes.stops {m n : State} {step other : Step Exit} {result : Exit × State × Store}
    (passes : Passes m step n other) (stops : Stops n other result) : Stops m step result := by
  induction passes with
  | now => exact stops
  | later notYet _ ih => exact .later notYet (ih stops)

/-- What a machine passes through after one moment, it passes through after those before. -/
theorem Passes.trans {m n o : State} {step other last : Step Exit} (passes : Passes m step n other)
    (more : Passes n other o last) : Passes m step o last := by
  induction passes with
  | now => exact more
  | later notYet _ ih => exact .later notYet (ih more)

variable {shelter : Shelter} {J K : Store → Prop}

/-! ## What keeps one property keeps others -/

section Restrict

variable (lets : LetsPublish J → LetsPublish K)

include lets

theorem Resume.Keeps.restrict {kind : Kind} {resume : Resume} (keeps : Resume.Keeps kind J resume) :
    Resume.Keeps kind K resume :=
  fun L _ more => keeps L (more ∘ lets)

theorem StackKeeps.restrict {role : Role} {stack : List Wait}
    (keeps : StackKeeps shelter J role stack) : StackKeeps shelter K role stack := by
  induction keeps with
  | nil => exact .nil
  | call resumes fits _ ih => exact .call (resumes.restrict lets) fits ih
  | protect resumes _ ih => exact .protect (resumes.restrict lets) ih
  | loop spares resumes _ ih => exact .loop spares (resumes.restrict lets) ih
  | labelled spares resumes _ ih => exact .labelled spares (resumes.restrict lets) ih
  | guarded spares resumes _ ih => exact .guarded spares (resumes.restrict lets) ih
  | unwinding _ ih => exact .unwinding ih

theorem Paused.Keeps.restrict {paused : Paused} (keeps : paused.Keeps shelter J) :
    paused.Keeps shelter K := by
  obtain ⟨role, stack, fits, resumes⟩ := keeps
  exact .intro role (stack.restrict lets) fits (resumes.restrict lets)

theorem ThreadsKeep.restrict {threads : Array Dormant} (keeps : ThreadsKeep shelter J threads) :
    ThreadsKeep shelter K threads := by
  intro dormant isMember
  have keeps := keeps dormant isMember
  cases dormant with
  | suspended paused => exact Paused.Keeps.restrict lets keeps
  | fresh _ | ended _ _ => trivial

theorem State.Keeps.restrict {role : Role} {m : State} (keeps : m.Keeps shelter J role) :
    m.Keeps shelter K role where
  stack := keeps.stack.restrict lets
  parents parent isMember := (keeps.parents parent isMember).restrict lets
  threads := keeps.threads.restrict lets

/-- A moment keeps whatever its store has, if publishing cannot take it away. -/
theorem Next.Runs.restrict [Sheltered shelter J] {next : Next} (runs : next.Runs shelter J)
    (holds : K next.2.store) : next.Runs shelter K := by
  obtain ⟨role, machine, step⟩ := runs
  have fits : role.Fits shelter next.2.store.frame := step.store.2
  refine .intro role (machine.restrict lets) (step.restrict (fun publishes => ?_) ⟨holds, fits⟩)
  exact Role.letsPublish_has (lets (Role.letsPublish_of_has fits publishes))

end Restrict

/-! ## Moments -/

theorem Next.Runs.store {next : Next} (runs : next.Runs shelter J) : J next.2.store := by
  obtain ⟨role, machine, step⟩ := runs
  exact step.store.1

/-- What the host asks for a request keeps what its threads keep. -/
theorem Next.runs_ask {threads : Array Dormant} (keeps : ThreadsKeep shelter J threads)
    {request : Request} (asks : Kind.library.asks request) {s : Store} (holds : J s) :
    Next.Runs shelter J ({ threads }, .ask request s ends) :=
  .intro .library ⟨.nil, by simp, keeps⟩ ⟨⟨holds, trivial⟩, asks, fun K _ _ _ _ held => held⟩

/-- Every moment keeps what functions cannot change. -/
theorem Passes.keeps [shelter.IsClosed] [Sheltered shelter J] {m n : State}
    {step other : Step Exit} (passes : Passes m step n other)
    (runs : Next.Runs shelter J (m, step)) : Next.Runs shelter J (n, other) := by
  induction passes with
  | now => exact runs
  | later _ _ ih => exact ih runs.advance.runs_of_isClosed

variable {m n : State} {step other : Step Exit}

/-- Of a moment's store and that of a later moment, the first becomes the second. -/
theorem Passes.becomes (passes : Passes m step n other)
    (runs : Next.Runs .nothing Anything (m, step)) : step.store.Becomes other.store := by
  have lets : LetsPublish Anything → LetsPublish step.store.Becomes :=
    fun _ => Store.letsPublish_becomes
  exact (passes.keeps (runs.restrict lets .refl)).store

/-- The store of a moment becomes the one with which the machine stops. -/
theorem Stops.becomes {result : Exit × State × Store} (stops : Stops m step result)
    (runs : Next.Runs .nothing Anything (m, step)) : step.store.Becomes result.2.2 := by
  have lets : LetsPublish Anything → LetsPublish step.store.Becomes :=
    fun _ => Store.letsPublish_becomes
  exact (stops.keeps (runs.restrict lets .refl)).2

end LuaSession.Machine
