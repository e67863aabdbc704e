import LuaSession.Proofs.Library.Files
import LuaSession.Proofs.Machine.Courses

/-!
# Calls of functions that ask for nothing

Calling a function of the libraries that asks for nothing takes one transition. Its caller
goes on with what it returns, or the call fails: there is no memory, the stack is full, or
the function itself fails.
-/

namespace LuaSession.Machine

open LuaSession.Script

variable {shelter : Shelter} {J : Store → Prop} {role : Role} {m : State} {s : Store}
  {resume : Resume} {P : Array Value → Store → Prop} {Q : Store → Prop}

/-- A function of the libraries has been called: its caller goes on with what it returns,
or the call has failed. -/
inductive Settled (shelter : Shelter) (J : Store → Prop) (role : Role) (m : State)
    (resume : Resume) (frame : Frame) (P : Array Value → Store → Prop) (Q : Store → Prop) :
    Next → Prop where
  | returned {values : Array Value} {t : Store} (has : role.Has shelter J t)
      (sameFrame : t.frame = frame) (gives : P values t) :
      Settled shelter J role m resume frame P Q (m, resume (.returned values) t)
  | failed {n : State} {raised : Raised} {t : Store}
      (isOver : IsOver m (n, .fail raised t) none)
      (runs : Next.Runs shelter J (n, .fail raised t)) (fails : Q t) :
      Settled shelter J role m resume frame P Q (n, .fail raised t)

/-- The call takes the place of the running one: it is over, however it ends. -/
theorem Settled.completes {frame : Frame} {next : Next}
    (settled : Settled shelter J role m ends frame P Q next) :
    ∃ result last, Completes m next result last ∧
      ((∃ values, result = some values ∧ P values last.2.store) ∨ result = none ∧ Q last.2.store) := by
  cases settled with
  | @returned values t _ _ gives =>
    exact ⟨some values, _, .now (.returned rfl rfl (by simp)), .inl ⟨values, rfl, gives⟩⟩
  | failed isOver _ fails => exact ⟨none, _, .now isOver, .inr ⟨rfl, fails⟩⟩

/-- What is counted is all that changes when there is a look whether there is memory. -/
theorem exists_checkMemory (m : State) (s : Store) :
    ∃ charge, (checkMemory m s).2 = { s with charge } := by
  unfold checkMemory
  split
  · exact ⟨s.charge, rfl⟩
  · dsimp only
    split
    · exact ⟨s.charge, rfl⟩
    · exact ⟨_, rfl⟩

/-- The functions of the libraries leave the frame alone. -/
instance lasting_frame (frame : Frame) : Lasting fun s => s.frame = frame where
  effect effect same := effect.frame.trans same
  publish _ _ := fun _ same => same

theorem runs_fail (keeps : m.Keeps shelter J role) (has : role.Has shelter J s) (raised : Raised) :
    Next.Runs shelter J (m, .fail raised s) :=
  .intro role keeps has

theorem settled_overflow (keeps : m.Keeps shelter J role) (has : role.Has shelter J s) (fails : Q s)
    (line : Nat) (frame : Frame) :
    Settled shelter J role m resume frame P Q (overflow m line s) := by
  unfold overflow
  split
  · exact .failed (.raised rfl rfl) (runs_fail keeps has _) fails
  · have full := keeps.withStack keeps.stack m.activation true
    unfold faultAt Run.faultBytes
    split
    · exact .failed (.raised rfl rfl) (runs_fail full has _) fails
    · exact .failed (.raised rfl rfl) (runs_fail full has _) fails

section Settled

variable [Sheltered shelter J]

theorem settled_runLibrary (keeps : m.Keeps shelter J role) (has : role.Has shelter J s)
    {run : Run (Array Value)} (runs : run.Keeps .library J) (settles : run.Settles s P Q)
    (line : Nat) (activation : Activation) :
    Settled shelter J role m resume s.frame P Q (runLibrary m run line activation resume s) := by
  have step := runs.step (role.Has shelter J) Role.letsPublish_has s has
  have framed := runs.step (fun t => t.frame = s.frame) (fun _ _ _ same => same) s rfl
  unfold Run.Settles at settles
  unfold runLibrary
  generalize run s = ran at step framed settles
  cases ran with
  | done values after => exact .returned step framed settles
  | fail raised after =>
      refine .failed (.raised rfl rfl) (.intro .library ?_ ⟨step.1, trivial⟩) settles
      exact (keeps.push (.call (keeps_ends _) step.2)).withActivation activation
  | ask request after goOn => exact settles.elim

variable {builtin : Builtin} {arguments : Array Value} {site : Site}

theorem settled_enter (keeps : m.Keeps shelter J role) (has : role.Has shelter J s) (fails : Q s)
    (settles : ∀ caller, (Library.runBuiltin builtin caller arguments).Settles s P Q) :
    Settled shelter J role m resume s.frame P Q (enter m (.builtin builtin) arguments site resume s) := by
  have library : (libraryRun m (.builtin builtin) arguments site).Settles s P Q := settles _
  rw [enter.eq_def]
  dsimp only
  split
  · exact settled_overflow keeps has fails _ _
  · exact settled_runLibrary keeps has (keeps_libraryRun _ _ _ _) library _ _

section Checked

variable (keeps : m.Keeps shelter J role) (has : role.Has shelter J s)
  (fails : Q (checkMemory m s).2)
  (settles : ∀ caller, (Library.runBuiltin builtin caller arguments).Settles (checkMemory m s).2 P Q)

include keeps has fails settles

/-- A script calls a function of the libraries that asks for nothing. -/
theorem settled_call (written : site.kind = .script) :
    Settled shelter J role m resume s.frame P Q (call m (.builtin builtin) arguments site resume s) := by
  have checked := has_checkMemory has m
  have sameFrame : (checkMemory m s).2.frame = s.frame := by
    obtain ⟨charge, same⟩ := exists_checkMemory m s
    rw [same]
  unfold call
  rw [written]
  dsimp only
  rw [if_neg (by simp)]
  generalize checkMemory m s = check at checked sameFrame fails settles
  obtain ⟨_ | _, after⟩ := check
  · exact .failed (.raised rfl rfl) (runs_fail keeps checked _) fails
  · rw [← sameFrame]
    exact settled_enter keeps checked fails settles

/-- A script has a function of the libraries take the place of the running one. -/
theorem settled_tailCall :
    Settled shelter J role m ends s.frame P Q (tailCall m (.builtin builtin) arguments site s) := by
  have checked := has_checkMemory has m
  have sameFrame : (checkMemory m s).2.frame = s.frame := by
    obtain ⟨charge, same⟩ := exists_checkMemory m s
    rw [same]
  unfold tailCall
  generalize checkMemory m s = check at checked sameFrame fails settles
  obtain ⟨_ | _, after⟩ := check
  · exact .failed (.raised rfl rfl) (runs_fail keeps checked _) fails
  · rw [← sameFrame]
    exact settled_enter keeps checked fails settles

end Checked

end Settled

end LuaSession.Machine
