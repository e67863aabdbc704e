import LuaSession.Proofs.Machine.Courses
import LuaSession.Proofs.Veil.Functions

/-!
# Machines that stand on a ground

A call that has begun goes on on top of what was waiting then, its ground. What has been
put on top since respects a veil: it refers to visible values only, and goes on with visible
values only. The ground itself may know of what is hidden.
-/

namespace LuaSession.Machine

open LuaSession.Script

variable {veil : Veil} {m n : View}

/-! ## What waits and respects a veil -/

/-- An evaluation that waits for an answer goes on with visible values if it gets some. -/
def Resume.Respects (n : View) (resume : Resume) : Prop :=
  ∀ veil exit (s : Store), s.Veiled veil → Grown n (s.view veil) → Visible (s.view veil) exit →
    (resume exit s).Ensures Visible (s.view veil)

theorem Resume.Respects.grow {resume : Resume} (respects : resume.Respects m)
    (grown : Grown m n) : resume.Respects n :=
  fun veil exit s veiled more visible => respects veil exit s veiled (grown.trans more) visible

theorem respects_ends (n : View) : Resume.Respects n ends :=
  fun _ _ _ veiled _ visible => ⟨veiled, .refl _, visible⟩

theorem visible_valuesOf {exit : Exit} (visible : Visible n exit) :
    Visible n (valuesOf exit) := by
  cases exit with
  | returned values => exact visible
  | _ => exact visible_empty

theorem respects_handled (n : View) : Resume.Respects n handled :=
  fun _ _ _ veiled _ visible => ⟨veiled, .refl _, visible_firstOf (visible_valuesOf visible)⟩

instance : Holds Wait where
  visible n
    | .call resume _ frame _ => resume.Respects n ∧ Visible n frame
    | .protect handler _ resume _ => Visible n handler ∧ resume.Respects n
    | .loop _ resume => resume.Respects n
    | .labelled _ _ resume => resume.Respects n
    | .guarded value _ _ _ resume => Visible n value ∧ resume.Respects n
    | .unwinding pending error _ => Visible n pending ∧ Visible n error
  grow {m n wait} visible grown := by
    cases wait with
    | call _ _ _ _ => exact ⟨visible.1.grow grown, visible.2.grow grown⟩
    | protect _ _ _ _ => exact ⟨visible.1.grow grown, visible.2.grow grown⟩
    | guarded _ _ _ _ _ => exact ⟨visible.1.grow grown, visible.2.grow grown⟩
    | unwinding _ _ _ => exact ⟨visible.1.grow grown, visible.2.grow grown⟩
    | loop _ _ | labelled _ _ _ => exact Resume.Respects.grow visible grown

instance : Holds Paused where
  visible n paused := Visible n paused.stack ∧ Visible n paused.frame ∧
    paused.resume.Respects n
  grow visible grown := ⟨visible.1.grow grown, visible.2.1.grow grown, visible.2.2.grow grown⟩

instance : Holds Dormant where
  visible n
    | .fresh function => Visible n function
    | .suspended paused => Visible n paused
    | .ended error pending => Visible n error ∧ Visible n pending
  grow {m n dormant} visible grown := by
    cases dormant with
    | fresh _ | suspended _ => exact Visible.grow visible grown
    | ended _ _ => exact ⟨visible.1.grow grown, visible.2.grow grown⟩

@[simp] theorem visible_fresh {function : Value} :
    Visible n (Dormant.fresh function) ↔ Visible n function := Iff.rfl

@[simp] theorem visible_suspended {paused : Paused} :
    Visible n (Dormant.suspended paused) ↔ Visible n paused := Iff.rfl

@[simp] theorem visible_ended {error : Option Value} {pending : List Value} :
    Visible n (Dormant.ended error pending) ↔ Visible n error ∧ Visible n pending :=
  Iff.rfl

theorem visible_noDormant : Visible n (default : Dormant) := ⟨visible_none, visible_list_nil⟩

/-- All values that a stack has still to close are visible. -/
theorem visible_allPending {stack : List Wait} (visible : Visible n stack)
    {done : Array Value} (areDone : Visible n done) :
    Visible n (allPending done stack) := by
  induction stack generalizing done with
  | nil => exact visible_toList.mpr areDone
  | cons wait stack ih =>
      obtain ⟨isVisible, rest⟩ := visible_cons.mp visible
      cases wait with
      | guarded value _ _ _ _ => exact ih rest (visible_push.mpr ⟨areDone, isVisible.1⟩)
      | unwinding pending _ _ =>
          exact ih rest (visible_append.mpr ⟨areDone, visible_toArray.mpr isVisible.1⟩)
      | call _ _ _ _ | protect _ _ _ _ | loop _ _ | labelled _ _ _ => exact ih rest areDone

/-! ## Standing on a ground -/

/-- The function that waits there cannot leave its thread. -/
def Wait.IsBarred : Wait → Prop
  | .call _ caller _ _ | .protect _ _ _ caller => 0 < caller.barriers
  | _ => True

/-- What the running thread and those that wait for it have put on top of a ground respects a
veil. Functions that run on the ground itself cannot leave its thread if others wait for it:
then they `must` be barred. -/
inductive Stands (ground : State) (n : View) :
    (must : Prop) → List Wait → List (Nat × Paused) → Prop where
  | here {inner : List Wait} (visible : Visible n inner)
      (barred : ground.parents ≠ [] → ∀ wait ∈ inner, wait.IsBarred) :
      Stands ground n (ground.parents ≠ []) (inner ++ ground.stack) ground.parents
  | above {must : Prop} {stack : List Wait} {thread : Nat} {paused : Paused}
      {parents : List (Nat × Paused)} (visible : Visible n stack)
      (frame : Visible n paused.frame) (resumes : paused.resume.Respects n)
      (barred : must → 0 < paused.activation.barriers)
      (below : Stands ground n must paused.stack parents) :
      Stands ground n False stack ((thread, paused) :: parents)

/-- A ground is where a function has been called, or there is nothing. -/
inductive State.IsGround (m : State) : Prop where
  | called (isCalled : m.IsCalled)
  | bottom (stack : m.stack = []) (parents : m.parents = [])

/-- A machine stands on a ground. -/
structure State.Stands (machine : State) (ground : State) (must : Prop) (n : View) :
    Prop where
  stack : Machine.Stands ground n must machine.stack machine.parents
  barred : must → 0 < machine.activation.barriers
  threads : Visible n machine.threads

/-- A machine stands on a ground and takes a step with visible values. -/
inductive Next.Stands (next : Next) (veil : Veil) (ground : State) : Prop where
  | intro {must : Prop} {size : Nat} (machine : next.1.Stands ground must ⟨veil, size⟩)
      (step : next.2.Ensures Visible ⟨veil, size⟩)

namespace Stands

variable {ground : State} {must : Prop} {stack rest : List Wait} {parents : List (Nat × Paused)}
  {wait : Wait}

theorem grow (stands : Stands ground m must stack parents) (grown : Grown m n) :
    Stands ground n must stack parents := by
  induction stands with
  | here visible barred => exact .here (visible.grow grown) barred
  | above visible frame resumes barred _ ih =>
      exact .above (visible.grow grown) (frame.grow grown) (resumes.grow grown) barred ih

/-- Something more waits. -/
theorem push (stands : Stands ground n must stack parents) (visible : Visible n wait)
    (isBarred : must → wait.IsBarred) : Stands ground n must (wait :: stack) parents := by
  cases stands with
  | here areVisible barred =>
      rw [← List.cons_append]
      refine .here (visible_cons.mpr ⟨visible, areVisible⟩) fun others => ?_
      exact List.forall_mem_cons.mpr ⟨isBarred others, barred others⟩
  | above areVisible frame resumes barred below =>
      exact .above (visible_cons.mpr ⟨visible, areVisible⟩) frame resumes barred below

/-- What waits first is the ground, or else it is visible and stands on a ground. -/
theorem pop (stands : Stands ground n must (wait :: rest) parents) :
    (wait :: rest = ground.stack ∧ parents = ground.parents) ∨
      Visible n wait ∧ (must → wait.IsBarred) ∧ Stands ground n must rest parents := by
  generalize waits : wait :: rest = stack at stands
  cases stands with
  | @here inner visible barred =>
      cases inner with
      | nil => exact .inl ⟨rfl, rfl⟩
      | cons first inner =>
          obtain ⟨rfl, rfl⟩ := List.cons.inj waits
          obtain ⟨isVisible, others⟩ := visible_cons.mp visible
          exact .inr ⟨isVisible, fun must => barred must _ List.mem_cons_self,
            .here others fun must other isMember =>
              barred must other (List.mem_cons_of_mem _ isMember)⟩
  | above visible frame resumes barred below =>
      subst waits
      obtain ⟨isVisible, others⟩ := visible_cons.mp visible
      exact .inr ⟨isVisible, False.elim, .above others frame resumes barred below⟩

/-- Only the ground itself has nothing on it, and then nothing waits at all. -/
theorem free (isGround : ground.IsGround) (stands : Stands ground n must [] parents) :
    ¬must := by
  generalize nothing : [] = stack at stands
  cases stands with
  | @here inner _ _ =>
      obtain ⟨_, isEmpty⟩ := List.append_eq_nil_iff.mp nothing.symm
      cases isGround with
      | called isCalled =>
          obtain ⟨_, _, _, _, _, waits⟩ := isCalled
          rw [isEmpty] at waits
          cases waits
      | bottom _ parents => exact fun others => others parents
  | above _ _ _ _ _ => exact id

/-- Where a protected call waits first, it is not the ground's. -/
theorem pop_protect (isGround : ground.IsGround) {handler : Handler} {isSealed : Bool}
    {resume : Resume} {caller : Activation}
    (stands : Stands ground n must (.protect handler isSealed resume caller :: rest) parents) :
    Visible n handler ∧ resume.Respects n ∧ (must → 0 < caller.barriers) ∧
      Stands ground n must rest parents := by
  obtain ⟨isStack, _⟩ | ⟨visible, barred, others⟩ := stands.pop
  · cases isGround with
    | called isCalled =>
        obtain ⟨_, _, _, _, _, waits⟩ := isCalled
        cases isStack.trans waits
    | bottom stack _ => cases isStack.trans stack
  · exact ⟨visible.1, visible.2, barred, others⟩

/-! ### Unwinding -/

/-- What is left does not depend on the values that have to be closed before. -/
theorem leaveWaits_snd (stack : List Wait) (done : Array Value) :
    (leaveWaits done stack).2 = (leaveWaits #[] stack).2 := by
  induction stack generalizing done with
  | nil => rfl
  | cons wait stack ih =>
      cases wait with
      | protect _ _ _ _ => rfl
      | guarded _ _ _ _ _ | unwinding _ _ _ => exact (ih _).trans (ih _).symm
      | call _ _ _ _ | loop _ _ | labelled _ _ _ => exact ih _

/-- What is left begins with a protected call, or it is nothing. -/
theorem leaveWaits_left (stack : List Wait) (done : Array Value) :
    (leaveWaits done stack).2 = [] ∨ ∃ handler isSealed resume caller rest,
      (leaveWaits done stack).2 = .protect handler isSealed resume caller :: rest := by
  induction stack generalizing done with
  | nil => exact .inl rfl
  | cons wait stack ih =>
      cases wait with
      | protect _ _ _ _ => exact .inr ⟨_, _, _, _, _, rfl⟩
      | guarded _ _ _ _ _ | unwinding _ _ _ | call _ _ _ _ | loop _ _ | labelled _ _ _ => exact ih _

/-- The handler of the innermost protected call is that of what is left. -/
theorem handlerOf_leaveWaits (stack : List Wait) (done : Array Value) :
    handlerOf (leaveWaits done stack).2 = handlerOf stack := by
  induction stack generalizing done with
  | nil => rfl
  | cons wait stack ih =>
      cases wait with
      | protect _ _ _ _ => rfl
      | guarded _ _ _ _ _ | unwinding _ _ _ | call _ _ _ _ | loop _ _ | labelled _ _ _ => exact ih _

/-- Unwinding goes down to the ground and further, or else what is left stands on it, and the
values to be closed are visible. -/
theorem unwound (isGround : ground.IsGround) (stands : Stands ground n must stack parents)
    {done : Array Value} (areDone : Visible n done) :
    (ground.IsCalled ∧ (leaveWaits done stack).2 = (leaveWaits #[] ground.stack).2 ∧
        parents = ground.parents) ∨
      Visible n (leaveWaits done stack).1 ∧
        Stands ground n must (leaveWaits done stack).2 parents := by
  induction stack generalizing done with
  | nil => exact .inr ⟨visible_toList.mpr areDone, stands⟩
  | cons wait stack ih =>
      obtain ⟨isStack, same⟩ | ⟨isVisible, _, others⟩ := stands.pop
      · refine .inl ⟨?_, ?_, same⟩
        · cases isGround with
          | called isCalled => exact isCalled
          | bottom stack _ => cases isStack.trans stack
        · rw [isStack]
          exact leaveWaits_snd _ _
      · cases wait with
        | protect _ _ _ _ => exact .inr ⟨visible_toList.mpr areDone, stands⟩
        | guarded value _ _ _ _ => exact ih others (visible_push.mpr ⟨areDone, isVisible.1⟩)
        | unwinding pending _ _ =>
            exact ih others (visible_append.mpr ⟨areDone, visible_toArray.mpr isVisible.1⟩)
        | call _ _ _ _ | loop _ _ | labelled _ _ _ => exact ih others areDone

end Stands

namespace State.Stands

variable {ground machine : State} {must : Prop}

theorem grow (stands : machine.Stands ground must m) (grown : Grown m n) :
    machine.Stands ground must n :=
  ⟨stands.stack.grow grown, stands.barred, stands.threads.grow grown⟩

theorem push (stands : machine.Stands ground must n) {wait : Wait}
    (visible : Visible n wait) (isBarred : must → wait.IsBarred) :
    (machine.push wait).Stands ground must n :=
  ⟨stands.stack.push visible isBarred, stands.barred, stands.threads⟩

/-- A caller waits. -/
theorem pushCall (stands : machine.Stands ground must n) {resume : Resume} {frame : Frame}
    (resumes : resume.Respects n) (visible : Visible n frame) (line : Nat) :
    (machine.push (.call resume machine.activation frame line)).Stands ground must n :=
  stands.push ⟨resumes, visible⟩ stands.barred

theorem withActivation (stands : machine.Stands ground must n) {activation : Activation}
    (barred : must → 0 < activation.barriers) :
    (machine.withActivation activation).Stands ground must n :=
  ⟨stands.stack, barred, stands.threads⟩

/-- A machine with another stack that stands on the same ground. -/
theorem withStack (stands : machine.Stands ground must n) {stack : List Wait}
    (waits : Machine.Stands ground n must stack machine.parents) {activation : Activation}
    (barred : must → 0 < activation.barriers) (overflowing : Bool) :
    State.Stands { machine with stack, activation, overflowing } ground must n :=
  ⟨waits, barred, stands.threads⟩

theorem setThread (stands : machine.Stands ground must n) (thread : Nat) {dormant : Dormant}
    (visible : Visible n dormant) :
    (machine.setThread thread dormant).Stands ground must n :=
  ⟨stands.stack, stands.barred, visible_setIfInBounds stands.threads visible thread⟩

theorem visible_thread (stands : machine.Stands ground must n) (thread : Nat) :
    Visible n (machine.threads.getD thread default) :=
  visible_getD stands.threads visible_noDormant thread

end State.Stands

end LuaSession.Machine
