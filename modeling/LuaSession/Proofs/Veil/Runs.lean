import LuaSession.Proofs.Machine.Nesting
import LuaSession.Proofs.Veil.Transitions

/-!
# Runs respect a veil

Whatever a run does, its machine stands on the ground on which it has stood at first, until
the call is over that has begun there. So what is hidden stays hidden and unchanged, and what
the call returns is visible.
-/

namespace LuaSession.Machine

open LuaSession.Script

variable {veil : Veil} {ground m : State} {next last : Next} {result : Option (Array Value)}

/-- Where nothing waits below, a machine stands at all moments of a run. -/
theorem Passes.stands {n : State} {step other : Step Exit} (passes : Passes m step n other)
    (stack : ground.stack = []) (parents : ground.parents = [])
    (stands : Next.Stands (m, step) veil ground) : Next.Stands (n, other) veil ground := by
  induction passes with
  | now => exact stands
  | later _ _ ih =>
      refine ih (stands.advance (.bottom stack parents) fun isCalled => ?_)
      obtain ⟨_, _, _, _, _, waits⟩ := isCalled
      cases stack.symm.trans waits

theorem Goes.stands (goes : Goes ground next last) (isCalled : ground.IsCalled)
    (stands : next.Stands veil ground) : last.Stands veil ground := by
  induction goes with
  | here => exact stands
  | further notOver _ _ ih => exact ih (stands.advance (.called isCalled) fun _ => notOver)

theorem Completes.stands (completes : Completes ground next result last)
    (isCalled : ground.IsCalled)
    (stands : next.Stands veil ground) : last.Stands veil ground := by
  induction completes with
  | now _ => exact stands
  | later notOver _ _ ih => exact ih (stands.advance (.called isCalled) fun _ => notOver)

/-- The store of a moment is veiled. -/
theorem Next.Stands.veiled (stands : next.Stands veil ground) : next.2.store.Veiled veil := by
  obtain ⟨_, step⟩ := stands
  cases taken : next.2 with
  | done _ _ | fail _ _ | ask _ _ _ =>
      rw [taken] at step
      exact step.1

/-- The threads that are not running refer to visible values only. -/
theorem Next.Stands.threads (stands : next.Stands veil ground) :
    Visible (next.2.store.view veil) next.1.threads := by
  obtain ⟨machine, step⟩ := stands
  refine machine.threads.grow ?_
  cases taken : next.2 with
  | done _ _ | fail _ _ | ask _ _ _ =>
      rw [taken] at step
      exact step.2.1

/-! ## Calls above others -/

/-- On a ground nothing is lost. -/
theorem Stands.length_le {n : View} {must : Prop} {stack : List Wait}
    {parents : List (Nat × Paused)}
    (stands : Stands ground n must stack parents) :
    ground.parents.length ≤ parents.length ∧
      (parents.length = ground.parents.length → ground.stack.length ≤ stack.length) := by
  cases stands with
  | here _ _ => simp
  | above _ _ _ _ below =>
      have fewer := below.length_le.1
      exact ⟨Nat.le_succ_of_le fewer, fun same => absurd same (Nat.ne_of_gt (Nat.lt_succ_of_le fewer))⟩

/-- A call below is over only when the one above raises. -/
theorem State.IsAbove.over (above : ground.IsAbove m) (stands : next.Stands veil ground)
    (isOver : IsOver m next result) : result = none ∧ IsOver ground next none := by
  cases isOver with
  | returned stack parents _ =>
      obtain ⟨machine, _⟩ := stands
      have same := parents.trans above.parents.symm
      have fewer := machine.stack.length_le.2 (congrArg List.length same)
      exact absurd (congrArg List.length stack) (Nat.ne_of_gt (Nat.lt_of_lt_of_le above.more fewer))
  | raised left parents =>
      exact ⟨rfl, .raised (left.trans above.left.symm) (parents.trans above.parents.symm)⟩

/-- Until the call above is over, the one below goes on. -/
theorem Completes.goes (inner : Completes ground next result last) (isCalled : ground.IsCalled)
    (above : ground.IsAbove m) (stands : next.Stands veil ground) : Goes m next last := by
  induction inner with
  | now _ => exact .here
  | later notOver notYet _ ih =>
      have below (other : Option (Array Value)) : ¬IsOver m _ other :=
        fun isOver => notOver _ (above.over stands isOver).2
      exact .further below notYet (ih (stands.advance (.called isCalled) fun _ => notOver))

/-- When a call is over, the one above has been over before. -/
theorem Completes.inner (outer : Completes m next result last) (isCalled : ground.IsCalled)
    (above : ground.IsAbove m) (stands : next.Stands veil ground) :
    ∃ other middle, Completes ground next other middle ∧ Completes m middle result last := by
  induction outer with
  | now isOver =>
      obtain ⟨rfl, raises⟩ := above.over stands isOver
      exact ⟨_, _, .now raises, .now isOver⟩
  | @later next last result notOver notYet rest ih =>
      by_cases isOver : ∃ other, IsOver ground next other
      · obtain ⟨other, ends⟩ := isOver
        exact ⟨_, _, .now ends, .later notOver notYet rest⟩
      · have goesOn := not_exists.mp isOver
        obtain ⟨other, middle, inner, outer⟩ :=
          ih (stands.advance (.called isCalled) fun _ => goesOn)
        exact ⟨other, middle, .later goesOn notYet inner, outer⟩

end LuaSession.Machine
