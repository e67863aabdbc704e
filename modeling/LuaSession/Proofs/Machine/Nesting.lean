import LuaSession.Proofs.Machine.Calling
import LuaSession.Proofs.Machine.Courses

/-!
# Calls within calls

While a call goes on, others begin and are over. A machine is above another one if more
waits in it; a call that has begun in the machine above is over before the one that has begun
below, and what it does not catch ends that one, too.
-/

namespace LuaSession.Machine

open LuaSession.Script

/-- A run goes on up to a moment. On the way it does not stop, and a call is not over that has
begun in a machine. -/
inductive Goes (m : State) : Next → Next → Prop where
  | here {next : Next} : Goes m next next
  | further {next last : Next} (notOver : ∀ other, ¬IsOver m next other)
      (notYet : stopped? next.1 next.2 = none) (rest : Goes m (advance next.1 next.2) last) :
      Goes m next last

variable {m : State} {first next last : Next} {result : Option (Array Value)}

namespace Goes

theorem trans (before : Goes m first next) (after : Goes m next last) : Goes m first last := by
  induction before with
  | here => exact after
  | further notOver notYet _ ih => exact .further notOver notYet (ih after)

/-- A run goes on by a transition. -/
theorem step (goes : Goes m first next) (notOver : ∀ other, ¬IsOver m next other)
    (notYet : stopped? next.1 next.2 = none) (isNext : advance next.1 next.2 = last) :
    Goes m first last := by
  subst isNext
  exact goes.trans (.further notOver notYet .here)

theorem passes (goes : Goes m next last) : Passes next.1 next.2 last.1 last.2 := by
  induction goes with
  | here => exact .now
  | further _ notYet _ ih => exact .later notYet ih

/-- A call comes to the end to which it comes later on. -/
theorem completes (goes : Goes m first next) (completes : Completes m next result last) :
    Completes m first result last := by
  induction goes with
  | here => exact completes
  | further notOver notYet _ ih => exact .later notOver notYet (ih completes)

/-- Where something is asked for in a call, the call goes on. -/
theorem asks {request : Request} {s : Store} {resume : Resume} {n : State}
    (goes : Goes m first (n, .ask request s resume)) (waits : n.stack ≠ [])
    (isNext : advance n (.ask request s resume) = last) : Goes m first last :=
  goes.step not_isOver_ask (stopped?_of_waiting waits) isNext

end Goes

/-- More waits in one machine than in another one, but nothing more that catches errors. -/
structure State.IsAbove (upper m : State) : Prop where
  more : m.stack.length < upper.stack.length
  left : (leaveWaits #[] upper.stack).2 = (leaveWaits #[] m.stack).2
  parents : upper.parents = m.parents

/-- What raises an error that nothing catches ends the call below, too. -/
theorem State.IsAbove.isOver {upper : State} (above : upper.IsAbove m) (isOver : IsOver upper next none) :
    IsOver m next none := by
  cases isOver with
  | raised left parents =>
      exact .raised (left.trans above.left) (parents.trans above.parents)

theorem State.IsAbove.trans {upper middle : State} (above : upper.IsAbove middle)
    (further : middle.IsAbove m) : upper.IsAbove m where
  more := Nat.lt_trans further.more above.more
  left := above.left.trans further.left
  parents := above.parents.trans further.parents

/-- A function that is called is above its caller. -/
theorem State.isAbove_of_call {upper : State} {resume : Resume} {caller : Activation} {frame : Frame}
    {line : Nat} (waits : upper.stack = .call resume caller frame line :: m.stack)
    (parents : upper.parents = m.parents) : upper.IsAbove m where
  more := by
    rw [waits]
    exact Nat.lt_succ_self _
  left := by
    rw [waits]
    rfl
  parents := parents

/-- Where a function returns that is above, the call below is not over. -/
theorem State.IsAbove.not_isOver_done {upper n : State} (above : upper.IsAbove m)
    (stack : n.stack = upper.stack) {exit : Exit} {s : Store} (other : Option (Array Value)) :
    ¬IsOver m (n, .done exit s) other := by
  intro isOver
  cases isOver with
  | returned same _ _ =>
      exact Nat.ne_of_gt above.more (congrArg List.length (stack.symm.trans same))

/-- A machine is back where another one was. -/
structure State.IsBack (n m : State) : Prop where
  stack : n.stack = m.stack
  parents : n.parents = m.parents
  activation : n.activation = m.activation

/-- A function returns that has been called on top of a machine: its caller goes on. -/
theorem advance_returned {n : State} {goesOn : Resume} {frame : Frame} {line : Nat} {exit : Exit}
    {s : Store} (waits : n.stack = .call goesOn m.activation frame line :: m.stack)
    (parents : n.parents = m.parents)
    (isLast : ∀ function arguments site, exit ≠ .tail function arguments site) :
    ∃ back : State, back.IsBack m ∧ back.threads = n.threads ∧
      advance n (.done exit s) = (back, goesOn (.returned (valuesOf exit)) (s.withFrame frame)) := by
  refine ⟨{ n with stack := m.stack, activation := m.activation }, ⟨rfl, parents, rfl⟩, rfl, ?_⟩
  unfold advance
  dsimp only
  rw [waits]
  exact leave_call isLast

/-- How the call ends that is asked for at a moment: it returns values to the caller, at once or
when it is over that has begun, or it raises. -/
inductive CallEnds (asked : Next) : Option (Array Value) → Next → Prop where
  | atOnce {function : Value} {arguments values : Array Value} {site : Site} {s t : Store}
      {resume : Resume} (asks : asked.2 = .ask (.call function arguments site) s resume)
      (answers : ∀ goesOn, call asked.1 function arguments site goesOn s =
        (asked.1, goesOn (.returned values) t)) :
      CallEnds asked (some values) (asked.1, resume (.returned values) t)
  | returns {function : Value} {arguments values : Array Value} {site : Site} {s : Store}
      {resume : Resume} {frame : Frame} {line : Nat} {last : Next}
      (asks : asked.2 = .ask (.call function arguments site) s resume)
      (waits : (advance asked.1 asked.2).1.stack =
        .call resume asked.1.activation frame line :: asked.1.stack)
      (completes : Completes (advance asked.1 asked.2).1 (advance asked.1 asked.2) (some values) last) :
      CallEnds asked (some values) (advance last.1 last.2)
  | raises {function : Value} {arguments : Array Value} {site : Site} {s : Store}
      {resume goesOn : Resume} {frame : Frame} {line : Nat} {last : Next}
      (asks : asked.2 = .ask (.call function arguments site) s resume)
      (waits : (advance asked.1 asked.2).1.stack =
        .call goesOn asked.1.activation frame line :: asked.1.stack)
      (completes : Completes (advance asked.1 asked.2).1 (advance asked.1 asked.2) none last) :
      CallEnds asked none last

end LuaSession.Machine
