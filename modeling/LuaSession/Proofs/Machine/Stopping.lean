import LuaSession.Machine.Run

/-!
# Machines that stop

A machine may advance for ever. `Stops` says with which result it does not, and
running a machine that stops gives that result.
-/

namespace LuaSession.Machine

open LuaSession.Script

/-- A machine reaches a result after some number of transitions. -/
inductive Stops : State → Step Exit → Exit × State × Store → Prop where
  | now {m : State} {step : Step Exit} {result : Exit × State × Store}
      (found : stopped? m step = some result) : Stops m step result
  | later {m : State} {step : Step Exit} {result : Exit × State × Store}
      (notYet : stopped? m step = none)
      (stops : Stops (advance m step).1 (advance m step).2 result) : Stops m step result

/-- A machine in which something waits goes on. -/
theorem stopped?_of_waiting {m : State} {step : Step Exit} (waiting : m.stack ≠ []) :
    stopped? m step = none := by
  unfold stopped?
  split
  next empty _ => exact absurd empty waiting
  next => rfl

/-- A machine that advances to where it stops. -/
theorem Stops.next {m n : State} {step other : Step Exit} {result : Exit × State × Store}
    (notYet : stopped? m step = none) (advanced : advance m step = (n, other))
    (stops : Stops n other result) : Stops m step result :=
  .later notYet (advanced ▸ stops)

/-- The first turn of a run. -/
theorem run_eq (m : State) (step : Step Exit) :
    run m step =
      match stopped? m step with
      | some result => result
      | none => run (advance m step).1 (advance m step).2 := by
  unfold run
  rw [repeatM_eq_of_monadTail]
  cases found : stopped? m step <;> simp [repeatM.body, found]

theorem Stops.run_eq {m : State} {step : Step Exit} {result : Exit × State × Store}
    (stops : Stops m step result) : run m step = result := by
  induction stops with
  | now found => rw [Machine.run_eq, found]
  | later notYet stops ih => rw [Machine.run_eq, notYet]; exact ih

/-- The answer to a request is what the machine that is asked stops with. -/
theorem Stops.answerHost {request : Request} {threads : Array Dormant} {store final : Store}
    {exit : Exit} {m : State}
    (stops : Stops { threads } (.ask request store ends) (exit, m, final)) :
    answerHost request threads store = (exit, m.threads, final) := by
  rw [Machine.answerHost, stops.run_eq]

end LuaSession.Machine
