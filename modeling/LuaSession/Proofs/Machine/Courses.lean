import LuaSession.Proofs.Machine.Moments

/-!
# The calls of one function

A function that is written in a script begins at some moments of a run, and a call that has
begun comes to an end at a later one: it returns values, or it raises. The course of a run
lists the calls of one function, one after the other, with what they have come to.
-/

namespace LuaSession.Machine

open LuaSession.Script

/-- A function begins at a moment, and its caller waits. -/
def Begins (closure : Closure) (arguments : Array Value) (s : Store) (next : Next) : Prop :=
  next.1.IsCalled ∧ ∃ m activation, next = begin m closure arguments activation s

/-- A moment at which a call is over that has begun in a machine: it returns values, or
nothing inside it catches what it raises. -/
inductive IsOver (m : State) : Next → Option (Array Value) → Prop where
  | returned {n : State} {exit : Exit} {s : Store} (stack : n.stack = m.stack)
      (parents : n.parents = m.parents)
      (isLast : ∀ function arguments site, exit ≠ .tail function arguments site) :
      IsOver m (n, .done exit s) (some (valuesOf exit))
  | raised {n : State} {raised : Raised} {s : Store}
      (stack : (leaveWaits #[] n.stack).2 = (leaveWaits #[] m.stack).2)
      (parents : n.parents = m.parents) : IsOver m (n, .fail raised s) none

/-- A call that has begun in a machine goes on from a moment up to another one, at which it
is over for the first time. -/
inductive Completes (m : State) : Next → Option (Array Value) → Next → Prop where
  | now {next : Next} {result : Option (Array Value)} (isOver : IsOver m next result) :
      Completes m next result next
  | later {next last : Next} {result : Option (Array Value)} (notOver : ∀ other, ¬IsOver m next other)
      (notYet : stopped? next.1 next.2 = none)
      (completes : Completes m (advance next.1 next.2) result last) : Completes m next result last

/-- The moments of a call that has begun in a machine, until it is over. -/
inductive Within (m : State) (begun : Next) : Next → Prop where
  | start : Within m begun begun
  | goes {next : Next} (within : Within m begun next) (notOver : ∀ other, ¬IsOver m next other) :
      Within m begun (advance next.1 next.2)

/-- A call: what it is given, and what it returns if it does not raise. -/
structure Call where
  arguments : Array Value
  result : Option (Array Value)

/-- A run goes to a moment, and the calls of a function until then are over: some that were
earlier than the run, and those on the way. They begin where it is allowed. -/
inductive Course (closure : Closure) (allowed : Store → Prop) (earlier : List Call) (first : Next) :
    List Call → Next → Prop where
  | start : Course closure allowed earlier first earlier first
  | goes {calls : List Call} {next : Next} (before : Course closure allowed earlier first calls next)
      (noCall : ∀ arguments s, ¬Begins closure arguments s next)
      (notYet : stopped? next.1 next.2 = none) :
      Course closure allowed earlier first calls (advance next.1 next.2)
  | calls {calls : List Call} {next last : Next} {arguments : Array Value} {s : Store}
      {result : Option (Array Value)} (before : Course closure allowed earlier first calls next)
      (begins : Begins closure arguments s next) (isAllowed : allowed s)
      (completes : Completes next.1 next result last) :
      Course closure allowed earlier first (calls ++ [⟨arguments, result⟩]) (advance last.1 last.2)

/-- A run stops, and these have been the calls of a function until then. -/
inductive Finishes (closure : Closure) (allowed : Store → Prop) (earlier : List Call)
    (first : Next) : List Call → Exit × State × Store → Prop where
  | intro {calls : List Call} {next : Next} {stop : Exit × State × Store}
      (course : Course closure allowed earlier first calls next)
      (stopped : stopped? next.1 next.2 = some stop) :
      Finishes closure allowed earlier first calls stop

variable {m n : State} {next last : Next} {result : Option (Array Value)}

/-- A function that begins runs its body. -/
theorem Begins.step {closure : Closure} {arguments : Array Value} {s : Store}
    (begins : Begins closure arguments s next) :
    next.2 = runBody closure.code (s.withFrame (frameOf closure arguments)) := by
  obtain ⟨_, m, activation, rfl⟩ := begins
  rfl

theorem State.IsCalled.stack_ne_nil (isCalled : m.IsCalled) : m.stack ≠ [] := by
  obtain ⟨_, _, _, _, _, waits⟩ := isCalled
  exact waits ▸ List.cons_ne_nil _ _

theorem State.IsCalled.notYet (isCalled : m.IsCalled) (step : Step Exit) : stopped? m step = none :=
  stopped?_of_waiting isCalled.stack_ne_nil

/-- A call is over in one way. -/
theorem IsOver.unique {other : Option (Array Value)} (isOver : IsOver m next result)
    (again : IsOver m next other) : result = other := by
  cases isOver with
  | returned _ _ _ =>
      cases again
      rfl
  | raised _ _ =>
      cases again
      rfl

/-- A call comes to one end. -/
theorem Completes.unique {other : Option (Array Value)} {later : Next}
    (completes : Completes m next result last) (again : Completes m next other later) :
    result = other ∧ last = later := by
  induction completes with
  | now isOver =>
      cases again with
      | now also => exact ⟨isOver.unique also, rfl⟩
      | later notOver _ _ => exact absurd isOver (notOver _)
  | later notOver _ _ ih =>
      cases again with
      | now isOver => exact absurd isOver (notOver _)
      | later _ _ goesOn => exact ih goesOn

/-- Where a request is made, no call is over. -/
theorem not_isOver_ask {request : Request} {s : Store} {resume : Resume}
    (other : Option (Array Value)) : ¬IsOver m (n, .ask request s resume) other := by
  intro isOver
  cases isOver

/-- Where a function is called in place of the running one, no call is over. -/
theorem not_isOver_tail {function : Value} {arguments : Array Value} {site : Site} {s : Store}
    (other : Option (Array Value)) : ¬IsOver m (n, .done (.tail function arguments site) s) other := by
  intro isOver
  cases isOver with
  | returned _ _ isLast => exact isLast _ _ _ rfl

/-- Where the call is over that a caller waits for, no machine stops. -/
theorem IsOver.notYet (isOver : IsOver m next result) (isCalled : m.IsCalled) :
    stopped? next.1 next.2 = none := by
  cases isOver with
  | returned stack _ _ =>
      obtain ⟨_, _, _, _, _, waits⟩ := isCalled
      exact State.IsCalled.notYet ⟨_, _, _, _, _, stack.trans waits⟩ _
  | raised _ _ =>
      unfold stopped?
      split
      next impossible => cases impossible
      next => rfl

/-- Until the call is over that a caller waits for, no machine stops. -/
theorem Completes.notYet (completes : Completes m next result last) (isCalled : m.IsCalled) :
    stopped? next.1 next.2 = none := by
  cases completes with
  | now isOver => exact isOver.notYet isCalled
  | later _ notYet _ => exact notYet

theorem Completes.isOver (completes : Completes m next result last) : IsOver m last result := by
  induction completes with
  | now isOver => exact isOver
  | later _ _ _ ih => exact ih

theorem Completes.passes (completes : Completes m next result last) :
    Passes next.1 next.2 last.1 last.2 := by
  induction completes with
  | now _ => exact .now
  | later _ notYet _ ih => exact .later notYet ih

theorem Within.completes {begun : Next} (within : Within m begun next)
    (whole : Completes m begun result last) : Completes m next result last := by
  induction within with
  | start => exact whole
  | goes _ notOver ih =>
      cases ih with
      | now isOver => exact absurd isOver (notOver _)
      | later _ _ rest => exact rest

/-- A call that is over after one transition has no other moments. -/
theorem Within.eq_or_eq {begun : Next} (within : Within m begun next)
    (whole : Completes m begun result last)
    (soon : last = begun ∨ last = advance begun.1 begun.2) : next = begun ∨ next = last := by
  induction within with
  | start => exact .inl rfl
  | goes _ notOver ih =>
      obtain rfl | rfl := ih
      · obtain rfl | rfl := soon
        · exact absurd whole.isOver (notOver _)
        · exact .inr rfl
      · exact absurd whole.isOver (notOver _)

/-! ## Every run has a course -/

section Existence

variable {closure : Closure} {allowed : Store → Prop} {earlier calls : List Call} {first : Next}

/-- A machine passes through the moments of a course. -/
theorem Course.passes (course : Course closure allowed earlier first calls next) :
    Passes first.1 first.2 next.1 next.2 := by
  induction course with
  | start => exact .now
  | goes _ _ notYet ih => exact ih.trans (.later notYet .now)
  | calls _ begins _ completes ih =>
      refine ih.trans (completes.passes.trans (.later ?_ .now))
      exact completes.isOver.notYet begins.1

theorem Finishes.stops {stop : Exit × State × Store}
    (finishes : Finishes closure allowed earlier first calls stop) : Stops first.1 first.2 stop := by
  obtain ⟨course, stopped⟩ := finishes
  exact course.passes.stops (.now stopped)

/-- A moment of a run lies between the calls of a function, or within one of them. -/
inductive Lies (closure : Closure) (allowed : Store → Prop) (earlier : List Call)
    (first next : Next) : Prop where
  | between {calls : List Call} (course : Course closure allowed earlier first calls next)
  | within {calls : List Call} {begun last : Next} {arguments : Array Value} {s : Store}
      {result : Option (Array Value)} (course : Course closure allowed earlier first calls begun)
      (begins : Begins closure arguments s begun) (isAllowed : allowed s)
      (whole : Completes begun.1 begun result last) (within : Within begun.1 begun next)

/-- Within a call, the next moment is within it, too, or comes after it. -/
theorem Lies.goOn {begun : Next} {arguments : Array Value} {s : Store}
    (course : Course closure allowed earlier first calls begun)
    (begins : Begins closure arguments s begun) (isAllowed : allowed s)
    (whole : Completes begun.1 begun result last) (within : Within begun.1 begun next) :
    Lies closure allowed earlier first (advance next.1 next.2) := by
  cases within.completes whole with
  | now _ => exact .between (.calls course begins isAllowed whole)
  | later notOver _ _ => exact .within course begins isAllowed whole (.goes within notOver)

variable (completes : ∀ {calls next arguments s}, Course closure allowed earlier first calls next →
  Begins closure arguments s next → allowed s → ∃ result last, Completes next.1 next result last)

include completes

/-- A moment of a run after another one. -/
theorem Lies.advance (lies : Lies closure allowed earlier first next)
    (isAllowed : ∀ arguments s, Begins closure arguments s next → allowed s)
    (notYet : stopped? next.1 next.2 = none) :
    Lies closure allowed earlier first (advance next.1 next.2) := by
  cases lies with
  | between course =>
      by_cases isCall : ∃ arguments s, Begins closure arguments s next
      · obtain ⟨arguments, s, begins⟩ := isCall
        obtain ⟨result, last, whole⟩ := completes course begins (isAllowed _ _ begins)
        exact .goOn course begins (isAllowed _ _ begins) whole .start
      · exact .between (.goes course (fun arguments s begins => isCall ⟨_, _, begins⟩) notYet)
  | within course begins isAllowed whole within => exact .goOn course begins isAllowed whole within

theorem Lies.passes {step other : Step Exit} (passes : Passes m step n other)
    (lies : Lies closure allowed earlier first (m, step))
    (isAllowed : ∀ {o : State} {last : Step Exit}, Passes m step o last →
      ∀ arguments s, Begins closure arguments s (o, last) → allowed s) :
    Lies closure allowed earlier first (n, other) := by
  induction passes with
  | now => exact lies
  | later notYet _ ih =>
      refine ih (lies.advance completes (isAllowed .now) notYet) fun passes => ?_
      exact isAllowed (.later notYet passes)

/-- Every moment of a run lies between the calls of a function or within one, if a call comes
to an end that begins where it is allowed. -/
theorem Passes.lies (passes : Passes first.1 first.2 next.1 next.2)
    (isAllowed : ∀ {o : State} {last : Step Exit}, Passes first.1 first.2 o last →
      ∀ arguments s, Begins closure arguments s (o, last) → allowed s) :
    Lies closure allowed earlier first next :=
  Lies.passes completes passes (.between .start) isAllowed

omit completes in
/-- A run does not stop within a call. -/
theorem Lies.finishes {stop : Exit × State × Store} (lies : Lies closure allowed earlier first next)
    (stopped : stopped? next.1 next.2 = some stop) :
    ∃ calls, Finishes closure allowed earlier first calls stop := by
  cases lies with
  | between course => exact ⟨_, course, stopped⟩
  | within _ begins _ whole within =>
      rw [(within.completes whole).notYet begins.1] at stopped
      cases stopped

end Existence

/-! ## What calls change, and nothing else -/

/-- A machine that has stopped keeps what it kept until then. -/
theorem Next.Runs.stopped {shelter : Shelter} {J : Store → Prop} (runs : next.Runs shelter J)
    {stop : Exit × State × Store} (stopped : stopped? next.1 next.2 = some stop) :
    ThreadsKeep shelter J stop.2.1.threads ∧ J stop.2.2 := by
  obtain ⟨role, machine, step⟩ := runs
  unfold stopped? at stopped
  split at stopped
  next found =>
    cases stopped
    rw [found] at step
    exact ⟨machine.threads, step.1⟩
  next => cases stopped

section Keeps

variable {shelter : Shelter} {closure : Closure} {allowed : Store → Prop} {first : Next}
  {earlier calls : List Call}

/-- A function that is exempt begins. -/
theorem BeginsExempt.begins {J : Store → Prop} (exempt : BeginsExempt shelter J next)
    (only : ∀ other, shelter.exempt other → other = closure) :
    ∃ arguments s, Begins closure arguments s next := by
  obtain ⟨isExempt, isCalled, _, _, arguments, activation⟩ := exempt
  obtain rfl := only _ isExempt
  obtain ⟨resume, caller, frame, line, rest, waits⟩ := isCalled
  exact ⟨arguments, _, ⟨_, _, _, _, _, waits⟩, _, _, rfl⟩

/-- Only a function that is exempt can change what is sheltered, and what it makes of that
depends on how it is called. -/
theorem Course.keeps {J : List Call → Store → Prop} [∀ calls, Sheltered shelter (J calls)]
    (only : ∀ other, shelter.exempt other → other = closure)
    (switches : ∀ {calls next last arguments s result}, Next.Keeps shelter (J calls) next →
      Begins closure arguments s next → allowed s → Completes next.1 next result last →
      Next.Runs shelter (J (calls ++ [⟨arguments, result⟩])) last)
    (course : Course closure allowed earlier first calls next)
    (runs : first.Runs shelter (J earlier)) : next.Keeps shelter (J calls) := by
  induction course with
  | start =>
      obtain ⟨role, machine, step⟩ := runs
      exact .runs role machine step
  | goes _ noCall _ ih =>
      cases ih with
      | runs role machine step => exact Next.Runs.advance ⟨role, machine, step⟩
      | exempt begins =>
          obtain ⟨arguments, s, begins⟩ := begins.begins only
          exact absurd begins (noCall _ _)
  | calls _ begins isAllowed completes ih => exact (switches ih begins isAllowed completes).advance

/-- What is left when a run has stopped. -/
theorem Finishes.keeps {J : List Call → Store → Prop} [∀ calls, Sheltered shelter (J calls)]
    (only : ∀ other, shelter.exempt other → other = closure)
    (switches : ∀ {calls next last arguments s result}, Next.Keeps shelter (J calls) next →
      Begins closure arguments s next → allowed s → Completes next.1 next result last →
      Next.Runs shelter (J (calls ++ [⟨arguments, result⟩])) last)
    {stop : Exit × State × Store} (finishes : Finishes closure allowed earlier first calls stop)
    (runs : first.Runs shelter (J earlier)) :
    ThreadsKeep shelter (J calls) stop.2.1.threads ∧ J calls stop.2.2 := by
  obtain ⟨course, stopped⟩ := finishes
  cases course.keeps only switches runs with
  | runs role machine step => exact Next.Runs.stopped ⟨role, machine, step⟩ stopped
  | exempt begins =>
      obtain ⟨arguments, s, ⟨isCalled, _⟩⟩ := begins.begins only
      rw [isCalled.notYet] at stopped
      cases stopped

end Keeps

end LuaSession.Machine
