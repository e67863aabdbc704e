import LuaSession.Proofs.Veil.Standing

/-!
# The machine respects a veil

A machine that stands on a ground does so after every transition, until the call is over
that has begun there. So functions that are called on the ground never come by a hidden
table, whatever they call, resume or catch, and the hidden tables stay as they are.
-/

namespace LuaSession.Machine

open LuaSession.Script

variable {veil : Veil} {n : View} {ground machine : State} {must : Prop} {s : Store}
  {resume : Resume} {function error value : Value} {arguments : Array Value}

/-! ## Steps of a machine that stands on a ground -/

section Calls

variable (veiled : s.Veiled veil) (stands : machine.Stands ground must (s.view veil))

include veiled stands

namespace Next

theorem stands_done {exit : Exit} (visible : Visible (s.view veil) exit) :
    Next.Stands (machine, .done exit s) veil ground :=
  .intro stands ⟨veiled, .refl _, visible⟩

theorem stands_fail {raised : Raised} (visible : Visible (s.view veil) raised) :
    Next.Stands (machine, .fail raised s) veil ground :=
  .intro stands ⟨veiled, .refl _, visible⟩

theorem stands_run {run : Run Exit} (respects : run.Respects (s.view veil)) :
    Next.Stands (machine, run s) veil ground :=
  .intro stands (respects.step s veiled (.refl _))

theorem stands_resume (respects : resume.Respects (s.view veil)) {exit : Exit}
    (visible : Visible (s.view veil) exit) : Next.Stands (machine, resume exit s) veil ground :=
  .intro stands (respects veil exit s veiled (.refl _) visible)

end Next

/-! ## Calls -/

theorem stands_faultAt (line : Nat) (message : Bytes) :
    Next.Stands (faultAt machine line message s) veil ground :=
  Next.stands_run veiled stands (Run.ensures_faultBytes _ _)

theorem stands_overflow (line : Nat) : Next.Stands (overflow machine line s) veil ground := by
  unfold overflow
  split
  · exact Next.stands_fail veiled stands (visible_handled.mpr (visible_ofString _))
  · exact stands_faultAt veiled (stands.withStack stands.stack stands.barred true) _ _

theorem stands_failCall (function : Value) (site : Site) :
    Next.Stands (failCall machine function site s) veil ground :=
  stands_faultAt veiled stands _ _

omit stands in
theorem veiled_checkMemory (machine : State) : s.Reaches veil (checkMemory machine s).2 := by
  unfold checkMemory
  dsimp only
  split
  · exact veiled.refl
  · split
    · exact veiled.refl
    · exact veiled.charge _

omit stands veiled in
theorem visible_frameOf (closure : Closure) (visible : Visible n arguments) :
    Visible n (frameOf closure arguments) := by
  constructor
  · unfold frameOf
    dsimp only
    split <;> split <;>
      simp [visible, visible_extract, visible_replicate]
  · unfold frameOf
    dsimp only
    split
    · exact visible_extract visible _ _
    · exact visible_empty

omit stands veiled in
theorem respects_runBody (code : Code) (n : View) : (runBody code).Respects n := by
  obtain ⟨info, labelled, body⟩ := code
  cases labelled with
  | false => exact Run.respects_execBlock n none body
  | true => exact Run.respects_ask (visible_labelled body none)

theorem stands_begin (closure : Closure) (visible : Visible (s.view veil) arguments)
    {activation : Activation} (barred : must → 0 < activation.barriers) :
    Next.Stands (begin machine closure arguments activation s) veil ground := by
  have framed := veiled.setFrame (visible_frameOf closure visible)
  exact Next.stands_run framed.veiled (stands.withActivation barred) (respects_runBody _ _)

theorem stands_runLibrary (resumes : resume.Respects (s.view veil)) {run : Run (Array Value)}
    (respects : run.Respects (s.view veil)) (line : Nat) {activation : Activation}
    (barred : must → 0 < activation.barriers) :
    Next.Stands (runLibrary machine run line activation resume s) veil ground := by
  have waiting {goesOn : Resume} {k : View} {frame : Frame} (grown : Grown (s.view veil) k)
      (resumes : goesOn.Respects k) (isVisible : Visible k frame) :
      ((machine.push (.call goesOn machine.activation frame line)).withActivation activation).Stands
        ground must k :=
    ((stands.grow grown).pushCall resumes isVisible line).withActivation barred
  have step := respects.step s veiled (.refl _)
  unfold runLibrary
  generalize run s = ran at step
  cases ran with
  | done values after =>
      obtain ⟨isVeiled, grown, visible⟩ := step
      exact Next.stands_resume isVeiled (stands.grow grown) (resumes.grow grown) visible
  | fail raised after =>
      obtain ⟨isVeiled, grown, visible⟩ := step
      exact Next.stands_fail isVeiled (waiting grown (respects_ends _) isVeiled.frame) visible
  | ask request after goOn =>
      obtain ⟨isVeiled, grown, visible, later⟩ := step
      have framed : after.Reaches veil (after.withFrame {}) := isVeiled.setFrame visible_noFrame
      refine .intro (waiting grown (resumes.grow grown) isVeiled.frame)
        ⟨framed.veiled, .refl _, visible, fun exit t tVeiled more isExit => ?_⟩
      exact (later exit t tVeiled more isExit).bindAsked fun values u uVeiled _ areVisible =>
        ⟨uVeiled, .refl _, areVisible⟩

omit stands veiled in
theorem respects_libraryRun (machine : State) (function : Value) (site : Site)
    (visible : Visible n arguments) :
    (libraryRun machine function arguments site).Respects n := by
  refine ⟨fun t tVeiled grown => ?_⟩
  have visible := visible.grow grown
  unfold libraryRun
  cases function with
  | builtin builtin =>
      exact (Library.respects_runBuiltin builtin _ visible).step t tVeiled (.refl _)
  | native ref => exact (Library.respects_runNative ref _ visible).step t tVeiled (.refl _)
  | _ => exact ⟨tVeiled, .refl _, visible_empty⟩

omit veiled in
/-- Within a call, a function is barred if the one is that calls it. -/
theorem barred_barriersIn (kind : CallKind) : must → 0 < barriersIn machine kind := by
  intro isMust
  have barred := stands.barred isMust
  unfold barriersIn
  cases kind with
  | library => exact Nat.succ_pos _
  | event =>
      dsimp only
      split
      · exact barred
      · exact Nat.succ_pos _
  | _ => exact barred

theorem stands_enter (resumes : resume.Respects (s.view veil)) (function : Value)
    (visible : Visible (s.view veil) arguments) (site : Site) :
    Next.Stands (enter machine function arguments site resume s) veil ground := by
  unfold enter
  dsimp only
  split
  · split
    · exact stands_overflow veiled stands _
    · have framed : s.Reaches veil (s.withFrame {}) := veiled.setFrame visible_noFrame
      have waits := stands.pushCall resumes veiled.frame site.line
      exact stands_begin framed.veiled waits _
        visible (barred_barriersIn stands site.kind)
  · split
    · exact stands_overflow veiled stands _
    · exact stands_runLibrary veiled stands resumes (respects_libraryRun _ _ _ visible) _
        (barred_barriersIn stands site.kind)

omit stands in
/-- What a value is called as is visible, and so are its arguments. -/
theorem visible_callee (fuel : Nat) (isFunction : Visible (s.view veil) function)
    (visible : Visible (s.view veil) arguments) :
    Visible (s.view veil) (callee s fuel function arguments) := by
  induction fuel generalizing function arguments with
  | zero => exact isFunction
  | succ fuel ih =>
      unfold callee
      split
      · exact ⟨isFunction, visible⟩
      · dsimp only
        split
        · exact isFunction
        · exact ih (veiled.visible_metafield isFunction Event.call)
            (visible_append.mpr ⟨visible_one isFunction, visible⟩)

theorem stands_call (resumes : resume.Respects (s.view veil))
    (isFunction : Visible (s.view veil) function) (visible : Visible (s.view veil) arguments)
    (site : Site) : Next.Stands (call machine function arguments site resume s) veil ground := by
  have reached := veiled_checkMemory veiled machine
  have deeper : (machine.withActivation { machine.activation with
      nesting := machine.activation.nesting + 1 }).Stands ground must (s.view veil) :=
    stands.withActivation stands.barred
  unfold call
  dsimp only
  split
  · split
    · exact stands_faultAt veiled deeper _ _
    · exact Next.stands_fail veiled deeper (visible_handled.mpr (visible_ofString _))
  · generalize checkMemory machine s = check at reached
    obtain ⟨_ | _, after⟩ := check
    · exact Next.stands_fail reached.veiled (stands.grow reached.grown) visible_memory
    · have stands := stands.grow reached.grown
      have resumes := resumes.grow reached.grown
      have isFunction := isFunction.grow reached.grown
      have visible := visible.grow reached.grown
      dsimp only at stands resumes isFunction visible ⊢
      split
      · exact stands_enter reached.veiled stands resumes _ visible _
      · have called := visible_callee reached.veiled callChainLimit isFunction visible
        split
        next found =>
          rw [found] at called
          exact stands_enter reached.veiled stands resumes _ called.2 _
        next => exact stands_failCall reached.veiled stands _ _

theorem stands_tailCall (isFunction : Visible (s.view veil) function)
    (visible : Visible (s.view veil) arguments) (site : Site) :
    Next.Stands (tailCall machine function arguments site s) veil ground := by
  have reached := veiled_checkMemory veiled machine
  unfold tailCall
  generalize checkMemory machine s = check at reached
  obtain ⟨_ | _, after⟩ := check
  · exact Next.stands_fail reached.veiled (stands.grow reached.grown) visible_memory
  · have stands := stands.grow reached.grown
    have called := visible_callee reached.veiled callChainLimit (isFunction.grow reached.grown)
      (visible.grow reached.grown)
    dsimp only at stands called ⊢
    split
    · exact stands_failCall reached.veiled stands _ _
    next found =>
      rw [found] at called
      split
      · exact stands_overflow reached.veiled stands _
      · exact stands_begin reached.veiled stands _ called.2 stands.barred
    next found =>
      rw [found] at called
      exact stands_enter reached.veiled stands (respects_ends _) _ called.2 _

end Calls

/-! ## Threads and errors -/

section Threads

variable (isGround : ground.IsGround) (veiled : s.Veiled veil)
  (stands : machine.Stands ground must (s.view veil))

omit isGround stands in
include veiled in
theorem veiled_setThreadStatus (thread : Nat) (status : ThreadStatus) :
    s.Reaches veil (s.setThreadStatus thread status) :=
  veiled.same rfl rfl rfl rfl rfl rfl rfl

/-- The thread goes on that has been waiting. -/
theorem stands_return {thread : Nat} {paused : Paused} {parents : List (Nat × Paused)}
    (veiled : s.Veiled veil) (threads : Visible (s.view veil) machine.threads)
    (below : Stands ground (s.view veil) must paused.stack parents)
    (barred : must → 0 < paused.activation.barriers) (frame : Visible (s.view veil) paused.frame)
    (resumes : paused.resume.Respects (s.view veil)) {dormant : Dormant}
    (isDormant : Visible (s.view veil) dormant) (status : ThreadStatus) {exit : Exit}
    (visible : Visible (s.view veil) exit) (found : machine.parents = (thread, paused) :: parents) :
    Next.Stands (leaveThread machine dormant status exit s) veil ground := by
  have framed := veiled.setFrame frame
  have goesOn (t : Store) (isVeiled : t.Veiled veil) (same : t.view veil = s.view veil) :
      (paused.resume exit t).Ensures Visible (s.view veil) := by
    rw [← same] at resumes visible ⊢
    exact resumes veil exit t isVeiled (.refl _) visible
  unfold leaveThread
  simp only [found]
  refine .intro ⟨below, barred, visible_setIfInBounds threads isDormant _⟩ (goesOn _ ?_ rfl)
  exact framed.veiled.congr rfl rfl rfl rfl rfl rfl rfl

include isGround veiled stands

omit isGround in
theorem stands_leaveThread (free : ¬must) {dormant : Dormant}
    (isDormant : Visible (s.view veil) machine.stack → Visible (s.view veil) dormant)
    (status : ThreadStatus) {exit : Exit}
    (visible : Visible (s.view veil) exit) :
    Next.Stands (leaveThread machine dormant status exit s) veil ground := by
  have waiting := stands.stack
  generalize waits : machine.stack = stack at waiting
  generalize others : machine.parents = parents at waiting
  cases waiting with
  | here _ _ =>
      have alone : machine.parents = [] := others.trans (Decidable.not_not.mp free)
      unfold leaveThread
      simp only [alone]
      exact Next.stands_done veiled stands visible
  | above areVisible frame resumes barred below =>
      exact stands_return veiled stands.threads below barred frame resumes
        (isDormant (waits ▸ areVisible)) status visible others

theorem stands_closePending {pending : List Value} (arePending : Visible (s.view veil) pending)
    (isError : Visible (s.view veil) error) (isMemory : Bool) :
    Next.Stands (closePending machine pending error isMemory s) veil ground := by
  have waiting := stands.stack
  unfold closePending
  split
  next found =>
    rw [found] at waiting
    obtain ⟨_, resumes, barred, others⟩ := waiting.pop_protect isGround
    exact Next.stands_resume veiled (stands.withStack others barred machine.overflowing) resumes
      isError
  next pending _ _ _ _ _ found =>
    obtain ⟨isVisible, rest⟩ := visible_cons.mp arePending
    have waits : (machine.push (.unwinding pending error isMemory)).Stands ground must (s.view veil) :=
      stands.push ⟨rest, isError⟩ fun _ => trivial
    exact stands_call veiled waits (respects_ends _) (veiled.visible_metafield isVisible _)
      (visible_two isVisible isError) _
  next => exact Next.stands_done veiled stands isError

omit isGround veiled stands in
/-- The handler of a protected call above the ground is visible. -/
theorem Stands.visible_handlerOf (isGround : ground.IsGround) {stack : List Wait}
    {parents : List (Nat × Paused)} (stands : Machine.Stands ground n must stack parents)
    (above : ground.IsCalled → (leaveWaits #[] stack).2 = (leaveWaits #[] ground.stack).2 →
      parents ≠ ground.parents) : Visible n (handlerOf stack) := by
  rw [← Stands.handlerOf_leaveWaits stack #[]]
  obtain ⟨isCalled, left, same⟩ | ⟨_, left⟩ := stands.unwound isGround visible_empty
  · exact absurd same (above isCalled left)
  · obtain isEmpty | ⟨_, _, _, _, _, isProtect⟩ := Stands.leaveWaits_left stack #[]
    · rw [isEmpty]
      exact visible_noHandler
    · rw [isProtect] at left ⊢
      exact (left.pop_protect isGround).1

/-- What is raised goes up to a protected call above the ground or ends a thread above it, if
it does not end the call on the ground. -/
theorem stands_unwind
    (above : ground.IsCalled → (leaveWaits #[] machine.stack).2 = (leaveWaits #[] ground.stack).2 →
      machine.parents ≠ ground.parents)
    (isError : Visible (s.view veil) error) (isMemory : Bool) :
    Next.Stands (unwind machine error isMemory s) veil ground := by
  obtain ⟨isCalled, left, same⟩ | ⟨arePending, left⟩ := stands.stack.unwound isGround visible_empty
  · exact absurd same (above isCalled left)
  · have shape := Stands.leaveWaits_left machine.stack #[]
    unfold unwind
    generalize leaveWaits #[] machine.stack = waits at arePending left shape
    obtain ⟨pending, stack⟩ := waits
    dsimp only at arePending left shape ⊢
    split
    · obtain ⟨_, _, barred, _⟩ := left.pop_protect isGround
      have framed : s.Reaches veil (s.withFrame {}) := veiled.setFrame visible_noFrame
      exact stands_closePending isGround framed.veiled (stands.withStack left barred false)
        arePending isError isMemory
    next notProtect =>
      obtain rfl : stack = [] := by
        obtain isEmpty | ⟨_, _, _, _, _, isProtect⟩ := shape
        · exact isEmpty
        · exact absurd isProtect (notProtect _ _ _ _ _)
      exact stands_leaveThread veiled
        (stands.withStack left stands.barred machine.overflowing) (left.free isGround)
        (fun _ => visible_ended.mpr ⟨visible_some.mpr isError, arePending⟩) _ isError

theorem stands_failStep
    (above : ground.IsCalled → (leaveWaits #[] machine.stack).2 = (leaveWaits #[] ground.stack).2 →
      machine.parents ≠ ground.parents)
    {raised : Raised} (visible : Visible (s.view veil) raised) :
    Next.Stands (fail machine raised s) veil ground := by
  cases raised with
  | memory => exact stands_unwind isGround veiled stands above (visible_ofString _) true
  | handled value => exact stands_unwind isGround veiled stands above visible false
  | error value =>
      have handler := stands.stack.visible_handlerOf isGround above
      unfold fail
      dsimp only
      split
      · exact stands_unwind isGround veiled stands above visible false
      next function found =>
        rw [found] at handler
        exact stands_call veiled stands (respects_handled _) handler (visible_one visible) _
      · split
        · exact Next.stands_fail veiled stands (visible_handled.mpr (visible_ofString _))
        · exact stands_runLibrary veiled stands (respects_handled _)
            (Library.Hosted.respects_report visible) _ fun _ => Nat.succ_pos _

omit isGround in
/-- A thread that is resumed stands above the one that waits for it. -/
theorem stands_above {stack : List Wait} (areVisible : Visible (s.view veil) stack)
    (resumes : resume.Respects (s.view veil)) {activation : Activation} {nestingBase base : Nat}
    {overflowing : Bool} {threads : Array Dormant} (areDormant : Visible (s.view veil) threads) :
    State.Stands
      { stack, activation, nestingBase, overflowing, threads
        parents := (s.thread, { machine with frame := s.frame, resume, nestingBase := base }) ::
          machine.parents }
      ground False (s.view veil) :=
  ⟨.above areVisible veiled.frame resumes stands.barred stands.stack, False.elim, areDormant⟩

omit isGround in
theorem stands_resumeThread (resumes : resume.Respects (s.view veil)) (thread : Nat)
    (visible : Visible (s.view veil) arguments) :
    Next.Stands (resumeThread machine thread arguments resume s) veil ground := by
  let started : Store := { (s.setThreadStatus s.thread .normal).setThreadStatus thread .running with
    thread }
  have isStarted : started.Veiled veil := veiled.congr rfl rfl rfl rfl rfl rfl rfl
  have begun : started.Reaches veil (started.withFrame {}) := isStarted.setFrame visible_noFrame
  have dormant := stands.visible_thread thread
  have threads : Visible (s.view veil) (machine.setThread thread default).threads :=
    (stands.setThread thread visible_noDormant).threads
  unfold resumeThread
  split
  · exact Next.stands_resume veiled stands resumes (visible_caught.mpr (visible_ofString _))
  · dsimp only
    generalize machine.threads.getD thread default = waiting at dormant
    cases waiting with
    | fresh function =>
        exact stands_call begun.veiled (stands_above veiled stands visible_list_nil resumes threads)
          (respects_ends _) dormant visible _
    | suspended paused =>
        obtain ⟨areVisible, frame, goesOn⟩ := visible_suspended.mp dormant
        have framed : started.Reaches veil (started.withFrame paused.frame) :=
          isStarted.setFrame frame
        exact Next.stands_resume framed.veiled
          (stands_above veiled stands areVisible resumes threads) goesOn visible
    | ended error pending =>
        apply stands_return begun.veiled
        case found => rfl
        · exact threads
        · exact stands.stack
        · exact stands.barred
        · exact veiled.frame
        · exact resumes
        · exact visible_noDormant
        · exact visible_returned.mpr visible_empty

omit isGround in
theorem stands_yieldThread (resumes : resume.Respects (s.view veil))
    (visible : Visible (s.view veil) arguments) :
    Next.Stands (yieldThread machine arguments resume s) veil ground := by
  unfold yieldThread
  split
  · exact Next.stands_fail veiled stands (visible_raised.mpr (visible_ofString _))
  · split
    · exact Next.stands_fail veiled stands (visible_raised.mpr (visible_ofString _))
    next unbarred =>
      exact stands_leaveThread veiled stands (fun isMust => unbarred (stands.barred isMust))
        (fun areVisible => visible_suspended.mpr ⟨areVisible, veiled.frame, resumes⟩) _ visible

omit isGround in
theorem stands_abandonThread (resumes : resume.Respects (s.view veil)) (thread : Nat) :
    Next.Stands (abandonThread machine thread resume s) veil ground := by
  have dormant := stands.visible_thread thread
  have given := veiled_setThreadStatus veiled thread .dead
  unfold abandonThread
  refine Next.stands_resume given.veiled (stands.setThread thread visible_noDormant) resumes ?_
  generalize machine.threads.getD thread default = waiting at dormant
  rw [visible_abandoned]
  cases waiting with
  | fresh function => exact ⟨visible_none, visible_list_nil⟩
  | suspended paused => exact ⟨visible_none, visible_allPending dormant.1 visible_empty⟩
  | ended error pending => exact dormant

end Threads

/-! ## Collecting garbage -/

namespace Collector

variable (veiled : s.Veiled veil)

include veiled

/-- A hidden table is never swept: it has no metatable. -/
theorem veiled_clearTable (marks : Marks) (keysToo : Bool) (ref : Nat) :
    s.Reaches veil
      (if !marks.tables.getD ref false || (s.table ref).metatable.isNone then s
      else match weakness s ref with
        | (false, false) => s
        | (weakKeys, weakValues) => s.sweep ref fun key value =>
            (!(weakKeys && keysToo) || marks.holds key) && (!weakValues || marks.holds value)) := by
  split
  · exact veiled.refl
  next hasMetatable =>
    have isOpen : veil ref = none := by
      cases found : veil ref with
      | none => rfl
      | some table =>
          obtain ⟨_, isTable, noMetatable⟩ := veiled.hidden ref table found
          rw [isTable, noMetatable] at hasMetatable
          simp at hasMetatable
    split
    · exact veiled.refl
    · exact veiled.sweep isOpen _

theorem veiled_clearWeak (marks : Marks) (keysToo : Bool) :
    s.Reaches veil (clearWeak marks keysToo s) := by
  unfold clearWeak
  generalize List.range s.heap.tables.size = tables
  induction tables generalizing s with
  | nil => exact veiled.refl
  | cons ref tables ih =>
      rw [List.foldl_cons]
      have swept := veiled_clearTable veiled marks keysToo ref
      exact swept.trans (ih swept.veiled)

omit veiled in
theorem visible_partition {values : List Value} (visible : Visible n values)
    (test : Value → Bool) : Visible n (values.partition test).1 ∧
      Visible n (values.partition test).2 := by
  rw [List.partition_eq_filter_filter]
  exact ⟨fun value isMember => visible value (List.mem_filter.mp isMember).1,
    fun value isMember => visible value (List.mem_filter.mp isMember).1⟩

theorem veiled_collect (machine : State) :
    s.Reaches veil (collect machine s).2 ∧
      Visible ((collect machine s).2.view veil) (collect machine s).1 := by
  have first := veiled_clearWeak veiled (survey machine s false) false
  have parts := visible_partition first.veiled.finalizable (survey machine s false).holds
  unfold collect
  dsimp only
  generalize (List.partition _ _) = split at parts
  obtain ⟨kept, dead⟩ := split
  dsimp only at parts ⊢
  generalize converge _ _ _ _ = marks
  have second := veiled_clearWeak first.veiled marks true
  have noted := second.veiled.setFinalizable (parts.1.grow second.grown)
  exact ⟨first.trans (second.trans noted), visible_toArray.mpr (parts.2.grow second.grown)⟩

end Collector

/-! ## Requests and answers -/

section Answers

variable (isGround : ground.IsGround) (veiled : s.Veiled veil)
  (stands : machine.Stands ground must (s.view veil))

include veiled stands

theorem stands_iterate (resumes : resume.Respects (s.view veil)) (loop : Loop) :
    Next.Stands (iterate machine loop resume s) veil ground := by
  have reached := veiled_checkMemory veiled machine
  unfold iterate
  split
  · exact Next.stands_resume veiled stands resumes visible_fell
  next run rest found =>
    generalize checkMemory machine s = check at reached
    obtain ⟨_ | _, after⟩ := check
    · exact Next.stands_fail reached.veiled (stands.grow reached.grown) visible_memory
    · have waits : (machine.push (.loop rest resume)).Stands ground must (after.view veil) :=
        (stands.grow reached.grown).push (resumes.grow reached.grown) fun _ => trivial
      exact Next.stands_run reached.veiled waits (Loop.respects_iteration? found)

theorem stands_guarded (resumes : resume.Respects (s.view veil))
    (isVisible : Visible (s.view veil) value) (name : Bytes) (line : Nat) (body : Guarded) :
    Next.Stands (guarded machine value name line body resume s) veil ground := by
  have waits (body : List Stmt) (condition : Option Expr) :
      (machine.push (.guarded value line body condition resume)).Stands ground must (s.view veil) :=
    stands.push ⟨isVisible, resumes⟩ fun _ => trivial
  unfold guarded
  split
  · exact stands_faultAt veiled stands _ _
  · split
    · exact Next.stands_run veiled (waits _ _) (Run.respects_execBlock _ _ _)
    · exact stands_iterate veiled (waits _ _) (respects_ends _) _

theorem stands_closeGuarded (resumes : resume.Respects (s.view veil))
    (isVisible : Visible (s.view veil) value) (line : Nat) {exit : Exit}
    (isExit : Visible (s.view veil) exit) :
    Next.Stands (closeGuarded machine value line exit resume s) veil ground :=
  stands_call veiled stands
    (fun later _ t tVeiled grown _ => resumes later exit t tVeiled grown (isExit.grow grown))
    (veiled.visible_metafield isVisible _) (visible_two isVisible visible_nil) _

include isGround

omit isGround in
theorem stands_answer {request : Request} (visible : Visible (s.view veil) request)
    (resumes : resume.Respects (s.view veil)) :
    Next.Stands (answer machine request s resume) veil ground := by
  cases request with
  | call function arguments site => exact stands_call veiled stands resumes visible.1 visible.2 _
  | loop loop => exact stands_iterate veiled stands resumes loop
  | labelled body condition =>
      have waits : (machine.push (.labelled body condition resume)).Stands ground must (s.view veil) :=
        stands.push resumes fun _ => trivial
      exact Next.stands_run veiled waits (Run.respects_execBlock _ _ _)
  | guarded value name line body => exact stands_guarded veiled stands resumes visible _ _ _
  | protect handler isSealed function arguments =>
      have waits : (machine.push (.protect handler isSealed resume machine.activation)).Stands ground
          must (s.view veil) := stands.push ⟨visible.1, resumes⟩ stands.barred
      exact stands_call veiled waits (respects_ends _) visible.2.1 visible.2.2 _
  | resume thread arguments => exact stands_resumeThread veiled stands resumes _ visible
  | yield values => exact stands_yieldThread veiled stands resumes visible
  | spawn function =>
      have made : s.Reaches veil s.newThread.2 := veiled.same rfl rfl rfl rfl rfl rfl rfl
      have knows : State.Stands { machine with threads := machine.threads.push (.fresh function) }
          ground must (s.view veil) :=
        ⟨stands.stack, stands.barred, visible_push.mpr ⟨stands.threads, visible⟩⟩
      exact Next.stands_resume made.veiled knows resumes
        (visible_returned.mpr (visible_one (visible_thread _)))
  | abandon thread => exact stands_abandonThread veiled stands resumes _
  | canYield =>
      exact Next.stands_resume veiled stands resumes
        (visible_returned.mpr (visible_one (visible_bool _)))
  | position level =>
      exact Next.stands_resume veiled stands resumes
        (visible_returned.mpr (visible_one (visible_str _)))
  | depth =>
      exact Next.stands_resume veiled stands resumes
        (visible_returned.mpr (visible_one (visible_ofNat _)))
  | collect =>
      obtain ⟨reached, areVisible⟩ := Collector.veiled_collect veiled machine
      exact Next.stands_resume reached.veiled (stands.grow reached.grown)
        (resumes.grow reached.grown) (visible_returned.mpr areVisible)

theorem stands_leave {wait : Wait} {rest : List Wait} (found : machine.stack = wait :: rest)
    {exit : Exit} (isExit : Visible (s.view veil) exit)
    (notOver : ground.IsCalled → ∀ result, ¬IsOver ground (machine, .done exit s) result) :
    Next.Stands (leave machine wait rest exit s) veil ground := by
  have waiting := stands.stack
  rw [found] at waiting
  obtain ⟨isStack, same⟩ | ⟨isVisible, barred, others⟩ := waiting.pop
  · -- On the ground, only a call in place of the one that has begun goes on.
    cases isGround with
    | bottom stack _ => cases isStack.trans stack
    | called isCalled =>
        obtain ⟨_, _, _, _, _, waits⟩ := id isCalled
        obtain ⟨rfl, rfl⟩ := List.cons.inj (isStack.trans waits)
        cases exit with
        | tail function arguments site => exact stands_tailCall veiled stands isExit.1 isExit.2 _
        | _ =>
            refine absurd (IsOver.returned (found.trans isStack) same ?_) (notOver isCalled _)
            rintro _ _ _ ⟨⟩
  · have left (activation : Activation) (isBarred : must → 0 < activation.barriers) :
        State.Stands { machine with stack := rest, activation } ground must (s.view veil) :=
      ⟨others, isBarred, stands.threads⟩
    have left' : State.Stands { machine with stack := rest } ground must (s.view veil) :=
      left _ stands.barred
    cases wait with
    | call resume caller frame line =>
        obtain ⟨resumes, frame⟩ := isVisible
        have framed := veiled.setFrame frame
        unfold leave
        dsimp only
        split
        · exact stands_tailCall veiled stands isExit.1 isExit.2 _
        · exact Next.stands_resume framed.veiled (left caller barred) resumes
            (visible_returned.mpr (visible_valuesOf isExit))
    | protect _ _ resume _ => exact Next.stands_resume veiled left' isVisible.2 isExit
    | loop loop resume =>
        unfold leave
        dsimp only
        split
        · split
          · exact stands_iterate veiled left' isVisible _
          · exact Next.stands_resume veiled left' isVisible visible_fell
        · split
          · exact stands_iterate veiled left' isVisible _
          · exact Next.stands_resume veiled left' isVisible visible_fell
        · exact Next.stands_resume veiled left' isVisible visible_fell
        · exact Next.stands_resume veiled left' isVisible isExit
    | labelled body condition resume =>
        unfold leave
        dsimp only
        split
        · split
          · exact Next.stands_run veiled stands (Run.respects_execBlock _ _ _)
          · exact Next.stands_resume veiled left' isVisible isExit
        · exact Next.stands_resume veiled left' isVisible isExit
    | guarded value line body condition resume =>
        obtain ⟨isValue, resumes⟩ := isVisible
        unfold leave
        dsimp only
        split
        next condition =>
          have waits : State.Stands { machine with stack := .guarded value line [] none resume :: rest }
              ground must (s.view veil) :=
            ⟨others.push ⟨isValue, resumes⟩ fun _ => trivial, stands.barred, stands.threads⟩
          exact Next.stands_run veiled waits (Run.respects_evalEnd _ _)
        · split
          · exact Next.stands_run veiled stands (Run.respects_execBlock _ _ _)
          · exact stands_closeGuarded veiled left' resumes isValue _ isExit
        · exact stands_closeGuarded veiled left' resumes isValue _ isExit
    | unwinding pending error isMemory =>
        exact stands_closePending isGround veiled left' isVisible.1 isVisible.2 _

end Answers

/-- A machine stands on its ground after a transition, unless the call was over that had begun
there. -/
theorem Next.Stands.advance {next : Next} (isGround : ground.IsGround)
    (stands : next.Stands veil ground)
    (notOver : ground.IsCalled → ∀ result, ¬IsOver ground next result) :
    (Machine.advance next.1 next.2).Stands veil ground := by
  obtain ⟨machine, taken⟩ := next
  obtain ⟨stands, step⟩ := stands
  dsimp only at stands step ⊢
  unfold Machine.advance
  cases taken with
  | ask request s resume =>
      obtain ⟨veiled, grown, visible, resumes⟩ := step
      exact stands_answer veiled (stands.grow grown) visible fun _ => resumes
  | fail raised s =>
      obtain ⟨veiled, grown, visible⟩ := step
      refine stands_failStep isGround veiled (stands.grow grown)
        (fun isCalled left same => ?_) visible
      exact notOver isCalled none (.raised left same)
  | done exit s =>
      obtain ⟨veiled, grown, visible⟩ := step
      have stands := stands.grow grown
      dsimp only
      split
      next found => exact stands_leave isGround veiled stands found visible notOver
      next found =>
        have waiting := stands.stack
        rw [found] at waiting
        exact stands_leaveThread veiled stands (waiting.free isGround)
          (fun _ => visible_ended.mpr ⟨visible_none, visible_list_nil⟩) _ visible

end LuaSession.Machine
