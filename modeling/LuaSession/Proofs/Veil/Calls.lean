import LuaSession.Proofs.Veil.Runs

/-!
# Calls that library functions make

A function that the library calls for another one cannot leave its thread. Whatever it does,
it comes by no hidden table, and what waits for it waits as before when it returns.
-/

namespace LuaSession.Machine

open LuaSession.Script

variable {veil : Veil} {m : State} {goesOn : Resume} {s : Store} {function : Value}
  {arguments : Array Value}

/-- What comes of a call: it fails at once, it returns visible values at once, or it begins on
top of what waits for it. -/
inductive Comes (veil : Veil) (m : State) (goesOn : Resume) : Next → Prop where
  | raises {next : Next} (isOver : IsOver m next none) : Comes veil m goesOn next
  | returns {values : Array Value} {t : Store} (veiled : t.Veiled veil)
      (threads : Visible (t.view veil) m.threads) (visible : Visible (t.view veil) values) :
      Comes veil m goesOn (m, goesOn (.returned values) t)
  | begins {next : Next} {frame : Frame} {line : Nat}
      (waits : next.1.stack = .call goesOn m.activation frame line :: m.stack)
      (parents : next.1.parents = m.parents) (stands : next.Stands veil next.1) :
      Comes veil m goesOn next

theorem comes_faultAt {n : State} (stack : n.stack = m.stack) (parents : n.parents = m.parents)
    (line : Nat) (message : Bytes) : Comes veil m goesOn (faultAt n line message s) := by
  have left : (leaveWaits #[] n.stack).2 = (leaveWaits #[] m.stack).2 := by rw [stack]
  unfold faultAt
  cases placeOf n line <;> exact .raises (.raised left parents)

theorem comes_overflow (line : Nat) : Comes veil m goesOn (overflow m line s) := by
  unfold overflow
  split
  · exact .raises (.raised rfl rfl)
  · exact comes_faultAt (m := m) (n := { m with overflowing := true }) rfl rfl line _

section Calls

variable (veiled : s.Veiled veil) (threads : Visible (s.view veil) m.threads)

include threads

/-- A function is barred that begins on top of its caller, so it stands on a ground. -/
theorem stands_onTop (goesOn : Resume) (frame : Frame) (line : Nat) {activation : Activation}
    (barred : 0 < activation.barriers) :
    ((m.push (.call goesOn m.activation frame line)).withActivation activation).Stands
      ((m.push (.call goesOn m.activation frame line)).withActivation activation)
      (m.parents ≠ []) (s.view veil) :=
  ⟨.here visible_list_nil fun _ => List.forall_mem_nil _, fun _ => barred, threads⟩

include veiled

theorem comes_runLibrary {run : Run (Array Value)} (respects : run.Respects (s.view veil))
    (line : Nat) {activation : Activation} (barred : 0 < activation.barriers) :
    Comes veil m goesOn (runLibrary m run line activation goesOn s) := by
  have step := respects.step s veiled (.refl _)
  unfold runLibrary
  generalize run s = ran at step
  cases ran with
  | done values after =>
      obtain ⟨isVeiled, grown, visible⟩ := step
      exact .returns isVeiled (threads.grow grown) visible
  | fail raised after => exact .raises (.raised rfl rfl)
  | ask request after resume =>
      obtain ⟨isVeiled, grown, visible, later⟩ := step
      have framed : after.Reaches veil (after.withFrame {}) := isVeiled.setFrame visible_noFrame
      refine .begins rfl rfl (.intro
        (stands_onTop (threads.grow grown) goesOn after.frame line barred)
        ⟨framed.veiled, .refl _, visible, fun exit t tVeiled more isExit => ?_⟩)
      exact (later exit t tVeiled more isExit).bindAsked fun values u uVeiled _ areVisible =>
        ⟨uVeiled, .refl _, areVisible⟩

theorem comes_begin (closure : Closure) (visible : Visible (s.view veil) arguments) (frame : Frame)
    (line : Nat) {activation : Activation} (barred : 0 < activation.barriers) :
    Comes veil m goesOn
      (begin (m.push (.call goesOn m.activation frame line)) closure arguments activation s) := by
  have waits := stands_onTop threads goesOn frame line barred
  have begins := stands_begin veiled waits closure visible fun _ => barred
  exact .begins rfl rfl begins

theorem comes_enter (visible : Visible (s.view veil) arguments) :
    Comes veil m goesOn (enter m function arguments { kind := .library } goesOn s) := by
  unfold enter
  dsimp only
  split
  · split
    · exact comes_overflow _
    · have framed : s.Reaches veil (s.withFrame {}) := veiled.setFrame visible_noFrame
      exact comes_begin framed.veiled (threads.grow framed.grown) _ (visible.grow framed.grown) _ _
        (Nat.succ_pos _)
  · split
    · exact comes_overflow _
    · exact comes_runLibrary veiled threads (respects_libraryRun _ _ _ visible) _ (Nat.succ_pos _)

/-- What comes of a call that a function of the library makes. -/
theorem comes_call (isFunction : Visible (s.view veil) function)
    (visible : Visible (s.view veil) arguments) :
    Comes veil m goesOn (call m function arguments { kind := .library } goesOn s) := by
  have reached := veiled_checkMemory veiled m
  unfold call
  dsimp only
  split
  · split
    · apply comes_faultAt <;> rfl
    · exact .raises (.raised rfl rfl)
  · generalize checkMemory m s = check at reached
    obtain ⟨_ | _, after⟩ := check
    · exact .raises (.raised rfl rfl)
    · have threads := threads.grow reached.grown
      have isFunction := isFunction.grow reached.grown
      have visible := visible.grow reached.grown
      dsimp only at threads isFunction visible ⊢
      split
      · exact comes_enter reached.veiled threads visible
      · have called := visible_callee reached.veiled callChainLimit isFunction visible
        split
        next found =>
          rw [found] at called
          exact comes_enter reached.veiled threads called.2
        next => exact comes_faultAt rfl rfl _ _

end Calls

/-! ## The end of a call -/

/-- A call that a function of the library has made, up to when that function is over: nothing
has caught what it has raised, or it has returned visible values, with which the function
has gone on. -/
inductive Answered (veil : Veil) (below m : State) (goesOn : Resume) (next : Next) :
    Option (Array Value) → Next → Prop where
  | raised {last : Next} (goes : Goes below next last) (isOver : IsOver m last none) :
      Answered veil below m goesOn next none last
  | returned {n : State} {values : Array Value} {t : Store} {result : Option (Array Value)}
      {last : Next} (goes : Goes below next (n, goesOn (.returned values) t)) (isBack : n.IsBack m)
      (veiled : (t.withFrame {}).Veiled veil) (threads : Visible (t.view veil) n.threads)
      (visible : Visible (t.view veil) values)
      (rest : Completes m (n, goesOn (.returned values) t) result last) :
      Answered veil below m goesOn next result last

variable {below : State} {next last : Next} {result : Option (Array Value)}

/-- When a function of the library is over, the call that it has made has been over before. -/
theorem Comes.answered (comes : Comes veil m goesOn next) (completes : Completes m next result last)
    (above : m.IsAbove below) : Answered veil below m goesOn next result last := by
  cases comes with
  | raises isOver =>
      obtain ⟨rfl, rfl⟩ := completes.unique (.now isOver)
      exact .raised .here isOver
  | returns veiled threads visible =>
      exact .returned .here ⟨rfl, rfl, rfl⟩ (veiled.setFrame visible_noFrame).veiled threads visible
        completes
  | @begins next frame line waits parents stands =>
      have isCalled : next.1.IsCalled := ⟨_, _, _, _, _, waits⟩
      have onTop := State.isAbove_of_call waits parents
      obtain ⟨other, middle, inner, outer⟩ := completes.inner isCalled onTop stands
      have goes := inner.goes isCalled (onTop.trans above) stands
      have standing := inner.stands isCalled stands
      have isOver := inner.isOver
      cases isOver with
      | @raised n raised t left same =>
          have ends : IsOver m (n, .fail raised t) none := onTop.isOver (.raised left same)
          obtain ⟨rfl, rfl⟩ := outer.unique (.now ends)
          exact .raised goes ends
      | @returned n exit t stack same isLast =>
          obtain ⟨back, isBack, threads, returns⟩ :=
            advance_returned (s := t) (stack.trans waits) (same.trans parents) isLast
          obtain ⟨machine, veiled, grown, visible⟩ := standing
          cases outer with
          | now isOver => exact absurd isOver (onTop.not_isOver_done stack _)
          | later _ notYet rest =>
              have notBelow : ∀ other, ¬IsOver below (n, .done exit t) other :=
                (onTop.trans above).not_isOver_done stack
              have isVeiled : ((t.withFrame frame).withFrame {}).Veiled veil :=
                (veiled.setFrame visible_noFrame).veiled
              have areVisible : Visible ((t.withFrame frame).view veil) back.threads := by
                rw [threads]
                exact machine.threads.grow grown
              rw [returns] at rest
              exact .returned (goes.step notBelow notYet returns) isBack isVeiled areVisible
                (visible_valuesOf visible) rest

end LuaSession.Machine
