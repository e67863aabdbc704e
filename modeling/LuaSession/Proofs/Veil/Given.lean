import LuaSession.Proofs.Machine.Builtin
import LuaSession.Proofs.Veil.Runs

/-!
# What functions are given

The machine calls a value in several ways: a script or a library function asks for it, protected
or not, a thread begins with it, it takes the place of the running function, an error is shown to
it, or it closes a value. However it is called, everything that it is given has been there before
the function begins that is called.
-/

namespace LuaSession

open LuaSession.Script

namespace Script.Store

/-- A store has all values that another one has: they differ in what is running and in what is
counted. -/
structure HasSame (s t : Store) : Prop where
  tables : t.heap.tables = s.heap.tables
  cells : t.heap.cells = s.heap.cells
  closures : t.heap.closures = s.heap.closures
  resources : t.heap.resources = s.heap.resources
  registry : t.registry = s.registry
  world : t.world = s.world

namespace HasSame

variable {r s t : Store}

theorem refl (s : Store) : s.HasSame s := ⟨rfl, rfl, rfl, rfl, rfl, rfl⟩

theorem trans (first : r.HasSame s) (second : s.HasSame t) : r.HasSame t where
  tables := second.tables.trans first.tables
  cells := second.cells.trans first.cells
  closures := second.closures.trans first.closures
  resources := second.resources.trans first.resources
  registry := second.registry.trans first.registry
  world := second.world.trans first.world

variable (same : s.HasSame t)

include same

theorem closure_eq (ref : Nat) : t.closure ref = s.closure ref := by
  rw [Store.closure, same.closures, Store.closure]

theorem metafield_eq (value name : Value) : t.metafield value name = s.metafield value name := by
  have table (ref : Nat) : t.table ref = s.table ref := by rw [Store.table, same.tables, Store.table]
  have resource (ref : Nat) : t.resource ref = s.resource ref := by
    rw [Store.resource, same.resources, Store.resource]
  have metatable : t.metatable? value = s.metatable? value := by
    cases value <;> simp only [metatable?, table, resource, same.registry]
  simp only [metafield, metatable, table, resource]

end HasSame

end Script.Store

namespace Machine

/-! ## Where values are called -/

/-- The error with which everything is left up to a protected call, if none is shown to a handler
before. -/
def unshown? (m : State) : Raised → Option (Value × Bool)
  | .memory => some (.ofString memoryMessage, true)
  | .handled value => some (value, false)
  | .error value =>
      match handlerOf m.stack with
      | .none => some (value, false)
      | _ => none

/-- A value is called at a moment, with arguments. -/
inductive IsCalling : Next → Value → Array Value → Prop where
  | asks {m : State} {s : Store} {resume : Resume} {function : Value} {arguments : Array Value}
      {site : Site} : IsCalling (m, .ask (.call function arguments site) s resume) function arguments
  | protects {m : State} {s : Store} {resume : Resume} {function : Value} {arguments : Array Value}
      {handler : Handler} {isSealed : Bool} :
      IsCalling (m, .ask (.protect handler isSealed function arguments) s resume) function arguments
  /-- A thread begins. -/
  | resumes {m : State} {s : Store} {resume : Resume} {function : Value} {arguments : Array Value}
      {thread : Nat} (shallow : m.nesting < nestingLimit)
      (isFresh : m.threads.getD thread default = .fresh function) :
      IsCalling (m, .ask (.resume thread arguments) s resume) function arguments
  /-- The value takes the place of the running function. -/
  | replaces {m : State} {s : Store} {resume : Resume} {function : Value} {arguments : Array Value}
      {site : Site} {caller : Activation} {frame : Frame} {line : Nat} {rest : List Wait}
      (waits : m.stack = .call resume caller frame line :: rest) :
      IsCalling (m, .done (.tail function arguments site) s) function arguments
  /-- An error is shown to a handler. -/
  | shows {m : State} {s : Store} {function value : Value}
      (isHandler : handlerOf m.stack = .script function) :
      IsCalling (m, .fail (.error value) s) function #[value]
  /-- The scope of a value has been left. -/
  | closes {m : State} {s : Store} {resume : Resume} {value : Value} {line : Nat} {body : List Stmt}
      {condition : Option Expr} {rest : List Wait} {exit : Exit}
      (waits : m.stack = .guarded value line body condition resume :: rest)
      (leaves : leave m (.guarded value line body condition resume) rest exit s =
        closeGuarded { m with stack := rest } value line exit resume s) :
      IsCalling (m, .done exit s) (s.metafield value Event.close) #[value, .nil]
  /-- A protected call has failed, and there is a value to be closed. -/
  | unwinds {m : State} {s : Store} {resume : Resume} {raised : Raised} {value error : Value}
      {isMemory isSealed : Bool} {pending : List Value} {handler : Handler} {caller : Activation}
      {rest : List Wait} (unshown : unshown? m raised = some (error, isMemory))
      (left : leaveWaits #[] m.stack =
        (value :: pending, .protect handler isSealed resume caller :: rest)) :
      IsCalling (m, .fail raised s) (s.metafield value Event.close) #[value, error]
  /-- One of them has been closed, and there is another one. -/
  | unwindsMore {m : State} {s : Store} {resume : Resume} {value error : Value}
      {pending : List Value} {isMemory isSealed : Bool} {handler : Handler} {caller : Activation}
      {rest : List Wait} {exit : Exit}
      (waits : m.stack = .unwinding (value :: pending) error isMemory ::
        .protect handler isSealed resume caller :: rest) :
      IsCalling (m, .done exit s) (s.metafield value Event.close) #[value, error]

/-! ## What there is before -/

/-- Everything is there that a value is called with. -/
structure Ready (veil : Veil) (m : State) (function : Value) (arguments : Array Value) (s : Store) :
    Prop where
  veiled : s.Veiled veil
  threads : Visible (s.view veil) m.threads
  function : Visible (s.view veil) function
  arguments : Visible (s.view veil) arguments

/-- A value is called where everything is there. -/
inductive Arrives (veil : Veil) (s : Store) (function : Value) (arguments : Array Value) :
    Next → Prop where
  | called {m : State} {t : Store} {site : Site} {resume : Resume} (same : s.HasSame t)
      (ready : Ready veil m function arguments t) :
      Arrives veil s function arguments (call m function arguments site resume t)
  | replaced {m : State} {t : Store} {site : Site} (same : s.HasSame t)
      (ready : Ready veil m function arguments t) (isCalled : m.IsCalled) :
      Arrives veil s function arguments (tailCall m function arguments site t)

variable {veil : Veil} {m : State} {s t : Store} {function error : Value}
  {arguments given : Array Value} {moment next : Next}

/-- What a value is called as. -/
theorem callee_eq (same : s.HasSame t) (fuel : Nat) (function : Value) (arguments : Array Value) :
    callee t fuel function arguments = callee s fuel function arguments := by
  induction fuel generalizing function arguments with
  | zero => rfl
  | succ fuel ih =>
      unfold callee
      rw [same.metafield_eq]
      simp only [ih]

theorem fail_of_unshown {raised : Raised} {isMemory : Bool}
    (unshown : unshown? m raised = some (error, isMemory)) :
    fail m raised s = unwind m error isMemory s := by
  cases raised with
  | memory | handled _ =>
      cases unshown
      rfl
  | error value =>
      unfold unshown? at unshown
      unfold fail
      dsimp only at unshown ⊢
      split at unshown
      next isNone =>
        cases unshown
        rw [isNone]
      next => cases unshown

theorem visible_unshown {n : View} {raised : Raised} {isMemory : Bool}
    (unshown : unshown? m raised = some (error, isMemory)) (visible : Visible n raised) :
    Visible n error := by
  cases raised with
  | memory =>
      cases unshown
      exact visible_ofString _
  | handled value =>
      cases unshown
      exact visible
  | error value =>
      unfold unshown? at unshown
      dsimp only at unshown
      split at unshown
      next =>
        cases unshown
        exact visible
      next => cases unshown

theorem advance_done {wait : Wait} {rest : List Wait} (waits : m.stack = wait :: rest)
    {exit : Exit} :
    advance m (.done exit s) = leave m wait rest exit s := by
  unfold advance
  dsimp only
  rw [waits]

/-- Where nothing waits, nothing has been called. -/
theorem not_isCalled_empty : ¬State.IsCalled {} := by
  rintro ⟨_, _, _, _, _, waits⟩
  cases waits

/-- What waits first is visible, since the ground on which the machine stands is empty. -/
theorem State.Stands.visible_of_waits {n : View} {must : Prop} (stands : m.Stands {} must n)
    {wait : Wait} {rest : List Wait} (waits : m.stack = wait :: rest) : Visible n wait := by
  have waiting := stands.stack
  rw [waits] at waiting
  obtain ⟨isStack, _⟩ | ⟨visible, _⟩ := waiting.pop
  · cases isStack
  · exact visible

section Arriving

variable {must : Prop} (machine : m.Stands {} must (s.view veil)) (veiled : s.Veiled veil)

include machine veiled

/-- A thread begins with what has been there when it was resumed. -/
theorem arrives_resumeThread {thread : Nat} {resume : Resume} (shallow : m.nesting < nestingLimit)
    (isFresh : m.threads.getD thread default = .fresh function)
    (visible : Visible (s.view veil) arguments) :
    Arrives veil s function arguments (resumeThread m thread arguments resume s) := by
  have dormant := machine.visible_thread thread
  rw [isFresh] at dormant
  have started : ({ (s.setThreadStatus s.thread .normal).setThreadStatus thread .running with
      thread } : Store).Veiled veil := veiled.congr rfl rfl rfl rfl rfl rfl rfl
  unfold resumeThread
  rw [if_neg (Nat.not_le.mpr shallow), isFresh]
  exact .called ⟨rfl, rfl, rfl, rfl, rfl, rfl⟩ ⟨(started.setFrame visible_noFrame).veiled,
    (machine.setThread thread visible_noDormant).threads, dormant, visible⟩

theorem arrives_handler {value : Value} (isHandler : handlerOf m.stack = .script function)
    (visible : Visible (s.view veil) value) :
    Arrives veil s function #[value] (fail m (.error value) s) := by
  have handler := machine.stack.visible_handlerOf (.bottom rfl rfl) fun isCalled =>
    absurd isCalled not_isCalled_empty
  rw [isHandler] at handler
  unfold fail
  dsimp only
  rw [isHandler]
  exact .called (.refl _) ⟨veiled, machine.threads, handler, visible_one visible⟩

/-- Everything that called functions wait for is visible, also what is to be closed. -/
theorem arrives_unwind {value : Value} {pending : List Value} {handler : Handler}
    {isMemory isSealed : Bool} {resume : Resume} {caller : Activation} {rest : List Wait}
    (left : leaveWaits #[] m.stack =
      (value :: pending, .protect handler isSealed resume caller :: rest))
    (isError : Visible (s.view veil) error) :
    Arrives veil s (s.metafield value Event.close) #[value, error] (unwind m error isMemory s) := by
  obtain ⟨isCalled, _⟩ | ⟨arePending, _⟩ := machine.stack.unwound (.bottom rfl rfl) visible_empty
  · exact absurd isCalled not_isCalled_empty
  · rw [left] at arePending
    have isVisible := (visible_cons.mp arePending).1
    unfold unwind
    rw [left]
    exact .called (t := s.withFrame {}) ⟨rfl, rfl, rfl, rfl, rfl, rfl⟩
      ⟨(veiled.setFrame visible_noFrame).veiled, machine.threads,
        veiled.visible_metafield isVisible _, visible_two isVisible isError⟩

end Arriving

/-- Everything is there that a value is called with. -/
theorem IsCalling.arrives (calls : IsCalling moment function arguments)
    (stands : moment.Stands veil {}) :
    Arrives veil moment.2.store function arguments (advance moment.1 moment.2) := by
  obtain ⟨machine, step⟩ := stands
  cases calls with
  | asks =>
      obtain ⟨veiled, grown, visible, _⟩ := step
      exact .called (.refl _) ⟨veiled, machine.threads.grow grown, visible.1, visible.2⟩
  | protects =>
      obtain ⟨veiled, grown, visible, _⟩ := step
      exact .called (.refl _) ⟨veiled, machine.threads.grow grown, visible.2.1, visible.2.2⟩
  | resumes shallow isFresh =>
      obtain ⟨veiled, grown, visible, _⟩ := step
      exact arrives_resumeThread (machine.grow grown) veiled shallow isFresh visible
  | replaces waits =>
      obtain ⟨veiled, grown, visible⟩ := step
      rw [advance_done waits]
      exact .replaced (.refl _) ⟨veiled, machine.threads.grow grown, visible.1, visible.2⟩
        ⟨_, _, _, _, _, waits⟩
  | shows isHandler =>
      obtain ⟨veiled, grown, visible⟩ := step
      exact arrives_handler (machine.grow grown) veiled isHandler visible
  | closes waits leaves =>
      obtain ⟨veiled, grown, _⟩ := step
      have machine := machine.grow grown
      have isVisible := (machine.visible_of_waits waits).1
      rw [advance_done waits, leaves]
      exact .called (.refl _) ⟨veiled, machine.threads, veiled.visible_metafield isVisible _,
        visible_two isVisible visible_nil⟩
  | @unwinds m s _ _ _ _ _ _ _ _ _ _ unshown left =>
      obtain ⟨veiled, grown, visible⟩ := step
      change Arrives veil s _ _ (fail m _ s)
      rw [fail_of_unshown unshown]
      exact arrives_unwind (machine.grow grown) veiled left (visible_unshown unshown visible)
  | unwindsMore waits =>
      obtain ⟨veiled, grown, _⟩ := step
      have machine := machine.grow grown
      obtain ⟨arePending, isError⟩ := machine.visible_of_waits waits
      have isVisible := (visible_cons.mp arePending).1
      rw [advance_done waits]
      exact .called (.refl _) ⟨veiled, machine.threads, veiled.visible_metafield isVisible _,
        visible_two isVisible isError⟩

/-! ## Functions that begin -/

/-- A function begins and everything is there that it is given, unless memory or the stack runs
out. -/
inductive Enters (veil : Veil) (s : Store) (closure : Closure) (given : Array Value) (next : Next) :
    Prop where
  | runsOut (isExhausted : IsExhausted next)
  | begins {t : Store} (same : s.HasSame t) (begins : Begins closure given t next)
      (veiled : (t.withFrame {}).Veiled veil) (threads : Visible (t.view veil) next.1.threads)
      (visible : Visible (t.view veil) given)

variable {ref : Nat} {site : Site} {resume : Resume}

theorem hasSame_checkMemory (m : State) (s : Store) : s.HasSame (checkMemory m s).2 := by
  obtain ⟨charge, checked⟩ := exists_checkMemory m s
  rw [checked]
  exact ⟨rfl, rfl, rfl, rfl, rfl, rfl⟩

theorem enters_enter (same : s.HasSame t) (ready : Ready veil m (.closure ref) given t) :
    Enters veil s (s.closure ref) given (enter m (.closure ref) given site resume t) := by
  unfold enter
  dsimp only
  split
  · exact .runsOut (.stack _ _ _)
  · have framed := (ready.veiled.setFrame visible_noFrame).veiled
    rw [same.closure_eq]
    exact .begins (t := t.withFrame {}) (same.trans ⟨rfl, rfl, rfl, rfl, rfl, rfl⟩)
      ⟨⟨_, _, _, _, _, rfl⟩, _, _, rfl⟩ framed ready.threads ready.arguments

/-- There is no memory, or the function that a value is called as is there, too. -/
theorem Ready.checked_cases (ready : Ready veil m function arguments t) (same : s.HasSame t)
    (called : callee s callChainLimit function arguments = .ok (.closure ref, given)) :
    (∃ after, checkMemory m t = (false, after)) ∨
    ∃ after, checkMemory m t = (true, after) ∧ s.HasSame after ∧
      callee after callChainLimit function arguments = .ok (.closure ref, given) ∧
      Ready veil m (.closure ref) given after := by
  have same := same.trans (hasSame_checkMemory m t)
  have reached := veiled_checkMemory ready.veiled m
  generalize checkMemory m t = check at same reached
  obtain ⟨_ | _, after⟩ := check
  · exact .inl ⟨after, rfl⟩
  · have called := (callee_eq same _ _ _).trans called
    have visible := visible_callee reached.veiled callChainLimit (ready.function.grow reached.grown)
      (ready.arguments.grow reached.grown)
    rw [called] at visible
    exact .inr ⟨after, rfl, same, called,
      ⟨reached.veiled, ready.threads.grow reached.grown, visible.1, visible.2⟩⟩

theorem enters_call (same : s.HasSame t) (ready : Ready veil m function arguments t)
    (called : callee s callChainLimit function arguments = .ok (.closure ref, given)) :
    Enters veil s (s.closure ref) given (call m function arguments site resume t) := by
  unfold call
  dsimp only
  split
  · split
    · exact .runsOut (.nesting _ _ _)
    · exact .runsOut (.handling _ _)
  · obtain ⟨after, checked⟩ | ⟨after, checked, same, called, ready⟩ := ready.checked_cases same called
    · rw [checked]
      exact .runsOut (.memory _ _)
    · rw [checked]
      dsimp only
      split
      next isFunction =>
        have itself : callee after callChainLimit function arguments =
            .ok (function, arguments) := by
          rw [callChainLimit, callee, isFunction]
          rfl
        obtain ⟨rfl, rfl⟩ := Prod.mk.inj (Except.ok.inj (itself.symm.trans called))
        exact enters_enter same ready
      · rw [called]
        exact enters_enter same ready

theorem enters_tailCall (same : s.HasSame t) (ready : Ready veil m function arguments t)
    (isCalled : m.IsCalled)
    (called : callee s callChainLimit function arguments = .ok (.closure ref, given)) :
    Enters veil s (s.closure ref) given (tailCall m function arguments site t) := by
  unfold tailCall
  obtain ⟨after, checked⟩ | ⟨after, checked, same, called, ready⟩ := ready.checked_cases same called
  · rw [checked]
    exact .runsOut (.memory _ _)
  · rw [checked]
    dsimp only
    rw [called]
    dsimp only
    split
    · exact .runsOut (.stack _ _ _)
    · rw [same.closure_eq]
      exact .begins same ⟨isCalled, _, _, rfl⟩ (ready.veiled.setFrame visible_noFrame).veiled
        ready.threads ready.arguments

/-- A function that is called as a value begins with what has been there before. -/
theorem IsCalling.enters (calls : IsCalling moment function arguments)
    (stands : moment.Stands veil {})
    (called : callee moment.2.store callChainLimit function arguments = .ok (.closure ref, given)) :
    Enters veil moment.2.store (moment.2.store.closure ref) given (advance moment.1 moment.2) := by
  have arrives := calls.arrives stands
  generalize advance moment.1 moment.2 = next at arrives ⊢
  cases arrives with
  | called same ready => exact enters_call same ready called
  | replaced same ready isCalled => exact enters_tailCall same ready isCalled called

end Machine

end LuaSession
