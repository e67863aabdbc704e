import LuaSession.Proofs.Machine.Moments

/-!
# Calls that go through

As long as calls are not nested too deeply, the stack has room and there is memory,
calling a function that is written in a script begins with its body, and calling a
function of the libraries that comes to values at once goes on with these.
-/

namespace LuaSession.Machine

open LuaSession.Script

variable {m : State} {site : Site} {resume : Resume} {s checked t : Store}
  {arguments : Array Value}

/-- There is always memory when it is not limited. -/
theorem checkMemory_of_unlimited (unlimited : s.limit = none) : checkMemory m s = (true, s) := by
  rw [checkMemory, unlimited]

/-- Nothing is in the way of a call. -/
theorem call_of_shallow (memory : checkMemory m s = (true, checked))
    (shallow : m.nestingBase + nestingIn m site.kind < nestingLimit) {function : Value}
    (isFunction : function.isFunction = true) :
    call m function arguments site resume s = enter m function arguments site resume checked := by
  have notTooDeep : (site.kind != .script &&
      decide (m.nestingBase + nestingIn m site.kind ≥ nestingLimit) &&
      (m.nestingBase + nestingIn m site.kind == nestingLimit ||
        decide (m.nestingBase + nestingIn m site.kind ≥ errorNestingLimit))) = false := by
    rw [decide_eq_false (Nat.not_le.mpr shallow), Bool.and_false, Bool.false_and]
  rw [call]
  simp only [notTooDeep, Bool.false_eq_true, reduceIte, memory, isFunction]

/-- A function that is written in a script begins. -/
theorem call_closure (memory : checkMemory m s = (true, checked))
    (shallow : m.nestingBase + nestingIn m site.kind < nestingLimit) {ref : Nat}
    {closure : Closure} (isClosure : checked.closure ref = closure)
    (room : hasRoom m (baseOf closure arguments (m.activation.base + site.room + 1) +
      closure.code.info.frameSize) = true) :
    call m (.closure ref) arguments site resume s =
      begin (m.push (.call resume m.activation checked.frame site.line)) closure arguments
        { isScript := true
          nesting := nestingIn m site.kind
          base := baseOf closure arguments (m.activation.base + site.room + 1)
          barriers := barriersIn m site.kind
          depth := m.activation.depth + 1 }
        (checked.withFrame {}) := by
  rw [call_of_shallow memory shallow rfl, enter.eq_def]
  simp only [isClosure, room, Bool.not_true, Bool.false_eq_true, reduceIte]

/-- A function of the libraries comes to values. -/
theorem call_builtin (memory : checkMemory m s = (true, checked))
    (shallow : m.nestingBase + nestingIn m site.kind < nestingLimit) {builtin : Builtin}
    (room : hasRoom m (m.activation.base + site.room + 1 + arguments.size + libraryRoom) = true)
    {values : Array Value}
    (done : libraryRun m (.builtin builtin) arguments site checked = .done values t) :
    call m (.builtin builtin) arguments site resume s = (m, resume (.returned values) t) := by
  rw [call_of_shallow memory shallow rfl, enter.eq_def]
  simp only [room, Bool.not_true, Bool.false_eq_true, reduceIte]
  rw [runLibrary, done]

/-- A function of the libraries takes the place of the running one and comes to values. -/
theorem tailCall_builtin (memory : checkMemory m s = (true, checked)) {builtin : Builtin}
    (room : hasRoom m (m.activation.base + site.room + 1 + arguments.size + libraryRoom) = true)
    {values : Array Value}
    (done : libraryRun m (.builtin builtin) arguments site checked = .done values t) :
    tailCall m (.builtin builtin) arguments site s = (m, .done (.returned values) t) := by
  have enters : tailCall m (.builtin builtin) arguments site s =
      enter m (.builtin builtin) arguments site ends checked := by
    rw [tailCall, memory]
    rfl
  rw [enters, enter.eq_def]
  simp only [room, Bool.not_true, Bool.false_eq_true, reduceIte]
  rw [runLibrary, done]
  rfl

/-- A function that ends, unless another one takes its place, is left with its values. -/
theorem leave_call {exit : Exit}
    (ends : ∀ function arguments site, exit ≠ .tail function arguments site)
    {caller : Activation} {frame : Frame} {line : Nat} {rest : List Wait} :
    leave m (.call resume caller frame line) rest exit s =
      ({ m with stack := rest, activation := caller },
        resume (.returned (valuesOf exit)) (s.withFrame frame)) := by
  cases exit with
  | tail function arguments site => exact absurd rfl (ends function arguments site)
  | _ => rfl

end LuaSession.Machine
