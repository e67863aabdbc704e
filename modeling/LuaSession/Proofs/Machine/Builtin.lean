import LuaSession.Proofs.Machine.Nesting
import LuaSession.Proofs.Machine.Settling

/-!
# Scripts that call functions of the libraries

A script that calls a function of the libraries has it run at once, unless memory or the stack
runs out.
-/

namespace LuaSession.Machine

open LuaSession.Script

/-- Memory or the stack has run out: there is no room for what is in use or for one more call,
or calls are nested too deeply. -/
inductive IsExhausted : Next → Prop where
  | memory (m : State) (s : Store) : IsExhausted (m, .fail .memory s)
  | stack (m : State) (line : Nat) (s : Store) : IsExhausted (overflow m line s)
  | nesting (m : State) (line : Nat) (s : Store) :
      IsExhausted (faultAt m line nestingMessage.toUTF8 s)
  | handling (m : State) (s : Store) : IsExhausted (m, .fail handlingError s)

/-- An error is raised then. -/
theorem IsExhausted.fails {next : Next} (isExhausted : IsExhausted next) :
    ∃ raised s, next.2 = .fail raised s := by
  cases isExhausted with
  | memory m s | handling m s => exact ⟨_, _, rfl⟩
  | nesting m line s =>
      unfold faultAt
      cases placeOf m line <;> exact ⟨_, _, rfl⟩
  | stack m line s =>
      unfold overflow
      split
      · exact ⟨_, _, rfl⟩
      · unfold faultAt
        cases placeOf _ line <;> exact ⟨_, _, rfl⟩

/-- A call comes to nothing, since memory or the stack has run out. -/
structure RunsOut (m : State) (s : Store) (last : Next) : Prop where
  isExhausted : IsExhausted last
  isOver : IsOver m last none
  store : ∃ charge, last.2.store = { s with charge }

variable {m n : State} {builtin : Builtin} {arguments : Array Value} {site : Site} {s : Store}

theorem isOver_faultAt (stack : n.stack = m.stack) (parents : n.parents = m.parents) (line : Nat)
    (message : Bytes) : IsOver m (faultAt n line message s) none := by
  have left : (leaveWaits #[] n.stack).2 = (leaveWaits #[] m.stack).2 := by rw [stack]
  unfold faultAt
  cases placeOf n line <;> exact .raised left parents

theorem isOver_overflow (line : Nat) : IsOver m (overflow m line s) none := by
  unfold overflow
  split
  · exact .raised rfl rfl
  · exact isOver_faultAt (m := m) (n := { m with overflowing := true }) rfl rfl line _

theorem store_overflow (line : Nat) : (overflow m line s).2.store = s := by
  unfold overflow
  split
  · rfl
  · unfold faultAt
    cases placeOf { m with overflowing := true } line <;> rfl

theorem runsOut_memory (charge : Nat) : RunsOut m s (m, .fail .memory { s with charge }) :=
  ⟨.memory _ _, .raised rfl rfl, charge, rfl⟩

theorem runsOut_overflow (line charge : Nat) : RunsOut m s (overflow m line { s with charge }) :=
  ⟨.stack _ _ _, isOver_overflow line, charge, store_overflow line⟩

theorem call_builtin_eq (m : State) (builtin : Builtin) (arguments : Array Value) (s : Store)
    (written : site.kind = .script) (goesOn : Resume) :
    call m (.builtin builtin) arguments site goesOn s =
      match checkMemory m s with
      | (false, store) => (m, .fail .memory store)
      | (true, store) => enter m (.builtin builtin) arguments site goesOn store := by
  rw [call, written]
  rfl

/-- A script's call of a function of the libraries: memory or the stack runs out, or the
function runs. -/
theorem call_builtin_cases (m : State) (builtin : Builtin) (arguments : Array Value) (s : Store)
    (written : site.kind = .script) :
    (∃ last, RunsOut m s last ∧
      ∀ goesOn, call m (.builtin builtin) arguments site goesOn s = last) ∨
    ∃ charge caller activation,
      hasRoom m (m.activation.base + site.room + 1 + arguments.size + libraryRoom) = true ∧
      ∀ goesOn, call m (.builtin builtin) arguments site goesOn s =
        runLibrary m (Library.runBuiltin builtin caller arguments) site.line activation goesOn
          { s with charge } := by
  have enters := call_builtin_eq m builtin arguments s written
  obtain ⟨charge, checked⟩ := exists_checkMemory m s
  generalize checkMemory m s = check at enters checked
  obtain ⟨_ | _, after⟩ := check
  · obtain rfl : after = { s with charge } := checked
    exact .inl ⟨_, runsOut_memory charge, enters⟩
  · obtain rfl : after = { s with charge } := checked
    cases room : hasRoom m (m.activation.base + site.room + 1 + arguments.size + libraryRoom) with
    | false =>
        refine .inl ⟨_, runsOut_overflow site.line charge, fun goesOn => ?_⟩
        rw [enters]
        dsimp only
        rw [enter.eq_def]
        dsimp only
        rw [room]
        rfl
    | true =>
        let caller : Library.Caller := {
          function := .builtin builtin
          callee := if m.activation.isScript then site.callee else .unnamed
          place := if m.activation.isScript then some (s.frame.chunk, site.line) else none }
        let activation : Activation := {
          isScript := false
          nesting := nestingIn m site.kind
          base := m.activation.base + site.room + 1
          barriers := barriersIn m site.kind
          depth := m.activation.depth + 1 }
        refine .inr ⟨charge, caller, activation, rfl, fun goesOn => ?_⟩
        rw [enters]
        dsimp only
        rw [enter.eq_def]
        dsimp only
        rw [room]
        rfl

/-- A script's call comes to values at once, unless memory or the stack runs out. -/
def Yields (m : State) (function : Value) (arguments : Array Value) (site : Site) (s : Store)
    (values : Array Value) (after : Nat → Store) : Prop :=
  (∃ last, RunsOut m s last ∧ ∀ goesOn, call m function arguments site goesOn s = last) ∨
  ∃ charge, hasRoom m (m.activation.base + site.room + 1 + arguments.size + libraryRoom) = true ∧
    ∀ goesOn, call m function arguments site goesOn s =
      (m, goesOn (.returned values) (after charge))

/-- A function of the libraries comes to values, or there is no memory for them. -/
theorem yields_builtin {values : Array Value} {after : Nat → Store} (written : site.kind = .script)
    (done : ∀ caller charge,
      (∃ later, Library.runBuiltin builtin caller arguments { s with charge } =
        .done values (after later)) ∨
      Library.runBuiltin builtin caller arguments { s with charge } =
        .fail .memory { s with charge }) :
    Yields m (.builtin builtin) arguments site s values after := by
  obtain exhausted | ⟨charge, caller, activation, room, runs⟩ :=
    call_builtin_cases m builtin arguments s written
  · exact .inl exhausted
  · obtain ⟨later, comes⟩ | fails := done caller charge
    · refine .inr ⟨later, room, fun goesOn => ?_⟩
      rw [runs, runLibrary, comes]
    · refine .inl ⟨((m.push (.call ends m.activation s.frame site.line)).withActivation activation,
        .fail .memory { s with charge }), ⟨.memory _ _, .raised rfl rfl, charge, rfl⟩, fun goesOn => ?_⟩
      rw [runs, runLibrary, fails]

end LuaSession.Machine
