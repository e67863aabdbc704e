import LuaSession.Proofs.Syntax.Captures
import LuaSession.Proofs.Syntax.Grammar
import LuaSession.Syntax.Chunk

/-!
# The environment of a script

The function that a script is captures its environment before anything else, and
a name that stands for no variable is read as a field of the environment that is
captured.
-/

namespace LuaSession.Syntax

open LuaSession.Script

namespace Read

variable {α β : Type} {P Q : ReadState → Prop} {R : β → Prop}

/-! ## What readers give -/

/-- From states of one kind a reader that succeeds gives values of some kind. -/
def Gives (P : ReadState → Prop) (R : β → Prop) (run : Read β) : Prop :=
  ∀ s value t, P s → run s = .ok value t → R value

/-- Whatever has been read. -/
def Anywhere (_ : ReadState) : Prop := True

theorem leads_anywhere (run : Read α) : run.Leads P Anywhere := fun _ _ _ _ _ => trivial

theorem gives_pure {value : β} (holds : R value) : (pure value : Read β).Gives P R := by
  intro s result t _ succeeds
  cases succeeds
  exact holds

theorem Leads.bind_gives {run : Read α} {f : α → Read β} (first : run.Leads P Q)
    (later : ∀ value, (f value).Gives Q R) : (run >>= f).Gives P R := by
  intro s value t holds succeeds
  rw [run_bind] at succeeds
  cases found : run s with
  | error trouble u =>
      rw [found] at succeeds
      contradiction
  | ok middle u =>
      rw [found] at succeeds
      exact later middle u value t (first s middle u holds found) succeeds

theorem gives_bind {run : Read α} {f : α → Read β} {M : α → Prop} (first : run.Gives P M)
    (later : ∀ value, M value → (f value).Gives Anywhere R) : (run >>= f).Gives P R := by
  intro s value t holds succeeds
  rw [run_bind] at succeeds
  cases found : run s with
  | error trouble u =>
      rw [found] at succeeds
      contradiction
  | ok middle u =>
      rw [found] at succeeds
      exact later middle (first s middle u holds found) u value t trivial succeeds

/-! ## What a script captures -/

/-- A script that has been read captures first what it did when it was begun. -/
theorem gives_closeFunction (first : Captured) (parameters : Nat) :
    (closeFunction parameters).Gives (ReadState.At first 0)
      fun info => info.captures[0]? = some first.from? := by
  refine (holds_closeBlock.keeps first 0).bind_gives fun _ =>
    gives_bind (M := fun info => info.captures[0]? = some first.from?) ?_ ?_
  · intro s info t holds succeeds
    cases succeeds
    have isScript : s.script = s.scope := by
      rw [ReadState.script, List.length_eq_zero_iff.mp holds.depth]
      rfl
    have found := holds.first
    rw [isScript] at found
    change (s.scope.captured.map Captured.from?)[0]? = _
    rw [Array.getElem?_map, found]
    rfl
  · exact fun info found => (leads_anywhere (modify _)).bind_gives fun _ => gives_pure found

/-- What is known of a script is what is known when its function is closed, whatever all
readers of the grammar keep until then. -/
theorem gives_script_of {J : Judgement} {R : CodeInfo → Prop}
    (keeps : ∀ {α : Type} {run : Read α}, J.Holds run → run.Leads P P)
    (gives : (closeFunction 0).Gives P R) : script.Gives P fun code => R code.info := by
  refine (keeps (holds_openBlock false)).bind_gives fun _ => ?_
  refine (keeps consumes_advance.holds).bind_gives fun _ => ?_
  refine (keeps (holds_reader _).block).bind_gives fun body => ?_
  refine (keeps holds_token).bind_gives fun token => ?_
  have ending : (do
      let labelled ← hasLabels
      let info ← closeFunction 0
      return Code.mk info labelled body : Read Code).Gives P fun code => R code.info := by
    refine (keeps holds_hasLabels).bind_gives fun labelled => ?_
    exact gives_bind gives fun info found => gives_pure found
  dsimp only
  split
  · exact ending
  · exact (keeps (consumes_failExpected (α := PUnit) .eof).holds).bind_gives fun _ => ending

theorem gives_script (first : Captured) : script.Gives (ReadState.At first 0)
    fun code => code.info.captures[0]? = some first.from? :=
  gives_script_of (J := capturing) (fun holds => holds.keeps first 0) (gives_closeFunction first 0)

/-! ## Free names -/

theorem gives_discharge {p : Parsed} (isSettled : ∀ line, settled line p.expr = p.expr) :
    (discharge p).Gives Anywhere fun q => q.expr = p.expr := by
  obtain ⟨expr, form, held⟩ := p
  cases form with
  | indexed =>
      refine (leads_anywhere (release held)).bind_gives fun _ => ?_
      exact (leads_anywhere get).bind_gives fun s => gives_pure (isSettled s.lastLine)
  | _ => exact gives_pure rfl

/-- Putting a value on the frame leaves it what it is, unless it is a field. -/
theorem gives_toAny {p : Parsed} (isSettled : ∀ line, settled line p.expr = p.expr) :
    (toAny p).Gives Anywhere fun q => q.expr = p.expr := by
  refine gives_bind (gives_discharge isSettled) fun q kept => ?_
  obtain ⟨expr, form, held⟩ := q
  cases form with
  | placed => exact gives_pure kept
  | _ => exact (leads_anywhere (reserve 1)).bind_gives fun _ => gives_pure kept

/-- A field that is named in the script. -/
theorem gives_indexed {object : Parsed} {index : Nat} {kind : VariableKind} (name : Bytes)
    (isCaptured : object = ⟨.captured index Expr.environment, .captured kind Expr.environment, 0⟩) :
    (indexed object (.ofValue (.str name))).Gives Anywhere fun p => p.form = .indexed ∧
      p.expr = .index (.captured index Expr.environment) (.const (.str name)) 0 := by
  subst isCaptured
  unfold indexed
  by_cases isShort : name.size ≤ 40
  · simp only [Parsed.ofValue, Parsed.value?, isShort, decide_true, reduceIte, Bool.true_or,
      pure_bind]
    exact gives_pure ⟨rfl, rfl⟩
  · simp only [Parsed.ofValue, Parsed.value?, isShort, decide_false, Bool.or_self,
      Bool.false_eq_true, reduceIte]
    refine gives_bind (gives_toAny fun _ => rfl) fun object isObject => ?_
    refine gives_bind (gives_toAny fun _ => rfl) fun key isKey => ?_
    exact gives_pure ⟨rfl, by rw [isObject, isKey]⟩

theorem run_meaning {s : ReadState} {name : Bytes} {found : Meaning}
    (looked : lookUp name (s.scope :: s.outer) = .ok (found, s.scope :: s.outer)) :
    meaning name s = .ok found s := by
  rw [meaning, run_get_bind, looked]
  rfl

/-- A name that stands for no variable, where the environment is captured, is read as
a field of the environment. -/
theorem gives_variableNamed {s : ReadState} {name : Bytes} {index : Nat} {kind : VariableKind}
    (isFree : lookUp name (s.scope :: s.outer) = .ok (.global, s.scope :: s.outer))
    (captured : lookUp Expr.environment (s.scope :: s.outer) =
      .ok (.captured index kind, s.scope :: s.outer)) :
    (variableNamed name).Gives (· = s) fun p => p.form = .indexed ∧
      p.expr = .index (.captured index Expr.environment) (.const (.str name)) 0 := by
  intro current p t same succeeds
  rw [same] at succeeds
  have noVariable : localVariable? name s = .ok none s := by
    rw [localVariable?, run_bind, run_meaning isFree]
    rfl
  have environment : localVariable? Expr.environment s =
      .ok (some ⟨.captured index Expr.environment, .captured kind Expr.environment, 0⟩) s := by
    rw [localVariable?, run_bind, run_meaning captured]
    rfl
  rw [variableNamed, run_bind, noVariable] at succeeds
  dsimp only at succeeds
  rw [run_bind, environment] at succeeds
  exact gives_indexed name rfl s p t trivial succeeds

end Read

/-- A script captures its environment first. -/
theorem captures_readScript {chunk bytes : Bytes} {depth : Nat} {code : Code}
    (read : readScript chunk depth bytes = .ok code) : code.info.captures[0]? = some (.slot 0) := by
  rw [readScript] at read
  split at read
  next run =>
    cases read
    exact Read.gives_script ⟨Expr.environment, .slot 0, .regular⟩ _ _ _ ⟨rfl, rfl⟩ run
  next => contradiction

end LuaSession.Syntax
