import LuaSession.Proofs.Syntax.Judgement

/-!
# Readers of scripts with other names

The name of a script is only written down in the functions that are read: what is wrong
with a text does not depend on it. Two readers agree when they fail with the same trouble
or give values that are alike, whatever the names of their scripts are. Readers that give
no trees give the same values. Trees are not compared, and of an expression what later
readers ask about is.
-/

namespace LuaSession.Syntax

open LuaSession.Script

variable {α β : Type} {alike : α → α → Prop} {alike' : β → β → Prop}

/-- Two outcomes agree: the values are alike and the states differ in the name only, or
the troubles are the same. -/
inductive Accord (chunk : Bytes) (alike : α → α → Prop) :
    EStateM.Result Trouble ReadState α → EStateM.Result Trouble ReadState α → Prop
  | ok {value other : α} (t : ReadState) (values : alike value other) :
      Accord chunk alike (.ok value t) (.ok other { t with chunk })
  | error (trouble : Trouble) (t u : ReadState) :
      Accord chunk alike (.error trouble t) (.error trouble u)

/-- Two readers agree when the second one reads a script of another name. -/
def Agree (alike : α → α → Prop) (run other : Read α) : Prop :=
  ∀ s chunk, Accord chunk alike (run s) (other { s with chunk })

/-- Trees are not compared. -/
def Unseen (_ _ : α) : Prop := True

/-- A reader does not look at the name of its script: it gives the same values, or values
that are alike. -/
def Nameless (run : Read α) (alike : α → α → Prop := Eq) : Prop := Agree alike run run

/-- What readers ask about expressions is the same. -/
structure Parsed.Alike (p q : Parsed) : Prop where
  form : p.form = q.form
  held : p.held = q.held
  value? : p.value? = q.value?

theorem Parsed.Alike.refl (p : Parsed) : p.Alike p := ⟨rfl, rfl, rfl⟩

/-- Only the trees may differ. -/
theorem Parsed.Alike.exists_expr {p q : Parsed} (same : p.Alike q) :
    ∃ expr, q = { p with expr } := by
  refine ⟨q.expr, ?_⟩
  rw [same.form, same.held]

/-- Constants are the same. -/
theorem Parsed.Alike.const_iff {p q : Parsed} (same : p.Alike q) (value : Constant) :
    p.form = .const ∧ p.expr = .const value ↔ q.form = .const ∧ q.expr = .const value := by
  have known (p : Parsed) :
      p.form = .const ∧ p.expr = .const value ↔ p.form = .const ∧ p.value? = some value := by
    obtain ⟨expr, form, held⟩ := p
    cases form <;> cases expr <;> simp [Parsed.value?]
  rw [known, known, same.form, same.value?]

theorem Parsed.Alike.isMulti {p q : Parsed} (same : p.Alike q) : p.isMulti = q.isMulti := by
  rw [Parsed.isMulti, Parsed.isMulti, same.form]

theorem Parsed.Alike.isNumeral {p q : Parsed} (same : p.Alike q) :
    p.isNumeral = q.isNumeral := by
  rw [Parsed.isNumeral, Parsed.isNumeral, same.value?]

theorem Parsed.Alike.isTarget {p q : Parsed} (same : p.Alike q) : p.isTarget = q.isTarget := by
  rw [Parsed.isTarget, Parsed.isTarget, same.form]

theorem Parsed.Alike.readOnlyName? {p q : Parsed} (same : p.Alike q) :
    p.readOnlyName? = q.readOnlyName? := by
  rw [Parsed.readOnlyName?, Parsed.readOnlyName?, same.form]

/-- As many expressions have been read. -/
def SameLength (done others : List Expr) : Prop := done.length = others.length

theorem SameLength.isEmpty {done others : List Expr} (same : SameLength done others) :
    done.isEmpty = others.isEmpty := by
  rw [Bool.eq_iff_iff, List.isEmpty_iff_length_eq_zero, List.isEmpty_iff_length_eq_zero, same]

/-- As many expressions have been read, and what is asked about the last one is the same. -/
structure ListedAlike (listed others : List Expr × Parsed) : Prop where
  done : SameLength listed.1 others.1
  last : listed.2.Alike others.2

namespace Read

/-! ## Readers that are put together -/

theorem agree_pure {value other : α} (values : alike value other) :
    Agree alike (pure value) (pure other) := fun s _ => .ok s values

theorem agree_unseen (value other : α) : Agree Unseen (pure value) (pure other) :=
  agree_pure trivial

theorem nameless_pure (value : α) : Nameless (pure value : Read α) := agree_pure rfl

theorem agree_bind {run other : Read α} {f g : α → Read β} (first : Agree alike run other)
    (later : ∀ value otherValue, alike value otherValue →
      Agree alike' (f value) (g otherValue)) :
    Agree alike' (run >>= f) (other >>= g) := by
  intro s chunk
  have ends := first s chunk
  rw [run_bind, run_bind]
  generalize run s = result, other { s with chunk } = otherResult at ends
  cases ends with
  | ok t values => exact later _ _ values t chunk
  | error trouble t u => exact .error trouble t u

end Read

open Read

/-- What follows a reader that gives no tree. -/
theorem Nameless.bind {run : Read α} {f g : α → Read β} (first : Nameless run)
    (later : ∀ value, Agree alike' (f value) (g value)) :
    Agree alike' (run >>= f) (run >>= g) :=
  agree_bind first fun value _ same => same ▸ later value

namespace Read

theorem agree_ite {condition condition' : Prop} [Decidable condition] [Decidable condition']
    (same : condition ↔ condition') {yes no yes' no' : Read α} (first : Agree alike yes yes')
    (second : Agree alike no no') :
    Agree alike (if condition then yes else no) (if condition' then yes' else no') := by
  by_cases holds : condition
  · rw [if_pos holds, if_pos (same.mp holds)]
    exact first
  · rw [if_neg holds, if_neg fun holds' => holds (same.mpr holds')]
    exact second

/-- One of two readers, and the rest after either. -/
theorem agree_ite_bind {condition : Prop} [Decidable condition] {yes no yes' no' : Read α}
    {rest rest' : α → Read β} (first : Agree alike yes yes') (second : Agree alike no no')
    (later : ∀ value otherValue, alike value otherValue →
      Agree alike' (rest value) (rest' otherValue)) :
    Agree alike' (if condition then yes >>= rest else no >>= rest)
      (if condition then yes' >>= rest' else no' >>= rest') :=
  agree_ite Iff.rfl (agree_bind first later) (agree_bind second later)

/-- A reader that is used under a condition, and the rest either way. -/
theorem agree_when {condition : Prop} [Decidable condition] {run : Read α} {rest other : Read β}
    (first : Nameless run) (later : Agree alike' rest other) :
    Agree alike' (if condition then run >>= fun _ => rest else rest)
      (if condition then run >>= fun _ => other else other) :=
  agree_ite Iff.rfl (first.bind fun _ => later) later

/-- A reader that fails unless a condition holds. -/
theorem agree_unless {condition : Prop} [Decidable condition] {fails : Read α}
    {run other : Read β} (first : Nameless fails) (later : Agree alike' run other) :
    Agree alike' (if condition then run else fails >>= fun _ => run)
      (if condition then other else fails >>= fun _ => other) :=
  agree_ite Iff.rfl later (first.bind fun _ => later)

/-! ## Readers that look at the state or change it -/

theorem agree_get_bind {f g : ReadState → Read α}
    (later : ∀ s chunk, Agree alike (f s) (g { s with chunk })) :
    Agree alike (get >>= f) (get >>= g) := by
  intro s chunk
  rw [run_get_bind, run_get_bind]
  exact later s chunk s chunk

theorem nameless_modify {f : ReadState → ReadState}
    (blind : ∀ s chunk, f { s with chunk } = { f s with chunk }) :
    Nameless (modify f : Read Unit) := by
  intro s chunk
  change Accord chunk Eq (.ok () (f s)) (.ok () (f { s with chunk }))
  rw [blind s chunk]
  exact .ok (f s) rfl

theorem agree_throw (trouble : Trouble) :
    Agree alike (throw trouble : Read α) (throw trouble) := fun s _ => .error trouble s _

theorem agree_fail (what : Bytes) : Agree alike (fail what : Read α) (fail what) :=
  agree_get_bind fun _ _ => agree_throw _

theorem agree_failText (what : String) : Agree alike (failText what : Read α) (failText what) :=
  agree_fail _

theorem agree_failMeaning (what : Bytes) :
    Agree alike (failMeaning what : Read α) (failMeaning what) :=
  agree_get_bind fun _ _ => agree_throw _

theorem agree_failExpected (token : Token) :
    Agree alike (failExpected token : Read α) (failExpected token) :=
  agree_failText _

theorem nameless_lex : Nameless lex := by
  intro s chunk
  unfold lex
  rw [run_get_bind, run_get_bind]
  cases Lexer.next s.size s.size s.line s.rest with
  | ok lexed => exact .ok _ rfl
  | error trouble => exact .error trouble _ _

theorem nameless_advance : Nameless advance := by
  intro s chunk
  unfold advance
  rw [run_get_bind, run_get_bind]
  cases s.ahead with
  | some token => exact .ok _ rfl
  | none =>
      have goesOn : Nameless (do
          let token ← lex
          modify fun s => { s with token }) :=
        nameless_lex.bind fun token => nameless_modify fun _ _ => rfl
      exact goesOn { s with lastLine := s.line, ahead := none } chunk

theorem nameless_lookAhead : Nameless lookAhead := by
  refine nameless_lex.bind fun token => ?_
  exact (nameless_modify fun _ _ => rfl).bind fun _ => nameless_pure token

theorem nameless_token : Nameless token := agree_get_bind fun _ _ => agree_pure rfl

theorem nameless_line : Nameless line := agree_get_bind fun _ _ => agree_pure rfl

theorem nameless_scope : Nameless scope := agree_get_bind fun _ _ => agree_pure rfl

theorem nameless_accept (expected : Token) : Nameless (accept expected) := by
  refine agree_get_bind fun s _ => ?_
  exact agree_ite Iff.rfl (nameless_advance.bind fun _ => agree_pure rfl) (agree_pure rfl)

theorem nameless_acceptComma : Nameless acceptComma := nameless_accept _

theorem nameless_expect (expected : Token) : Nameless (expect expected) := by
  refine (nameless_accept expected).bind fun accepted => ?_
  exact agree_ite Iff.rfl (agree_pure rfl) (agree_failExpected _)

theorem nameless_expectClosing (closing opening : Token) (start : Nat) :
    Nameless (expectClosing closing opening start) := by
  refine (nameless_accept closing).bind fun accepted => ?_
  refine agree_ite Iff.rfl (agree_pure rfl) (nameless_line.bind fun line => ?_)
  exact agree_ite Iff.rfl (agree_failExpected _) (agree_failText _)

theorem nameless_expectName : Nameless expectName := by
  refine agree_get_bind fun s chunk => ?_
  dsimp only
  split
  · exact nameless_advance.bind fun _ => agree_pure rfl
  · exact agree_failExpected _

/-! ## The functions being read -/

theorem nameless_modifyScope (f : FunctionScope → FunctionScope) : Nameless (modifyScope f) :=
  nameless_modify fun _ _ => rfl

theorem agree_failLimit (bound : Nat) (what : String) :
    Agree alike (failLimit bound what : Read α) (failLimit bound what) :=
  nameless_scope.bind fun _ => agree_failText _

theorem nameless_reserve (n : Nat) : Nameless (reserve n) := by
  refine nameless_scope.bind fun scope => ?_
  exact agree_when (agree_failText _) (nameless_modifyScope _)

theorem nameless_release (n : Nat) : Nameless (release n) := nameless_modifyScope _

theorem nameless_enter : Nameless enter := by
  intro s chunk
  unfold enter
  rw [run_get_bind, run_get_bind]
  dsimp only
  split
  · exact .error _ _ _
  · exact .ok _ rfl

theorem nameless_leave : Nameless leave := nameless_modify fun _ _ => rfl

theorem nameless_announce : Nameless announce := by
  refine nameless_scope.bind fun scope => ?_
  exact agree_when (agree_failLimit _ _) (nameless_modifyScope _)

theorem nameless_declare (name : Bytes) (kind : VariableKind) : Nameless (declare name kind) := by
  refine nameless_scope.bind fun scope => ?_
  exact (nameless_modifyScope _).bind fun _ => agree_pure rfl

theorem nameless_openBlock (isLoop : Bool) : Nameless (openBlock isLoop) :=
  nameless_modifyScope _

theorem nameless_markClosing : Nameless markClosing := nameless_modifyScope _

theorem agree_failJump (jump : Jump) : Agree alike (failJump jump : Read α) (failJump jump) :=
  nameless_scope.bind fun _ => agree_failMeaning _

theorem nameless_resolve (label : Option Bytes) (visible first : Nat) :
    Nameless (resolve label visible first) := by
  refine nameless_scope.bind fun scope => ?_
  dsimp only
  split
  · exact agree_failJump _
  · exact nameless_modifyScope _

theorem agree_failUnresolved (jump : Jump) :
    Agree alike (failUnresolved jump : Read α) (failUnresolved jump) := by
  unfold failUnresolved
  split <;> exact agree_failMeaning _

theorem nameless_closeBlock : Nameless closeBlock := by
  refine nameless_scope.bind fun scope => ?_
  split
  · exact agree_pure rfl
  · refine (nameless_modifyScope _).bind fun _ => ?_
    refine agree_when (nameless_resolve _ _ _) ?_
    refine (nameless_modifyScope _).bind fun _ => ?_
    refine agree_ite Iff.rfl (nameless_scope.bind fun scope => ?_) (agree_pure rfl)
    split
    · exact agree_failUnresolved _
    · exact agree_pure rfl

theorem nameless_hasLabels : Nameless hasLabels := by
  refine nameless_scope.bind fun scope => ?_
  split <;> exact agree_pure rfl

theorem nameless_openFunction (line : Nat) : Nameless (openFunction line) :=
  (nameless_modify fun _ _ => rfl).bind fun _ => nameless_openBlock false

/-- The name is written down here, and nobody asks about it. -/
theorem nameless_closeFunction (parameters : Nat) : Nameless (closeFunction parameters) Unseen := by
  refine nameless_closeBlock.bind fun _ => ?_
  have info : Nameless (functionInfo parameters) Unseen :=
    agree_get_bind fun _ _ => agree_pure trivial
  refine agree_bind info fun _ _ _ => ?_
  refine (nameless_modify ?_).bind fun _ => agree_pure trivial
  rintro ⟨_, _, _, _, _, _, _, _, _ | ⟨_, _⟩, _, _⟩ _ <;> rfl

theorem nameless_meaning (name : Bytes) : Nameless (meaning name) := by
  intro s chunk
  unfold meaning
  rw [run_get_bind, run_get_bind]
  dsimp only
  match lookUp name (s.scope :: s.outer) with
  | .ok (meaning, scope :: outer) => exact .ok _ rfl
  | .ok (meaning, []) => exact .ok _ rfl
  | .error line => exact agree_failText _ s chunk

end Read

end LuaSession.Syntax
