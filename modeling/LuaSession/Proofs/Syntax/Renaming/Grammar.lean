import LuaSession.Proofs.Syntax.Renaming.Relation
import Mathlib.Data.List.Forall2

/-!
# The grammar under other names

Every reader of the grammar agrees with itself when the script has another name, if the
readers of what is nested do. The order is that of the grammar.
-/

namespace LuaSession.Syntax

open LuaSession.Script

namespace Read

variable {p q : Parsed}

/-- A name for a constant has its value. -/
theorem value?_named (expr : Expr) (name : Bytes) (held : Nat) :
    (⟨expr, .named name, held⟩ : Parsed).value? = (⟨expr, .const, held⟩ : Parsed).value? := by
  cases expr <;> rfl

theorem agree_discharge (same : p.Alike q) : Agree Parsed.Alike (discharge p) (discharge q) := by
  obtain ⟨other, rfl⟩ := same.exists_expr
  obtain ⟨expr, form, held⟩ := p
  cases form with
  | const => exact agree_pure same
  | named name =>
      have sameValue := same.value?
      rw [value?_named, value?_named] at sameValue
      exact agree_pure ⟨rfl, rfl, sameValue⟩
  | placed => exact agree_pure same
  | loose => exact agree_pure same
  | indexed =>
      refine (nameless_release _).bind fun _ => ?_
      exact agree_get_bind fun _ _ => agree_pure ⟨rfl, rfl, rfl⟩
  | _ => exact agree_pure ⟨rfl, rfl, rfl⟩

theorem agree_toNext (same : p.Alike q) : Agree Parsed.Alike (toNext p) (toNext q) := by
  refine agree_bind (agree_discharge same) fun p q same => ?_
  rw [same.held]
  refine (nameless_release _).bind fun _ => ?_
  exact (nameless_reserve _).bind fun _ => agree_pure ⟨rfl, rfl, rfl⟩

theorem agree_toAny (same : p.Alike q) : Agree Parsed.Alike (toAny p) (toAny q) := by
  refine agree_bind (agree_discharge same) fun p q same => ?_
  rw [same.form]
  split
  · exact agree_pure same
  · exact (nameless_reserve _).bind fun _ => agree_pure ⟨rfl, rfl, rfl⟩

theorem agree_toAnyOrCaptured (same : p.Alike q) :
    Agree Parsed.Alike (toAnyOrCaptured p) (toAnyOrCaptured q) := by
  unfold toAnyOrCaptured
  rw [same.form]
  split
  · exact agree_pure same
  · exact agree_toAny same

theorem agree_toAnyOrConst (same : p.Alike q) :
    Agree Parsed.Alike (toAnyOrConst p) (toAnyOrConst q) := by
  refine agree_bind (agree_discharge same) fun p q same => ?_
  rw [same.form]
  split
  · exact agree_pure same
  · exact agree_toAny same

theorem agree_finish (same : p.Alike q) : Agree Unseen (finish p) (finish q) := by
  refine agree_bind (agree_discharge same) fun p q same => ?_
  rw [same.held]
  exact (nameless_release _).bind fun _ => agree_pure trivial

theorem agree_indexed {key otherKey : Parsed} (same : p.Alike q) (sameKey : key.Alike otherKey) :
    Agree Parsed.Alike (indexed p key) (indexed q otherKey) := by
  have last (isShort : Bool) (p q : Parsed) (same : p.Alike q) : Agree Parsed.Alike (do
      let key ← if isShort then pure key else toAny key
      return ⟨.index p.expr key.expr 0, .indexed, p.held + key.held⟩) (do
      let key ← if isShort then pure otherKey else toAny otherKey
      return ⟨.index q.expr key.expr 0, .indexed, q.held + key.held⟩) := by
    refine agree_ite_bind (agree_pure sameKey) (agree_toAny sameKey) ?_
    intro key otherKey sameKey
    exact agree_pure ⟨rfl, by rw [same.held, sameKey.held], rfl⟩
  unfold indexed
  rw [same.form, sameKey.value?]
  dsimp only
  split
  · exact agree_ite_bind (agree_pure same) (agree_toAny same) (last _)
  · exact agree_bind (agree_pure same) (last _)

theorem nameless_localVariable? (name : Bytes) : Nameless (localVariable? name) := by
  refine (nameless_meaning name).bind fun meaning => ?_
  cases meaning with
  | slot found =>
      dsimp only
      split <;> exact agree_pure rfl
  | captured index kind => exact agree_pure rfl
  | global => exact agree_pure rfl

theorem nameless_variableNamed (name : Bytes) : Nameless (variableNamed name) Parsed.Alike := by
  refine (nameless_localVariable? name).bind fun found => ?_
  cases found with
  | some p => exact agree_pure (.refl p)
  | none =>
      refine (nameless_localVariable? _).bind fun environment => ?_
      exact agree_bind (agree_toAnyOrCaptured (.refl _)) fun _ _ same =>
        agree_indexed same (.refl _)

theorem nameless_singleVariable : Nameless singleVariable Parsed.Alike :=
  nameless_expectName.bind fun name => nameless_variableNamed name

theorem agree_checkWritable (same : p.Alike q) :
    Agree Eq (checkWritable p) (checkWritable q) := by
  unfold checkWritable
  rw [same.readOnlyName?]
  split
  · exact agree_failMeaning _
  · exact agree_pure rfl

theorem nameless_blockEnds (untilEnds : Bool) : Nameless (blockEnds untilEnds) := by
  refine nameless_token.bind fun token => ?_
  split <;> exact agree_pure rfl

theorem agree_closeList {done others : List Expr} (sameDone : SameLength done others)
    (same : p.Alike q) : Agree SameLength (closeList done p) (closeList others q) := by
  have closed (expr other : Expr) :
      SameLength (expr :: done).reverse (other :: others).reverse := by
    simpa [SameLength] using sameDone
  unfold closeList
  refine agree_ite (by rw [same.isMulti]) (agree_pure (closed _ _)) ?_
  exact agree_bind (agree_toNext same) fun _ _ _ => agree_pure (closed _ _)

theorem agree_selection (same : p.Alike q) :
    Agree Parsed.Alike (selection p) (selection q) := by
  refine agree_bind (agree_toAnyOrCaptured same) fun p q same => ?_
  refine nameless_advance.bind fun _ => ?_
  exact nameless_expectName.bind fun name => agree_indexed same (.refl _)

theorem nameless_declareAll (names : List (Bytes × VariableKind)) :
    Nameless (declareAll names) := by
  unfold declareAll
  induction names with
  | nil => exact agree_pure rfl
  | cons name names ih =>
      rw [List.forM]
      refine Nameless.bind ?_ fun _ => ih
      exact (nameless_declare _ _).bind fun _ => agree_pure rfl

theorem nameless_times {run : Read Unit} (nameless : Nameless run) (n : Nat) :
    Nameless (times run n) := by
  induction n with
  | zero => exact agree_pure rfl
  | succ n ih => exact nameless.bind fun _ => ih

theorem nameless_announceAll (n : Nat) : Nameless (announceAll n) :=
  nameless_times nameless_announce n

theorem agree_adjust (count : Nat) {done others : List Expr} (sameDone : SameLength done others)
    (same : p.Alike q) : Agree Unseen (adjust count done p) (adjust count others q) := by
  have last (given : Nat) (p q : Parsed) : Agree Unseen (do
      if given > count then release (given - count)
      return (p.expr :: done).reverse) (do
      if given > count then release (given - count)
      return (q.expr :: others).reverse) :=
    agree_when (nameless_release _) (agree_pure trivial)
  unfold adjust
  dsimp only
  rw [sameDone.symm]
  refine agree_ite (by rw [same.isMulti]) ?_ ?_
  · rw [same.held]
    refine (nameless_release _).bind fun _ => ?_
    refine agree_when (nameless_reserve _) ?_
    exact agree_bind (agree_pure same) fun p q _ => last _ p q
  · refine agree_bind (agree_toNext same) fun p q same => ?_
    refine agree_when (nameless_reserve _) ?_
    exact agree_bind (agree_pure same) fun p q _ => last _ p q

theorem nameless_variableAttribute : Nameless variableAttribute := by
  refine (nameless_accept _).bind fun hasAttribute => ?_
  refine agree_ite Iff.rfl ?_ (agree_pure rfl)
  refine nameless_expectName.bind fun name => ?_
  refine (nameless_expect _).bind fun _ => ?_
  refine agree_ite Iff.rfl (agree_pure rfl) ?_
  exact agree_ite Iff.rfl (agree_pure rfl) (agree_failMeaning _)

theorem nameless_findLabel? (name : Bytes) : Nameless (findLabel? name) :=
  nameless_scope.bind fun _ => agree_pure rfl

theorem nameless_noteJump (label : Option Bytes) (start : Nat) : Nameless (noteJump label start) :=
  nameless_modifyScope _

theorem nameless_declareConstant (name : Bytes) (value : Constant) :
    Nameless (declareConstant name value) :=
  nameless_modifyScope _

theorem nameless_jumpStatement : Nameless jumpStatement Unseen := by
  refine nameless_line.bind fun start => ?_
  refine nameless_expectName.bind fun name => ?_
  refine (nameless_findLabel? name).bind fun label => ?_
  exact agree_when (nameless_noteJump _ _) (agree_pure trivial)

/-! ## Lists of names -/

theorem nameless_parameters (fuel : Nat) (names : List Bytes) :
    Nameless (parameters fuel names) := by
  induction fuel generalizing names with
  | zero => exact agree_pure rfl
  | succ fuel ih =>
      refine nameless_token.bind fun token => ?_
      split
      · refine nameless_expectName.bind fun name => ?_
        refine nameless_announce.bind fun _ => ?_
        exact nameless_acceptComma.bind fun _ => agree_ite Iff.rfl (ih _) (agree_pure rfl)
      · exact nameless_advance.bind fun _ => agree_pure rfl
      · exact agree_failText _

theorem nameless_moreNames (fuel : Nat) (names : List Bytes) : Nameless (moreNames fuel names) := by
  induction fuel generalizing names with
  | zero => exact agree_pure rfl
  | succ fuel ih =>
      refine nameless_acceptComma.bind fun isMore => ?_
      refine agree_ite Iff.rfl ?_ (agree_pure rfl)
      refine nameless_expectName.bind fun name => ?_
      exact nameless_announce.bind fun _ => ih _

theorem agree_functionFields (fuel : Nat) (same : p.Alike q) :
    Agree Parsed.Alike (functionFields fuel p) (functionFields fuel q) := by
  induction fuel generalizing p q with
  | zero => exact agree_pure same
  | succ fuel ih =>
      refine nameless_token.bind fun token => ?_
      refine agree_ite Iff.rfl ?_ (agree_pure same)
      exact agree_bind (agree_selection same) fun _ _ same => ih same

theorem nameless_attributedNames (fuel : Nat) (names : List (Bytes × VariableKind)) :
    Nameless (attributedNames fuel names) := by
  induction fuel generalizing names with
  | zero => exact agree_pure rfl
  | succ fuel ih =>
      refine nameless_expectName.bind fun name => ?_
      refine nameless_announce.bind fun _ => ?_
      refine nameless_variableAttribute.bind fun kind => ?_
      refine agree_when (agree_failMeaning _) ?_
      exact nameless_acceptComma.bind fun _ => agree_ite Iff.rfl (ih _) (agree_pure rfl)

/-! ## Operators -/

theorem agree_applyUnary (op : UnaryOp) (same : p.Alike q) (start : Nat) :
    Agree Parsed.Alike (applyUnary op p start) (applyUnary op q start) := by
  have applied {p q : Parsed} (same : p.Alike q) : Agree Parsed.Alike (do
      let operand ← toAny p
      release operand.held
      return ⟨.unary op operand.expr start, .loose, 0⟩) (do
      let operand ← toAny q
      release operand.held
      return ⟨.unary op operand.expr start, .loose, 0⟩) := by
    refine agree_bind (agree_toAny same) fun p q same => ?_
    rw [same.held]
    exact (nameless_release _).bind fun _ => agree_pure ⟨rfl, rfl, rfl⟩
  refine agree_bind (agree_discharge same) fun p q same => ?_
  rw [same.value?]
  split
  · exact agree_pure (.refl _)
  · split
    · exact agree_pure (.refl _)
    · exact applied same
  · exact applied same

theorem agree_prepareLeft (op : Operator.Infix) (same : p.Alike q) :
    Agree Parsed.Alike (prepareLeft op p) (prepareLeft op q) := by
  refine agree_bind (agree_discharge same) fun p q same => ?_
  obtain ⟨expr, rfl⟩ := same.exists_expr
  have freed : Agree Parsed.Alike (do
      release p.held
      return { p with held := 0 }) (do
      release p.held
      return { p with expr, held := 0 }) :=
    (nameless_release _).bind fun _ => agree_pure ⟨rfl, rfl, same.value?⟩
  split
  · dsimp only
    split
    · exact agree_pure same
    · exact freed
  · dsimp only
    split
    · exact agree_pure same
    · exact freed
  · exact agree_toNext same
  · exact agree_toAnyOrConst same
  · exact agree_toAnyOrConst same
  · exact agree_ite (by rw [same.isNumeral]) (agree_pure same) (agree_toAny same)

/-- An operator that may not need its right operand, when the left one may be a constant. -/
theorem agree_shortcut {left otherLeft : Parsed} (sameLeft : left.Alike otherLeft)
    (same : p.Alike q) (isEnough : Constant → Bool) {joined otherJoined : Expr}
    (sameJoined : ∀ form held, (⟨joined, form, held⟩ : Parsed).value? =
      (⟨otherJoined, form, held⟩ : Parsed).value?) :
    let whole (joined : Expr) (right : Parsed) : Read Parsed :=
      pure ⟨joined, if right.held == 0 then .loose else .placed, right.held⟩
    Agree Parsed.Alike
      (match left.form, left.expr with
        | .const, .const value => if isEnough value then pure p else whole joined p
        | _, _ => whole joined p)
      (match otherLeft.form, otherLeft.expr with
        | .const, .const value => if isEnough value then pure q else whole otherJoined q
        | _, _ => whole otherJoined q) := by
  intro whole
  have wholes : Agree Parsed.Alike (whole joined p) (whole otherJoined q) := by
    simp only [whole]
    rw [same.held]
    exact agree_pure ⟨rfl, rfl, sameJoined _ _⟩
  by_cases known : ∃ value, left.form = .const ∧ left.expr = .const value
  · obtain ⟨value, isConst⟩ := known
    obtain ⟨form', expr'⟩ := (sameLeft.const_iff value).mp isConst
    rw [isConst.1, isConst.2, form', expr']
    exact agree_ite Iff.rfl (agree_pure same) wholes
  · split
    next value form expr => exact absurd ⟨value, form, expr⟩ known
    next =>
      split
      next value form expr =>
        exact absurd ⟨value, (sameLeft.const_iff value).mpr ⟨form, expr⟩⟩ known
      next => exact wholes

theorem agree_applyInfix (op : Operator.Infix) {left otherLeft : Parsed}
    (sameLeft : left.Alike otherLeft) (same : p.Alike q) (start : Nat) :
    Agree Parsed.Alike (applyInfix op left p start) (applyInfix op otherLeft q start) := by
  refine agree_bind (agree_discharge same) fun p q same => ?_
  split
  · refine agree_shortcut sameLeft same Constant.truthy fun form held => ?_
    cases form <;> rfl
  · refine agree_shortcut sameLeft same (fun value => !value.truthy) fun form held => ?_
    cases form <;> rfl
  · refine agree_bind (agree_toNext same) fun p q same => ?_
    exact (nameless_release _).bind fun _ => agree_pure ⟨rfl, rfl, rfl⟩
  · dsimp only
    rw [sameLeft.value?, same.value?]
    split
    · exact agree_pure (.refl _)
    · refine agree_bind (agree_toAnyOrConst same) fun p q same => ?_
      rw [sameLeft.held, same.held]
      refine (nameless_release _).bind fun _ => ?_
      exact agree_get_bind fun _ _ => agree_pure ⟨rfl, rfl, rfl⟩

end Read

/-- The readers of nested constructs agree under other names. -/
structure Reader.IsNameless (r : Reader) : Prop where
  expression : ∀ limit, Nameless (r.expression limit) Parsed.Alike
  block : Nameless r.block Unseen

namespace Read

variable {r : Reader} {p q : Parsed}

theorem nameless_expression (inner : r.IsNameless) : Nameless (expression r) Parsed.Alike :=
  inner.expression 0

/-! ## Expressions -/

theorem agree_moreExpressions (inner : r.IsNameless) (fuel : Nat) {done others : List Expr}
    (sameDone : SameLength done others) (same : p.Alike q) :
    Agree ListedAlike (moreExpressions r fuel done p) (moreExpressions r fuel others q) := by
  induction fuel generalizing done others p q with
  | zero => exact agree_pure ⟨sameDone, same⟩
  | succ fuel ih =>
      refine nameless_acceptComma.bind fun isMore => ?_
      refine agree_ite Iff.rfl ?_ (agree_pure ⟨sameDone, same⟩)
      refine agree_bind (agree_toNext same) fun _ _ _ => ?_
      refine agree_bind (nameless_expression inner) fun next otherNext sameNext => ?_
      exact ih (congrArg (· + 1) sameDone) sameNext

theorem nameless_expressions (inner : r.IsNameless) : Nameless (expressions r) ListedAlike := by
  refine agree_bind (nameless_expression inner) fun first otherFirst same => ?_
  exact agree_get_bind fun s _ => agree_moreExpressions inner s.size rfl same

theorem nameless_bracketed (inner : r.IsNameless) : Nameless (bracketed r) Parsed.Alike := by
  refine nameless_advance.bind fun _ => ?_
  refine agree_bind (nameless_expression inner) fun key otherKey same => ?_
  refine agree_bind (agree_discharge same) fun key otherKey same => ?_
  exact (nameless_expect _).bind fun _ => agree_pure same

/-- Of a constructor readers ask for the item that waits, and how many stand on the frame. -/
structure Constructor.Alike (c d : Constructor) : Prop where
  pending : (c.pending = none ∧ d.pending = none) ∨
    ∃ p q, c.pending = some p ∧ d.pending = some q ∧ p.Alike q
  stacked : c.stacked = d.stacked

variable {c d : Constructor}

theorem agree_placeItem (same : c.Alike d) :
    Agree Constructor.Alike (placeItem c) (placeItem d) := by
  unfold placeItem
  rcases same.pending with ⟨none, none'⟩ | ⟨p, q, some, some', sameItem⟩
  · rw [none, none']
    exact agree_pure same
  · rw [some, some', same.stacked]
    refine agree_bind (agree_toNext sameItem) fun p q _ => ?_
    refine agree_ite Iff.rfl ?_ (agree_pure ⟨.inl ⟨rfl, rfl⟩, rfl⟩)
    exact (nameless_release _).bind fun _ => agree_pure ⟨.inl ⟨rfl, rfl⟩, rfl⟩

theorem agree_keyedField (inner : r.IsNameless) (same : c.Alike d) {readKey : Read Parsed}
    (agree : Nameless readKey Parsed.Alike) :
    Agree Constructor.Alike (keyedField r c readKey) (keyedField r d readKey) := by
  refine nameless_scope.bind fun scope => ?_
  refine agree_bind agree fun key otherKey sameKey => ?_
  refine (nameless_expect _).bind fun _ => ?_
  refine agree_bind (agree_toAnyOrConst sameKey) fun key otherKey sameKey => ?_
  refine agree_bind (nameless_expression inner) fun value otherValue sameValue => ?_
  refine agree_bind (agree_toAnyOrConst sameValue) fun value otherValue sameValue => ?_
  refine (nameless_modifyScope _).bind fun _ => ?_
  exact agree_get_bind fun _ _ => agree_pure ⟨same.pending, same.stacked⟩

theorem agree_field (inner : r.IsNameless) (same : c.Alike d) :
    Agree Constructor.Alike (field r c) (field r d) := by
  have item : Agree Constructor.Alike (do
      let item ← expression r
      return { c with pending := some item }) (do
      let item ← expression r
      return { d with pending := some item }) :=
    agree_bind (nameless_expression inner) fun p q sameItem =>
      agree_pure ⟨.inr ⟨p, q, rfl, rfl, sameItem⟩, same.stacked⟩
  refine nameless_token.bind fun token => ?_
  split
  · refine nameless_lookAhead.bind fun ahead => ?_
    refine agree_ite Iff.rfl (agree_keyedField inner same ?_) item
    exact nameless_expectName.bind fun name => agree_pure (.refl _)
  · exact agree_keyedField inner same (nameless_bracketed inner)
  · exact item

theorem agree_fields (inner : r.IsNameless) (fuel : Nat) (same : c.Alike d) :
    Agree Constructor.Alike (fields r fuel c) (fields r fuel d) := by
  induction fuel generalizing c d with
  | zero => exact agree_pure same
  | succ fuel ih =>
      refine nameless_token.bind fun token => ?_
      refine agree_ite Iff.rfl (agree_pure same) ?_
      refine agree_bind (agree_placeItem same) fun c d same => ?_
      refine agree_bind (agree_field inner same) fun c d same => ?_
      refine (nameless_accept _).bind fun comma => agree_ite Iff.rfl (ih same) ?_
      exact (nameless_accept _).bind fun semicolon =>
        agree_ite Iff.rfl (ih same) (agree_pure same)

theorem nameless_tableConstructor (inner : r.IsNameless) :
    Nameless (tableConstructor r) Parsed.Alike := by
  have built (fields others : List Field) : Agree Parsed.Alike
      (pure ⟨.table fields.reverse, .placed, 1⟩) (pure ⟨.table others.reverse, .placed, 1⟩) :=
    agree_pure ⟨rfl, rfl, rfl⟩
  refine nameless_line.bind fun start => ?_
  refine (nameless_reserve _).bind fun _ => ?_
  refine (nameless_expect _).bind fun _ => ?_
  refine agree_get_bind fun s _ => ?_
  refine agree_bind (agree_fields inner s.size ⟨.inl ⟨rfl, rfl⟩, rfl⟩) fun c d same => ?_
  refine (nameless_expectClosing _ _ _).bind fun _ => ?_
  rcases same.pending with ⟨none, none'⟩ | ⟨p, q, some, some', sameItem⟩
  · rw [none, none', same.stacked]
    refine (nameless_release _).bind fun _ => ?_
    exact agree_bind (agree_unseen _ _) fun _ _ _ => built _ _
  · rw [some, some', same.stacked]
    dsimp only
    refine agree_ite (by rw [sameItem.isMulti]) ?_ ?_
    · rw [sameItem.held]
      refine (nameless_release _).bind fun _ => ?_
      exact agree_bind (agree_unseen _ _) fun _ _ _ => built _ _
    · refine agree_bind (agree_toNext sameItem) fun _ _ _ => ?_
      refine (nameless_release _).bind fun _ => ?_
      exact agree_bind (agree_unseen _ _) fun _ _ _ => built _ _

theorem nameless_arguments (inner : r.IsNameless) (base : Nat) :
    Nameless (arguments r base) SameLength := by
  have given (arguments others : List Expr) (same : SameLength arguments others) :
      Agree SameLength (do
        modifyScope fun s => { s with used := base + 1 }
        return arguments) (do
        modifyScope fun s => { s with used := base + 1 }
        return others) :=
    (nameless_modifyScope _).bind fun _ => agree_pure same
  refine nameless_line.bind fun start => ?_
  refine nameless_token.bind fun token => ?_
  split
  · refine nameless_advance.bind fun _ => ?_
    refine nameless_token.bind fun token => ?_
    refine agree_ite Iff.rfl ?_ ?_
    · refine (nameless_expectClosing _ _ _).bind fun _ => ?_
      exact agree_bind (agree_pure (show SameLength [] [] from rfl)) given
    · refine agree_bind (nameless_expressions inner) fun listed others same => ?_
      refine (nameless_expectClosing _ _ _).bind fun _ => ?_
      exact agree_bind (agree_closeList same.done same.last) given
  · refine agree_bind (nameless_tableConstructor inner) fun table other same => ?_
    exact agree_bind (agree_closeList rfl same) given
  · refine nameless_advance.bind fun _ => ?_
    exact agree_bind (agree_closeList rfl (.refl _)) given
  · exact agree_bind (agree_failText _) given

theorem nameless_primary (inner : r.IsNameless) : Nameless (primary r) Parsed.Alike := by
  refine nameless_token.bind fun token => ?_
  split
  · exact nameless_singleVariable
  · refine nameless_line.bind fun start => ?_
    refine nameless_advance.bind fun _ => ?_
    refine agree_bind (nameless_expression inner) fun inside other same => ?_
    refine (nameless_expectClosing _ _ _).bind fun _ => ?_
    have isMulti := same.isMulti
    refine agree_bind (agree_discharge same) fun inside other same => ?_
    rw [isMulti]
    split
    · obtain ⟨expr, rfl⟩ := same.exists_expr
      refine agree_pure ⟨rfl, rfl, ?_⟩
      obtain ⟨_, form, _⟩ := inside
      cases form <;> rfl
    · exact agree_pure same
  · exact agree_failText _

theorem agree_methodCall (inner : r.IsNameless) (same : p.Alike q) :
    Agree Parsed.Alike (methodCall r p) (methodCall r q) := by
  refine nameless_advance.bind fun _ => ?_
  refine nameless_expectName.bind fun name => ?_
  refine agree_get_bind fun s _ => ?_
  refine agree_bind (agree_toAny same) fun p q same => ?_
  rw [same.held]
  refine (nameless_release _).bind fun _ => ?_
  refine nameless_scope.bind fun scope => ?_
  refine (nameless_reserve _).bind fun _ => ?_
  refine nameless_line.bind fun start => ?_
  exact agree_bind (nameless_arguments inner _) fun _ _ _ => agree_pure ⟨rfl, rfl, rfl⟩

theorem agree_functionCall (inner : r.IsNameless) (same : p.Alike q) :
    Agree Parsed.Alike (functionCall r p) (functionCall r q) := by
  refine agree_bind (agree_toNext same) fun p q same => ?_
  refine nameless_scope.bind fun scope => ?_
  refine nameless_line.bind fun start => ?_
  exact agree_bind (nameless_arguments inner _) fun _ _ _ => agree_pure ⟨rfl, rfl, rfl⟩

theorem agree_suffixes (inner : r.IsNameless) (fuel : Nat) (same : p.Alike q) :
    Agree Parsed.Alike (suffixes r fuel p) (suffixes r fuel q) := by
  induction fuel generalizing p q with
  | zero => exact agree_pure same
  | succ fuel ih =>
      refine nameless_token.bind fun token => ?_
      split
      · exact agree_bind (agree_selection same) fun _ _ same => ih same
      · refine agree_bind (agree_toAnyOrCaptured same) fun _ _ same => ?_
        refine agree_bind (nameless_bracketed inner) fun _ _ sameKey => ?_
        exact agree_bind (agree_indexed same sameKey) fun _ _ same => ih same
      · exact agree_bind (agree_methodCall inner same) fun _ _ same => ih same
      · exact agree_bind (agree_functionCall inner same) fun _ _ same => ih same
      · exact agree_bind (agree_functionCall inner same) fun _ _ same => ih same
      · exact agree_bind (agree_functionCall inner same) fun _ _ same => ih same
      · exact agree_pure same

theorem nameless_suffixed (inner : r.IsNameless) : Nameless (suffixed r) Parsed.Alike := by
  refine agree_bind (nameless_primary inner) fun p q same => ?_
  exact agree_get_bind fun s _ => agree_suffixes inner s.size same

theorem nameless_functionBody (inner : r.IsNameless) (isMethod : Bool) (start : Nat) :
    Nameless (functionBody r isMethod start) Unseen := by
  have body (result : List Bytes × Bool) : Nameless (do
      declareAll (result.1.reverse.map fun name => (name, .regular))
      modifyScope fun s => { s with isVariadic := result.2 }
      let count := (← scope).bindings.size
      reserve count
      expect (.symbol 0x29)
      let body ← r.block
      expectClosing (.keyword .kEnd) (.keyword .kFunction) start
      let labelled ← hasLabels
      let info ← closeFunction count
      return Code.mk info labelled body) Unseen := by
    refine (nameless_declareAll _).bind fun _ => ?_
    refine (nameless_modifyScope _).bind fun _ => ?_
    refine nameless_scope.bind fun scope => ?_
    refine (nameless_reserve _).bind fun _ => ?_
    refine (nameless_expect _).bind fun _ => ?_
    refine agree_bind inner.block fun _ _ _ => ?_
    refine (nameless_expectClosing _ _ _).bind fun _ => ?_
    refine nameless_hasLabels.bind fun labelled => ?_
    exact agree_bind (nameless_closeFunction _) fun _ _ _ => agree_pure trivial
  have later {rest : List Bytes × Bool → Read Code}
      (nameless : ∀ result, Nameless (rest result) Unseen) : Nameless (do
        if (← token) == .symbol 0x29 then pure ([], false) >>= rest
        else parameters (← get).size [] >>= rest) Unseen := by
    refine nameless_token.bind fun token => ?_
    refine agree_ite Iff.rfl ((nameless_pure _).bind nameless) ?_
    exact agree_get_bind fun s _ => (nameless_parameters s.size []).bind nameless
  refine (nameless_openFunction start).bind fun _ => ?_
  refine (nameless_expect _).bind fun _ => ?_
  dsimp only
  refine agree_ite Iff.rfl ?_ (later body)
  refine nameless_announce.bind fun _ => ?_
  exact (nameless_declareAll _).bind fun _ => later body

theorem nameless_simple (inner : r.IsNameless) : Nameless (simple r) Parsed.Alike := by
  have constant (value : Constant) : Nameless (do
      advance
      return Parsed.ofValue value) Parsed.Alike :=
    nameless_advance.bind fun _ => agree_pure (.refl _)
  have variadic : Nameless (do
      advance
      return ⟨.variadic, .variadic, 0⟩) Parsed.Alike :=
    nameless_advance.bind fun _ => agree_pure (.refl _)
  refine nameless_token.bind fun token => ?_
  split
  · exact constant _
  · exact constant _
  · exact constant _
  · exact constant _
  · exact constant _
  · refine nameless_scope.bind fun scope => ?_
    exact agree_unless (agree_failText _) variadic
  · exact nameless_tableConstructor inner
  · refine nameless_advance.bind fun _ => ?_
    refine nameless_line.bind fun start => ?_
    refine agree_bind (nameless_functionBody inner _ _) fun _ _ _ => ?_
    exact (nameless_reserve _).bind fun _ => agree_pure ⟨rfl, rfl, rfl⟩
  · exact nameless_suffixed inner

theorem agree_operators (inner : r.IsNameless) (limit fuel : Nat) (same : p.Alike q) :
    Agree Parsed.Alike (operators r limit fuel p) (operators r limit fuel q) := by
  induction fuel generalizing p q with
  | zero => exact agree_pure same
  | succ fuel ih =>
      refine nameless_token.bind fun token => ?_
      split
      · exact agree_pure same
      · refine agree_ite Iff.rfl ?_ (agree_pure same)
        refine nameless_line.bind fun start => ?_
        refine nameless_advance.bind fun _ => ?_
        refine agree_bind (agree_prepareLeft _ same) fun _ _ sameLeft => ?_
        refine agree_bind (inner.expression _) fun _ _ sameRight => ?_
        exact agree_bind (agree_applyInfix _ sameLeft sameRight _) fun _ _ same => ih same

theorem nameless_subexpression (inner : r.IsNameless) (limit : Nat) :
    Nameless (subexpression r limit) Parsed.Alike := by
  have rest (first other : Parsed) (same : first.Alike other) : Agree Parsed.Alike (do
      let whole ← operators r limit (← get).size first
      leave
      return whole) (do
      let whole ← operators r limit (← get).size other
      leave
      return whole) := by
    refine agree_get_bind fun s _ => ?_
    refine agree_bind (agree_operators inner limit s.size same) fun _ _ same => ?_
    exact nameless_leave.bind fun _ => agree_pure same
  refine nameless_enter.bind fun _ => ?_
  refine nameless_token.bind fun token => ?_
  split
  · refine nameless_line.bind fun start => ?_
    refine nameless_advance.bind fun _ => ?_
    refine agree_bind (inner.expression _) fun _ _ same => ?_
    exact agree_bind (agree_applyUnary _ same _) rest
  · exact agree_bind (nameless_simple inner) rest

/-! ## Statements -/

theorem nameless_block (inner : r.IsNameless) (isLoop : Bool) :
    Nameless (block r isLoop) Unseen := by
  refine (nameless_openBlock _).bind fun _ => ?_
  refine agree_bind inner.block fun _ _ _ => ?_
  refine nameless_hasLabels.bind fun labelled => ?_
  exact nameless_closeBlock.bind fun _ => agree_pure trivial

theorem nameless_condition (inner : r.IsNameless) : Nameless (condition r) Unseen :=
  agree_bind (nameless_expression inner) fun _ _ same => agree_finish same

theorem nameless_clause (inner : r.IsNameless) : Nameless (clause r) Unseen := by
  refine nameless_advance.bind fun _ => ?_
  refine agree_bind (nameless_expression inner) fun _ _ same => ?_
  refine (nameless_expect _).bind fun _ => ?_
  refine agree_bind (agree_finish same) fun _ _ _ => ?_
  exact agree_bind (nameless_block inner false) fun _ _ _ => agree_pure trivial

theorem agree_clauses (inner : r.IsNameless) (fuel : Nat) (done others : List Clause) :
    Agree Unseen (clauses r fuel done) (clauses r fuel others) := by
  induction fuel generalizing done others with
  | zero => exact agree_pure trivial
  | succ fuel ih =>
      refine nameless_token.bind fun token => ?_
      refine agree_ite Iff.rfl (agree_bind (nameless_clause inner) fun _ _ _ => ih _ _) ?_
      refine (nameless_accept _).bind fun isLast => ?_
      refine agree_ite Iff.rfl ?_ (agree_pure trivial)
      exact agree_bind (nameless_block inner false) fun _ _ _ => agree_pure trivial

theorem nameless_conditional (inner : r.IsNameless) (start : Nat) :
    Nameless (conditional r start) Unseen := by
  refine agree_bind (nameless_clause inner) fun _ _ _ => ?_
  refine agree_get_bind fun s _ => ?_
  refine agree_bind (agree_clauses inner s.size _ _) fun _ _ _ => ?_
  exact (nameless_expectClosing _ _ _).bind fun _ => agree_pure trivial

theorem nameless_whileLoop (inner : r.IsNameless) (start : Nat) :
    Nameless (whileLoop r start) Unseen := by
  refine nameless_advance.bind fun _ => ?_
  refine agree_bind (nameless_condition inner) fun _ _ _ => ?_
  refine (nameless_openBlock _).bind fun _ => ?_
  refine (nameless_expect _).bind fun _ => ?_
  refine agree_bind (nameless_block inner false) fun _ _ _ => ?_
  refine (nameless_expectClosing _ _ _).bind fun _ => ?_
  exact nameless_closeBlock.bind fun _ => agree_pure trivial

theorem nameless_repeatLoop (inner : r.IsNameless) (start : Nat) :
    Nameless (repeatLoop r start) Unseen := by
  refine (nameless_openBlock _).bind fun _ => ?_
  refine (nameless_openBlock _).bind fun _ => ?_
  refine nameless_advance.bind fun _ => ?_
  refine agree_bind inner.block fun _ _ _ => ?_
  refine (nameless_expectClosing _ _ _).bind fun _ => ?_
  refine agree_bind (nameless_condition inner) fun _ _ _ => ?_
  refine nameless_hasLabels.bind fun labelled => ?_
  refine nameless_closeBlock.bind fun _ => ?_
  exact nameless_closeBlock.bind fun _ => agree_pure trivial

theorem nameless_placedExpression (inner : r.IsNameless) :
    Nameless (placedExpression r) Unseen := by
  refine agree_bind (nameless_expression inner) fun _ _ same => ?_
  exact agree_bind (agree_toNext same) fun _ _ _ => agree_pure trivial

theorem nameless_loopBody (inner : r.IsNameless) (names : List Bytes) :
    Nameless (loopBody r names) Unseen := by
  refine (nameless_openBlock _).bind fun _ => ?_
  refine nameless_scope.bind fun scope => ?_
  refine (nameless_declareAll _).bind fun _ => ?_
  refine (nameless_reserve _).bind fun _ => ?_
  refine agree_bind (nameless_block inner false) fun _ _ _ => ?_
  exact nameless_closeBlock.bind fun _ => agree_pure trivial

theorem nameless_countingLoop (inner : r.IsNameless) (name : Bytes) :
    Nameless (countingLoop r name) Unseen := by
  have body (start stop step start' stop' step' : Expr) : Agree Unseen (do
      declareAll (List.replicate 3 (hiddenName, .regular))
      expect (.keyword .kDo)
      let line := (← get).lastLine
      let result ← loopBody r [name]
      return Stmt.count result.1 start stop step result.2.1 result.2.2 line) (do
      declareAll (List.replicate 3 (hiddenName, .regular))
      expect (.keyword .kDo)
      let line := (← get).lastLine
      let result ← loopBody r [name]
      return Stmt.count result.1 start' stop' step' result.2.1 result.2.2 line) := by
    refine (nameless_declareAll _).bind fun _ => ?_
    refine (nameless_expect _).bind fun _ => ?_
    refine agree_get_bind fun s _ => ?_
    exact agree_bind (nameless_loopBody inner _) fun _ _ _ => agree_pure trivial
  refine (nameless_announceAll _).bind fun _ => ?_
  refine (nameless_expect _).bind fun _ => ?_
  refine agree_bind (nameless_placedExpression inner) fun start start' _ => ?_
  refine (nameless_expect _).bind fun _ => ?_
  refine agree_bind (nameless_placedExpression inner) fun stop stop' _ => ?_
  refine nameless_acceptComma.bind fun isLong => ?_
  refine agree_ite Iff.rfl ?_ ?_
  · exact agree_bind (nameless_placedExpression inner) fun step step' _ => body _ _ _ _ _ _
  · refine (nameless_reserve _).bind fun _ => ?_
    exact (nameless_pure _).bind fun step => body _ _ _ _ _ _

theorem nameless_iteratingLoop (inner : r.IsNameless) (name : Bytes) :
    Nameless (iteratingLoop r name) Unseen := by
  refine (nameless_announceAll _).bind fun _ => ?_
  refine agree_get_bind fun s _ => ?_
  refine (nameless_moreNames s.size [name]).bind fun names => ?_
  refine (nameless_expect _).bind fun _ => ?_
  refine nameless_line.bind fun line => ?_
  refine nameless_scope.bind fun scope => ?_
  refine agree_bind (nameless_expressions inner) fun _ _ same => ?_
  refine agree_bind (agree_adjust _ same.done same.last) fun _ _ _ => ?_
  refine (nameless_declareAll _).bind fun _ => ?_
  refine nameless_markClosing.bind fun _ => ?_
  refine (nameless_reserve _).bind fun _ => ?_
  refine (nameless_release _).bind fun _ => ?_
  refine (nameless_expect _).bind fun _ => ?_
  exact agree_bind (nameless_loopBody inner _) fun _ _ _ => agree_pure trivial

theorem nameless_forLoop (inner : r.IsNameless) (start : Nat) :
    Nameless (forLoop r start) Unseen := by
  have closes (loop other : Stmt) (_ : Unseen loop other) : Agree Unseen (do
      expectClosing (.keyword .kEnd) (.keyword .kFor) start
      closeBlock
      return loop) (do
      expectClosing (.keyword .kEnd) (.keyword .kFor) start
      closeBlock
      return other) := by
    refine (nameless_expectClosing _ _ _).bind fun _ => ?_
    exact nameless_closeBlock.bind fun _ => agree_pure trivial
  refine (nameless_openBlock _).bind fun _ => ?_
  refine nameless_advance.bind fun _ => ?_
  refine nameless_expectName.bind fun name => ?_
  refine nameless_token.bind fun token => ?_
  split
  · exact agree_bind (nameless_countingLoop inner name) closes
  · exact agree_bind (nameless_iteratingLoop inner name) closes
  · exact agree_bind (nameless_iteratingLoop inner name) closes
  · exact agree_bind (agree_failText _) closes

theorem nameless_functionStatement (inner : r.IsNameless) (start : Nat) :
    Nameless (functionStatement r start) Unseen := by
  have defines (target other : Parsed) (isMethod : Bool) (same : target.Alike other) :
      Agree Unseen (do
        checkWritable target
        let code ← functionBody r isMethod start
        return Stmt.assign [settled start target.expr] [.function code] start) (do
        checkWritable other
        let code ← functionBody r isMethod start
        return Stmt.assign [settled start other.expr] [.function code] start) := by
    refine agree_bind (agree_checkWritable same) fun _ _ _ => ?_
    exact agree_bind (nameless_functionBody inner _ _) fun _ _ _ => agree_pure trivial
  refine nameless_advance.bind fun _ => ?_
  refine agree_bind nameless_singleVariable fun _ _ same => ?_
  refine agree_get_bind fun s _ => ?_
  refine agree_bind (agree_functionFields s.size same) fun target other same => ?_
  refine nameless_token.bind fun token => ?_
  refine agree_ite Iff.rfl ?_ (defines _ _ _ same)
  exact agree_bind (agree_selection same) fun _ _ same => defines _ _ _ same

theorem nameless_localFunction (inner : r.IsNameless) : Nameless (localFunction r) Unseen := by
  refine nameless_expectName.bind fun name => ?_
  refine nameless_announce.bind fun _ => ?_
  refine (nameless_declare _ _).bind fun slot => ?_
  refine nameless_line.bind fun start => ?_
  exact agree_bind (nameless_functionBody inner _ _) fun _ _ _ => agree_pure trivial

/-- The values of a local statement, if it gives some. -/
def GivenAlike (given other : Option (List Expr × Parsed)) : Prop :=
  (given = none ∧ other = none) ∨
    ∃ listed others, given = some listed ∧ other = some others ∧ ListedAlike listed others

/-- The end of a local declaration does not look at the values. -/
theorem agree_declareLocals (names : List (Bytes × VariableKind)) (first count : Nat)
    (values others : List Expr) :
    Agree Unseen (do
      let line := (← get).lastLine
      declareAll names.reverse
      match names.reverse.findIdx? fun entry => entry.2 == .closing with
      | some place =>
          markClosing
          let name := (names.reverse.getD place (ByteArray.empty, .regular)).1
          return [Stmt.declareClosing first count values (first + place) name line]
      | none => return [Stmt.declare first count values]) (do
      let line := (← get).lastLine
      declareAll names.reverse
      match names.reverse.findIdx? fun entry => entry.2 == .closing with
      | some place =>
          markClosing
          let name := (names.reverse.getD place (ByteArray.empty, .regular)).1
          return [Stmt.declareClosing first count others (first + place) name line]
      | none => return [Stmt.declare first count others]) := by
  refine agree_get_bind fun s _ => ?_
  refine (nameless_declareAll _).bind fun _ => ?_
  split
  · exact nameless_markClosing.bind fun _ => agree_pure trivial
  · exact agree_pure trivial

theorem nameless_localStatement (inner : r.IsNameless) : Nameless (localStatement r) Unseen := by
  unfold localStatement
  refine agree_get_bind fun s _ => ?_
  refine (nameless_attributedNames s.size []).bind fun names => ?_
  refine nameless_scope.bind fun scope => ?_
  refine (nameless_accept _).bind fun hasValues => ?_
  refine agree_ite_bind ?_ (agree_pure (show GivenAlike none none from .inl ⟨rfl, rfl⟩)) ?_
  · rw [← bind_pure_comp]
    exact agree_bind (nameless_expressions inner) fun _ _ same =>
      agree_pure (.inr ⟨_, _, rfl, rfl, same⟩)
  · rintro _ _ (⟨rfl, rfl⟩ | ⟨⟨done, last⟩, ⟨done', last'⟩, rfl, rfl, sameDone, same⟩)
    · dsimp only
      refine (nameless_reserve _).bind fun _ => ?_
      exact agree_bind (agree_unseen _ _) fun _ _ _ => agree_declareLocals names _ _ _ _
    · dsimp only at sameDone same ⊢
      have noConstant := agree_bind (agree_adjust names.length sameDone same)
        fun values others _ =>
          agree_declareLocals names scope.freeSlot names.length values others
      rcases names with _ | ⟨⟨name, kind⟩, rest⟩
      · exact noConstant
      cases kind with
      | const =>
          dsimp only
          rw [sameDone, same.value?]
          by_cases fits : (done'.length + 1 == ((name, VariableKind.const) :: rest).length) = true
          · rw [if_pos fits, if_pos fits]
            cases last'.value? with
            | none => exact noConstant
            | some value =>
                refine (nameless_declareAll _).bind fun _ => ?_
                exact (nameless_declareConstant _ _).bind fun _ => agree_pure trivial
          · rw [if_neg fits, if_neg fits]
            exact noConstant
      | _ => exact noConstant

theorem agree_skip {further : Read (List Stmt)} (nameless : Nameless further Unseen) (fuel : Nat)
    (done others : List Stmt) :
    Agree Unseen (labelStatement.skip further fuel done)
      (labelStatement.skip further fuel others) := by
  induction fuel generalizing done others with
  | zero => exact agree_pure trivial
  | succ fuel ih =>
      refine nameless_token.bind fun token => ?_
      split
      · exact agree_bind nameless fun _ _ _ => ih _ _
      · exact agree_bind nameless fun _ _ _ => ih _ _
      · exact agree_pure trivial

theorem nameless_labelStatement {further : Read (List Stmt)} (nameless : Nameless further Unseen)
    (size start : Nat) : Nameless (labelStatement further size start) Unseen := by
  refine nameless_expectName.bind fun name => ?_
  refine (nameless_expect _).bind fun _ => ?_
  refine agree_bind (agree_skip nameless size [] []) fun _ _ _ => ?_
  refine (nameless_findLabel? _).bind fun label => ?_
  split
  · exact agree_failMeaning _
  · refine nameless_scope.bind fun scope => ?_
    refine (nameless_blockEnds _).bind fun ends => ?_
    refine (nameless_modifyScope _).bind fun _ => ?_
    exact (nameless_resolve _ _ _).bind fun _ => agree_pure trivial

theorem nameless_returnStatement (inner : r.IsNameless) : Nameless (returnStatement r) Unseen := by
  have closes (statement other : Stmt) (_ : Unseen statement other) : Agree Unseen (do
      let _ ← accept (.symbol 0x3B)
      return statement) (do
      let _ ← accept (.symbol 0x3B)
      return other) :=
    (nameless_accept _).bind fun _ => agree_pure trivial
  refine (nameless_blockEnds _).bind fun ends => ?_
  refine nameless_token.bind fun token => ?_
  refine agree_ite Iff.rfl (agree_bind (agree_pure trivial) closes) ?_
  refine agree_bind (nameless_expressions inner) fun listed others same => ?_
  refine nameless_scope.bind fun scope => ?_
  dsimp only
  rw [same.last.form]
  split
  · rw [same.done.isEmpty]
    exact agree_ite_bind (agree_pure trivial) (agree_pure trivial) closes
  · exact agree_bind (agree_pure trivial) closes
  · rw [same.done.isEmpty]
    refine agree_ite_bind (agree_toAny same.last) (agree_toNext same.last) fun _ _ _ => ?_
    exact agree_bind (agree_pure trivial) closes

/-- What has been read of the targets so far is what later readers ask about them. -/
theorem agree_assignment (inner : r.IsNameless) (fuel levels : Nat)
    {targets others : List Parsed} (same : List.Forall₂ Parsed.Alike targets others) :
    Agree Unseen (assignment r fuel levels targets) (assignment r fuel levels others) := by
  induction fuel generalizing levels targets others with
  | zero => exact agree_throw _
  | succ fuel ih =>
      have stores (values values' : List Expr) (_ : Unseen values values') : Agree Unseen (do
          times leave levels
          return Stmt.assign (targets.reverse.map Parsed.expr) values (← get).lastLine) (do
          times leave levels
          return Stmt.assign (others.reverse.map Parsed.expr) values' (← get).lastLine) := by
        refine (nameless_times nameless_leave _).bind fun _ => ?_
        exact agree_get_bind fun _ _ => agree_pure trivial
      unfold assignment
      rw [same.length_eq]
      cases same with
      | nil => exact agree_failText _
      | cons sameTarget rest =>
          dsimp only
          rw [sameTarget.isTarget]
          refine agree_unless (agree_failText _) ?_
          refine agree_bind (agree_checkWritable sameTarget) fun _ _ _ => ?_
          refine nameless_acceptComma.bind fun isMore => ?_
          refine agree_ite Iff.rfl ?_ ?_
          · refine agree_bind (nameless_suffixed inner) fun _ _ next => ?_
            exact nameless_enter.bind fun _ => ih _ (.cons next (.cons sameTarget rest))
          · refine (nameless_expect _).bind fun _ => ?_
            refine agree_bind (nameless_expressions inner) fun listed others listedSame => ?_
            rw [listedSame.done]
            refine agree_ite Iff.rfl ?_
              (agree_bind (agree_adjust _ listedSame.done listedSame.last) stores)
            refine agree_bind (agree_toAnyOrConst listedSame.last) fun _ _ _ => ?_
            exact agree_bind (agree_pure trivial) stores

theorem nameless_expressionStatement (inner : r.IsNameless) :
    Nameless (expressionStatement r) Unseen := by
  refine agree_bind (nameless_suffixed inner) fun p q same => ?_
  refine nameless_token.bind fun token => ?_
  split
  · exact agree_get_bind fun s _ => agree_assignment inner s.size 0 (.cons same .nil)
  · exact agree_get_bind fun s _ => agree_assignment inner s.size 0 (.cons same .nil)
  · rw [same.form]
    split
    · exact agree_pure trivial
    · exact agree_failText _

theorem nameless_statementWith (inner : r.IsNameless) {further : Read (List Stmt)}
    (nameless : Nameless further Unseen) : Nameless (statementWith r further) Unseen := by
  have ending (statements others : List Stmt) (_ : Unseen statements others) : Agree Unseen (do
      modifyScope fun s => { s with used := s.freeSlot }
      leave
      return statements) (do
      modifyScope fun s => { s with used := s.freeSlot }
      leave
      return others) := by
    refine (nameless_modifyScope _).bind fun _ => ?_
    exact nameless_leave.bind fun _ => agree_pure trivial
  have last {read : Read Stmt} (nameless : Nameless read Unseen) : Nameless (do
      let statement ← read
      let statements ← pure [statement]
      modifyScope fun s => { s with used := s.freeSlot }
      leave
      return statements) Unseen :=
    agree_bind nameless fun _ _ _ => agree_bind (agree_pure trivial) ending
  refine nameless_line.bind fun start => ?_
  refine nameless_enter.bind fun _ => ?_
  refine nameless_token.bind fun token => ?_
  split
  · exact nameless_advance.bind fun _ => agree_bind (agree_pure trivial) ending
  · exact last (nameless_conditional inner start)
  · exact last (nameless_whileLoop inner start)
  · refine nameless_advance.bind fun _ => ?_
    refine agree_bind (nameless_block inner false) fun _ _ _ => ?_
    refine (nameless_expectClosing _ _ _).bind fun _ => ?_
    exact agree_bind (agree_pure trivial) ending
  · exact last (nameless_forLoop inner start)
  · exact last (nameless_repeatLoop inner start)
  · exact last (nameless_functionStatement inner start)
  · refine nameless_advance.bind fun _ => ?_
    refine (nameless_accept _).bind fun isFunction => ?_
    refine agree_ite Iff.rfl (last (nameless_localFunction inner)) ?_
    exact agree_bind (nameless_localStatement inner) ending
  · refine nameless_advance.bind fun _ => ?_
    refine agree_get_bind fun s _ => ?_
    exact agree_bind (nameless_labelStatement nameless s.size start) ending
  · exact nameless_advance.bind fun _ => last (nameless_returnStatement inner)
  · refine nameless_advance.bind fun _ => ?_
    refine (nameless_noteJump _ _).bind fun _ => ?_
    exact agree_bind (agree_pure trivial) ending
  · exact nameless_advance.bind fun _ => last nameless_jumpStatement
  · exact last (nameless_expressionStatement inner)

theorem nameless_statement (inner : r.IsNameless) (fuel : Nat) :
    Nameless (statement r fuel) Unseen := by
  induction fuel with
  | zero => exact agree_throw _
  | succ fuel ih => exact nameless_statementWith inner ih

theorem agree_statements (inner : r.IsNameless) (fuel : Nat) (done others : List Stmt) :
    Agree Unseen (statements r fuel done) (statements r fuel others) := by
  induction fuel generalizing done others with
  | zero => exact agree_pure trivial
  | succ fuel ih =>
      refine (nameless_blockEnds _).bind fun ends => ?_
      refine agree_ite Iff.rfl (agree_pure trivial) ?_
      refine nameless_token.bind fun token => ?_
      refine agree_bind (nameless_statement inner _) fun _ _ _ => ?_
      exact agree_ite Iff.rfl (agree_pure trivial) (ih _ _)

theorem isNameless_reader (n : Nat) : (reader n).IsNameless := by
  induction n with
  | zero => exact ⟨fun _ => agree_throw _, agree_throw _⟩
  | succ n ih =>
      exact ⟨nameless_subexpression ih, agree_get_bind fun s _ => agree_statements ih s.size [] []⟩

theorem nameless_script : Nameless script Unseen := by
  refine (nameless_openBlock _).bind fun _ => ?_
  refine nameless_advance.bind fun _ => ?_
  refine agree_bind (isNameless_reader _).block fun body other _ => ?_
  have ends : Agree Unseen (do
      let labelled ← hasLabels
      let info ← closeFunction 0
      return Code.mk info labelled body) (do
      let labelled ← hasLabels
      let info ← closeFunction 0
      return Code.mk info labelled other) := by
    refine nameless_hasLabels.bind fun labelled => ?_
    exact agree_bind (nameless_closeFunction 0) fun _ _ _ => agree_pure trivial
  refine nameless_token.bind fun token => ?_
  exact agree_unless (agree_failExpected _) ends

end Read

/-- A text that is read under one name is read under every other, and what is wrong with one
that is not does not depend on the name. -/
theorem readScript_renamed (chunk other : Bytes) (depth : Nat) (bytes : Bytes) :
    (∃ code otherCode, readScript chunk depth bytes = .ok code ∧
      readScript other depth bytes = .ok otherCode) ∨
    ∃ trouble, readScript chunk depth bytes = .error trouble ∧
      readScript other depth bytes = .error trouble := by
  have agree := Read.nameless_script
    { rest := bytes.toList, size := bytes.size + 2, scope := mainScope, depth, chunk } other
  unfold readScript EStateM.run
  dsimp only at agree ⊢
  generalize Read.script _ = result at agree ⊢
  generalize Read.script _ = otherResult at agree ⊢
  cases agree with
  | ok t _ => exact .inl ⟨_, _, rfl, rfl⟩
  | error trouble t u => exact .inr ⟨trouble, rfl, rfl⟩

end LuaSession.Syntax
