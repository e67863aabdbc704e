import LuaSession.Proofs.Syntax.Judgement

/-!
# Judging the grammar

What is judged of the readers that all others are put together from holds of every reader
of the grammar, if it holds of the readers of what is nested. The readers that repeat
something count down from the size of the text. They never come to the end of that count,
because each repetition goes on to a further token.
-/

namespace LuaSession.Syntax

open LuaSession.Script

namespace Read

variable {J : Judgement}

theorem holds_discharge (p : Parsed) : J.Holds (discharge p) := by
  unfold discharge
  cases p.form with
  | indexed =>
      refine holds_bind (holds_release _) fun _ => ?_
      exact holds_get_bind (fun _ => holds_pure _) fun _ _ _ => rfl
  | _ => exact holds_pure _

theorem holds_toNext (p : Parsed) : J.Holds (toNext p) := by
  refine holds_bind (holds_discharge p) fun p => ?_
  refine holds_bind (holds_release _) fun _ => ?_
  exact holds_bind (holds_reserve _) fun _ => holds_pure _

theorem holds_toAny (p : Parsed) : J.Holds (toAny p) := by
  refine holds_bind (holds_discharge p) fun p => ?_
  split
  · exact holds_pure _
  · exact holds_bind (holds_reserve _) fun _ => holds_pure _

theorem holds_toAnyOrCaptured (p : Parsed) : J.Holds (toAnyOrCaptured p) := by
  unfold toAnyOrCaptured
  split
  · exact holds_pure _
  · exact holds_toAny _

theorem holds_toAnyOrConst (p : Parsed) : J.Holds (toAnyOrConst p) := by
  refine holds_bind (holds_discharge p) fun p => ?_
  split
  · exact holds_pure _
  · exact holds_toAny _

theorem holds_finish (p : Parsed) : J.Holds (finish p) := by
  refine holds_bind (holds_discharge p) fun p => ?_
  exact holds_bind (holds_release _) fun _ => holds_pure _

theorem holds_indexed (object key : Parsed) : J.Holds (indexed object key) := by
  have last (isShort : Bool) (object : Parsed) : J.Holds (do
      let key ← if isShort then pure key else toAny key
      return (⟨.index object.expr key.expr 0, .indexed, object.held + key.held⟩ : Parsed)) :=
    holds_ite_bind (holds_pure _) (holds_toAny _) fun key => holds_pure _
  unfold indexed
  dsimp only
  split
  · exact holds_ite_bind (holds_pure _) (holds_toAny _) (last _)
  · exact holds_bind (holds_pure _) (last _)

theorem holds_localVariable? (name : Bytes) : J.Holds (localVariable? name) := by
  refine holds_bind (holds_meaning name) fun meaning => ?_
  cases meaning with
  | slot found =>
      dsimp only
      split
      · exact holds_pure _
      · exact holds_pure _
  | captured index kind => exact holds_pure _
  | global => exact holds_pure _

theorem holds_variableNamed (name : Bytes) : J.Holds (variableNamed name) := by
  refine holds_bind (holds_localVariable? name) fun found => ?_
  cases found with
  | some p => exact holds_pure _
  | none =>
      refine holds_bind (holds_localVariable? _) fun environment => ?_
      exact holds_bind (holds_toAnyOrCaptured _) fun environment => holds_indexed _ _

theorem holds_checkWritable (p : Parsed) : J.Holds (checkWritable p) := by
  unfold checkWritable
  split
  · exact holds_failMeaning _
  · exact holds_pure _

theorem holds_blockEnds (untilEnds : Bool) : J.Holds (blockEnds untilEnds) := by
  refine holds_bind holds_token fun token => ?_
  split <;> exact holds_pure _

theorem holds_acceptComma : J.Holds acceptComma := holds_accept _

theorem holds_closeList (done : List Expr) (last : Parsed) :
    J.Holds (closeList done last) := by
  unfold closeList
  split
  · exact holds_pure _
  · exact holds_bind (holds_toNext last) fun last => holds_pure _

theorem holds_placeItem (c : Constructor) : J.Holds (placeItem c) := by
  unfold placeItem
  split
  · exact holds_pure _
  · refine holds_bind (holds_toNext _) fun item => ?_
    split
    · exact holds_bind (holds_release _) fun _ => holds_pure _
    · exact holds_pure _

theorem holds_declareAll (names : List (Bytes × VariableKind)) :
    J.Holds (declareAll names) := by
  unfold declareAll
  induction names with
  | nil => exact holds_pure _
  | cons name names ih =>
      rw [List.forM]
      refine holds_bind ?_ fun _ => ih
      exact holds_bind (holds_declare _ _) fun _ => holds_pure _

theorem holds_applyUnary (op : UnaryOp) (operand : Parsed) (start : Nat) :
    J.Holds (applyUnary op operand start) := by
  have applied (operand : Parsed) : J.Holds (do
      let operand ← toAny operand
      release operand.held
      return (⟨.unary op operand.expr start, .loose, 0⟩ : Parsed)) := by
    refine holds_bind (holds_toAny operand) fun operand => ?_
    exact holds_bind (holds_release _) fun _ => holds_pure _
  refine holds_bind (holds_discharge operand) fun operand => ?_
  split
  · exact holds_pure _
  · split
    · exact holds_pure _
    · exact applied operand
  · exact applied operand

theorem holds_prepareLeft (op : Operator.Infix) (left : Parsed) :
    J.Holds (prepareLeft op left) := by
  refine holds_bind (holds_discharge left) fun left => ?_
  have freed : J.Holds (do
      release left.held
      return { left with held := 0 }) :=
    holds_bind (holds_release _) fun _ => holds_pure _
  split
  · split
    · exact holds_pure _
    · exact freed
  · split
    · exact holds_pure _
    · exact freed
  · exact holds_toNext left
  · exact holds_toAnyOrConst left
  · exact holds_toAnyOrConst left
  · split
    · exact holds_pure _
    · exact holds_toAny left

theorem holds_times {run : Read Unit} (keeps : J.Holds run) (n : Nat) :
    J.Holds (times run n) := by
  induction n with
  | zero => exact holds_pure _
  | succ n ih => exact holds_bind keeps fun _ => ih

theorem holds_announceAll (n : Nat) : J.Holds (announceAll n) :=
  holds_times holds_announce n

theorem holds_adjust (count : Nat) (done : List Expr) (last : Parsed) :
    J.Holds (adjust count done last) := by
  have last (given : Nat) (last : Parsed) : J.Holds (do
      if given > count then release (given - count)
      return (last.expr :: done).reverse) :=
    holds_when (holds_release _) (holds_pure _)
  unfold adjust
  dsimp only
  split
  · refine holds_bind (holds_release _) fun _ => ?_
    exact holds_when (holds_reserve _) (holds_bind (holds_pure _) (last _))
  · refine holds_bind (holds_toNext _) fun placed => ?_
    exact holds_when (holds_reserve _) (holds_bind (holds_pure _) (last _))

theorem holds_variableAttribute : J.Holds variableAttribute := by
  refine holds_bind (holds_accept _) fun hasAttribute => ?_
  split
  · refine holds_bind consumes_expectName.holds fun name => ?_
    refine holds_bind (consumes_expect _).holds fun _ => ?_
    split
    · exact holds_pure _
    · split
      · exact holds_pure _
      · exact holds_failMeaning _
  · exact holds_pure _

theorem holds_findLabel? (name : Bytes) : J.Holds (findLabel? name) :=
  holds_bind holds_scope fun _ => holds_pure _

theorem consumes_singleVariable : J.Consumes singleVariable := by
  exact consumes_bind consumes_expectName fun name => holds_variableNamed name

theorem consumes_selection (object : Parsed) : J.Consumes (selection object) := by
  refine (holds_toAnyOrCaptured object).bind_consumes fun object => ?_
  refine consumes_bind consumes_advance fun _ => ?_
  exact holds_bind consumes_expectName.holds fun name => holds_indexed _ _

theorem holds_applyInfix (op : Operator.Infix) (left right : Parsed) (start : Nat) :
    J.Holds (applyInfix op left right start) := by
  refine holds_bind (holds_discharge _) fun right => ?_
  split
  · split
    · exact holds_ite (holds_pure _) (holds_pure _)
    · exact holds_pure _
  · split
    · exact holds_ite (holds_pure _) (holds_pure _)
    · exact holds_pure _
  · refine holds_bind (holds_toNext _) fun right => ?_
    exact holds_bind (holds_release _) fun _ => holds_pure _
  · dsimp only
    split
    · exact holds_pure _
    · refine holds_bind (holds_toAnyOrConst _) fun right => ?_
      refine holds_bind (holds_release _) fun _ => ?_
      exact holds_get_bind (fun _ => holds_pure _) fun _ _ _ => rfl

theorem holds_declareConstant (name : Bytes) (value : Constant) :
    J.Holds (declareConstant name value) :=
  holds_modifyScope rfl

theorem holds_noteJump (label : Option Bytes) (start : Nat) :
    J.Holds (noteJump label start) :=
  holds_modifyScope rfl

theorem holds_jumpStatement : J.Holds jumpStatement := by
  refine holds_bind holds_line fun start => ?_
  refine holds_bind consumes_expectName.holds fun name => ?_
  refine holds_bind (holds_findLabel? name) fun label => ?_
  exact holds_when (holds_noteJump _ _) (holds_pure _)

/-! ## Lists of names -/

theorem relates_parameters (fuel : Nat) (names : List Bytes) :
    J.Relates fuel 0 (parameters fuel names) (parameters (fuel + J.extra) names) := by
  refine Judgement.relates_loop (f := parameters) (fun _ => holds_pure _)
    (fun n m limit ih names => ?_) fuel names
  rw [parameters, parameters]
  refine holds_token.bind_relates fun token => ?_
  split
  · refine consumes_expectName.bind_relates fun name => ?_
    refine holds_announce.bind_relates fun _ => ?_
    exact J.relates_accept _ (ih _) (holds_pure _ _) (Nat.le_succ _) (Nat.zero_le _)
  · exact consumes_advance.bind_relates fun _ => holds_pure _ _
  · exact J.relates_fail _ _ _

theorem relates_moreNames (fuel : Nat) (names : List Bytes) :
    J.Relates fuel 0 (moreNames fuel names) (moreNames (fuel + J.extra) names) := by
  refine Judgement.relates_loop (f := moreNames) (fun _ => holds_pure _)
    (fun n m limit ih names => ?_) fuel names
  rw [moreNames, moreNames]
  refine relates_more _ ?_ (holds_pure _ _)
  refine consumes_expectName.holds.bind_relates fun name => ?_
  exact holds_announce.bind_relates fun _ => ih _

theorem relates_functionFields (fuel : Nat) (p : Parsed) :
    J.Relates fuel 0 (functionFields fuel p) (functionFields (fuel + J.extra) p) := by
  refine Judgement.relates_loop (f := functionFields) (fun _ => holds_pure _)
    (fun n m limit ih p => ?_) fuel p
  rw [functionFields, functionFields]
  refine holds_token.bind_relates fun token => ?_
  split
  · exact (consumes_selection p).bind_relates fun p => ih p
  · exact holds_pure _ _

theorem relates_attributedNames (fuel : Nat) (names : List (Bytes × VariableKind)) :
    J.Relates fuel 0 (attributedNames fuel names)
      (attributedNames (fuel + J.extra) names) := by
  refine Judgement.relates_loop (f := attributedNames) (fun _ => holds_pure _)
    (fun n m limit ih names => ?_) fuel names
  rw [attributedNames, attributedNames]
  refine consumes_expectName.bind_relates fun name => ?_
  refine holds_announce.bind_relates fun _ => ?_
  refine holds_variableAttribute.bind_relates fun kind => ?_
  have goOn : J.Relates limit 0
      (acceptComma >>= fun isMore =>
        if isMore then attributedNames n ((name, kind) :: names)
        else pure ((name, kind) :: names))
      (acceptComma >>= fun isMore =>
        if isMore then attributedNames m ((name, kind) :: names)
        else pure ((name, kind) :: names)) :=
    J.relates_accept _ (ih _) (holds_pure _ _) (Nat.le_succ _) (Nat.zero_le _)
  split
  · exact (holds_failMeaning _).bind_relates fun _ => goOn
  · exact goOn

end Read

/-- The readers of nested constructs may stand where they stand. -/
structure Reader.Holds (J : Judgement) (r : Reader) : Prop where
  expression : ∀ limit, J.Holds (r.expression limit)
  block : J.Holds r.block

namespace Read

variable {J : Judgement} {r : Reader}

theorem holds_inner (inner : r.Holds J) (limit : Nat) :
    J.Holds (r.expression limit) :=
  inner.expression limit

theorem holds_expression (inner : r.Holds J) : J.Holds (expression r) :=
  inner.expression 0

/-! ## Expressions -/

theorem relates_moreExpressions (inner : r.Holds J) (fuel : Nat) (done : List Expr)
    (last : Parsed) :
    J.Relates fuel 0 (moreExpressions r fuel done last)
      (moreExpressions r (fuel + J.extra) done last) := by
  refine Judgement.relates_loop (f := fun fuel (c : _ × _) => moreExpressions r fuel c.1 c.2)
    (fun _ => holds_pure _) (fun n m limit ih (done, last) => ?_) fuel (done, last)
  rw [moreExpressions, moreExpressions]
  refine relates_more _ ?_ (holds_pure _ _)
  refine (holds_toNext last).bind_relates fun placed => ?_
  exact (holds_expression inner).bind_relates fun next => ih (_, _)

theorem holds_expressions (inner : r.Holds J) : J.Holds (expressions r) := by
  refine holds_bind (holds_expression inner) fun first => ?_
  exact J.relates_size (f := fun fuel => moreExpressions r fuel [] first) fun fuel =>
    relates_moreExpressions inner fuel [] first

theorem consumes_bracketed (inner : r.Holds J) : J.Consumes (bracketed r) := by
  refine consumes_bind consumes_advance fun _ => ?_
  refine holds_bind (holds_expression inner) fun key => ?_
  refine holds_bind (holds_discharge key) fun key => ?_
  exact holds_bind (consumes_expect _).holds fun _ => holds_pure _

theorem holds_keyedField (inner : r.Holds J) (c : Constructor)
    {readKey : Read Parsed} (holds : J.Holds readKey) :
    J.Holds (keyedField r c readKey) := by
  refine holds_bind holds_scope fun scope => ?_
  refine holds_bind holds fun key => ?_
  refine holds_bind (consumes_expect _).holds fun _ => ?_
  refine holds_bind (holds_toAnyOrConst _) fun key => ?_
  refine holds_bind (holds_expression inner) fun value => ?_
  refine holds_bind (holds_toAnyOrConst _) fun value => ?_
  refine holds_bind (holds_modifyScope rfl) fun _ => ?_
  exact holds_get_bind (fun _ => holds_pure _) fun _ _ _ => rfl

theorem holds_field (inner : r.Holds J) (c : Constructor) :
    J.Holds (field r c) := by
  have item : J.Holds (do
      let item ← expression r
      return { c with pending := some item }) :=
    holds_bind (holds_expression inner) fun item => holds_pure _
  refine holds_bind holds_token fun token => ?_
  split
  · refine holds_bind holds_lookAhead fun ahead => ?_
    split
    · refine holds_keyedField inner c ?_
      exact holds_bind consumes_expectName.holds fun name => holds_pure _
    · exact item
  · exact holds_keyedField inner c (consumes_bracketed inner).holds
  · exact item

theorem relates_fields (inner : r.Holds J) (fuel : Nat) (c : Constructor) :
    J.Relates fuel 0 (fields r fuel c) (fields r (fuel + J.extra) c) := by
  refine Judgement.relates_loop (f := fields r) (fun _ => holds_pure _)
    (fun n m limit ih c => ?_) fuel c
  rw [fields, fields]
  refine holds_token.bind_relates fun token => ?_
  split
  · exact holds_pure _ _
  · refine (holds_placeItem c).bind_relates fun c => ?_
    refine (holds_field inner c).bind_relates fun c => ?_
    exact relates_more _ (ih c) (relates_more _ (ih c) (holds_pure _ _))

theorem consumes_tableConstructor (inner : r.Holds J) :
    J.Consumes (tableConstructor r) := by
  refine holds_line.bind_consumes fun start => ?_
  refine (holds_reserve _).bind_consumes fun _ => ?_
  refine consumes_bind (consumes_expect _) fun _ => ?_
  have built (fields : List Field) :
      J.Holds (pure (⟨.table fields.reverse, .placed, 1⟩ : Parsed)) := holds_pure _
  refine holds_size_bind (fun fuel => relates_fields inner fuel {}) fun c => ?_
  refine holds_bind (consumes_expectClosing _ _ _).holds fun _ => ?_
  split
  · refine holds_bind (holds_release _) fun _ => ?_
    exact holds_bind (holds_pure _) built
  · split
    · refine holds_bind (holds_release _) fun _ => ?_
      exact holds_bind (holds_pure _) built
    · refine holds_bind (holds_toNext _) fun item => ?_
      refine holds_bind (holds_release _) fun _ => ?_
      exact holds_bind (holds_pure _) built

theorem consumes_arguments (inner : r.Holds J) (base : Nat) :
    J.Consumes (arguments r base) := by
  have given (arguments : List Expr) : J.Holds (do
      modifyScope fun s => { s with used := base + 1 }
      return arguments) :=
    holds_bind (holds_modifyScope rfl) fun _ => holds_pure _
  refine holds_line.bind_consumes fun start => ?_
  refine holds_token.bind_consumes fun token => ?_
  split
  · refine consumes_bind consumes_advance fun _ => ?_
    refine holds_bind holds_token fun token => ?_
    split
    · refine holds_bind (consumes_expectClosing _ _ _).holds fun _ => ?_
      exact holds_bind (holds_pure _) given
    · refine holds_bind (holds_expressions inner) fun listed => ?_
      refine holds_bind (consumes_expectClosing _ _ _).holds fun _ => ?_
      exact holds_bind (holds_closeList _ _) given
  · refine consumes_bind (consumes_tableConstructor inner) fun table => ?_
    exact holds_bind (holds_closeList _ _) given
  · refine consumes_bind consumes_advance fun _ => ?_
    exact holds_bind (holds_closeList _ _) given
  · exact consumes_bind (consumes_failText _) given

theorem consumes_primary (inner : r.Holds J) : J.Consumes (primary r) := by
  refine holds_token.bind_consumes fun token => ?_
  split
  · exact consumes_singleVariable
  · refine holds_line.bind_consumes fun start => ?_
    refine consumes_bind consumes_advance fun _ => ?_
    refine holds_bind (holds_expression inner) fun inside => ?_
    refine holds_bind (consumes_expectClosing _ _ _).holds fun _ => ?_
    exact holds_bind (holds_discharge _) fun inside => holds_pure _
  · exact consumes_failText _

theorem consumes_methodCall (inner : r.Holds J) (object : Parsed) :
    J.Consumes (methodCall r object) := by
  refine consumes_bind consumes_advance fun _ => ?_
  refine holds_bind consumes_expectName.holds fun name => ?_
  refine holds_get_bind (fun s => ?_) fun _ _ _ => rfl
  refine holds_bind (holds_toAny _) fun object => ?_
  refine holds_bind (holds_release _) fun _ => ?_
  refine holds_bind holds_scope fun scope => ?_
  refine holds_bind (holds_reserve _) fun _ => ?_
  refine holds_bind holds_line fun start => ?_
  exact holds_bind (consumes_arguments inner _).holds fun arguments => holds_pure _

theorem consumes_functionCall (inner : r.Holds J) (function : Parsed) :
    J.Consumes (functionCall r function) := by
  refine (holds_toNext _).bind_consumes fun function => ?_
  refine holds_scope.bind_consumes fun scope => ?_
  refine holds_line.bind_consumes fun start => ?_
  exact consumes_bind (consumes_arguments inner _) fun arguments => holds_pure _

theorem relates_suffixes (inner : r.Holds J) (fuel : Nat) (p : Parsed) :
    J.Relates fuel 0 (suffixes r fuel p) (suffixes r (fuel + J.extra) p) := by
  refine Judgement.relates_loop (f := suffixes r) (fun _ => holds_pure _)
    (fun n m limit ih p => ?_) fuel p
  rw [suffixes, suffixes]
  refine holds_token.bind_relates fun token => ?_
  split
  · exact (consumes_selection p).bind_relates fun p => ih p
  · refine (holds_toAnyOrCaptured p).bind_relates fun object => ?_
    refine (consumes_bracketed inner).bind_relates fun key => ?_
    exact (holds_indexed object key).bind_relates fun p => ih p
  · exact (consumes_methodCall inner p).bind_relates fun p => ih p
  · exact (consumes_functionCall inner p).bind_relates fun p => ih p
  · exact (consumes_functionCall inner p).bind_relates fun p => ih p
  · exact (consumes_functionCall inner p).bind_relates fun p => ih p
  · exact holds_pure _ _

theorem consumes_suffixed (inner : r.Holds J) : J.Consumes (suffixed r) := by
  refine consumes_bind (consumes_primary inner) fun p => ?_
  exact J.relates_size (f := fun fuel => suffixes r fuel p) fun fuel =>
    relates_suffixes inner fuel p

/-- Reading parameters, unless there are none, and closing the function after that. -/
theorem closes_parameters {rest : List Bytes × Bool → Read Code}
    (closes : ∀ result, J.Closes (rest result)) :
    J.Closes (do
      if (← token) == .symbol 0x29 then pure ([], false) >>= rest
      else parameters (← get).size [] >>= rest) := by
  refine J.closes_bind holds_token fun token => ?_
  split
  · exact J.closes_bind (holds_pure _) closes
  · exact closes_size_bind (fun fuel => relates_parameters fuel []) closes

/-- A function inside is opened and closed again. -/
theorem holds_functionBody (inner : r.Holds J) (isMethod : Bool) (start : Nat) :
    J.Holds (functionBody r isMethod start) := by
  have body (result : List Bytes × Bool) : J.Closes (do
      declareAll (result.1.reverse.map fun name => (name, .regular))
      modifyScope fun s => { s with isVariadic := result.2 }
      let count := (← scope).bindings.size
      reserve count
      expect (.symbol 0x29)
      let body ← r.block
      expectClosing (.keyword .kEnd) (.keyword .kFunction) start
      let labelled ← hasLabels
      let info ← closeFunction count
      return Code.mk info labelled body) := by
    refine J.closes_bind (holds_declareAll _) fun _ => ?_
    refine J.closes_bind (holds_modifyScope rfl) fun _ => ?_
    refine J.closes_bind holds_scope fun scope => ?_
    refine J.closes_bind (holds_reserve _) fun _ => ?_
    refine J.closes_bind (consumes_expect _).holds fun _ => ?_
    refine J.closes_bind inner.block fun body => ?_
    refine J.closes_bind (consumes_expectClosing _ _ _).holds fun _ => ?_
    refine J.closes_bind holds_hasLabels fun labelled => ?_
    exact J.closes_then (closes_closeFunction _) fun info => holds_pure _
  refine holds_openFunction start ?_
  refine J.closes_bind (consumes_expect _).holds fun _ => ?_
  dsimp only
  split
  · refine J.closes_bind holds_announce fun _ => ?_
    exact J.closes_bind (holds_declareAll _) fun _ => closes_parameters body
  · exact closes_parameters body

theorem holds_simple (inner : r.Holds J) : J.Holds (simple r) := by
  have constant (value : Constant) : J.Holds (do
      advance
      return Parsed.ofValue value) :=
    holds_bind consumes_advance.holds fun _ => holds_pure _
  have variadic : J.Holds (do
      advance
      return (⟨.variadic, .variadic, 0⟩ : Parsed)) :=
    holds_bind consumes_advance.holds fun _ => holds_pure _
  refine holds_bind holds_token fun token => ?_
  split
  · exact constant _
  · exact constant _
  · exact constant _
  · exact constant _
  · exact constant _
  · refine holds_bind holds_scope fun scope => ?_
    exact holds_ite variadic (holds_bind (holds_failText _) fun _ => variadic)
  · exact (consumes_tableConstructor inner).holds
  · refine holds_bind consumes_advance.holds fun _ => ?_
    refine holds_bind holds_line fun start => ?_
    refine holds_bind (holds_functionBody inner _ _) fun code => ?_
    exact holds_bind (holds_reserve _) fun _ => holds_pure _
  · exact (consumes_suffixed inner).holds

theorem relates_operators (inner : r.Holds J) (limit fuel : Nat) (left : Parsed) :
    J.Relates fuel 0 (operators r limit fuel left)
      (operators r limit (fuel + J.extra) left) := by
  refine Judgement.relates_loop (f := operators r limit) (fun _ => holds_pure _)
    (fun n m few ih left => ?_) fuel left
  rw [operators, operators]
  refine holds_token.bind_relates fun token => ?_
  split
  · exact holds_pure _ _
  · split
    · refine holds_line.bind_relates fun start => ?_
      refine consumes_advance.bind_relates fun _ => ?_
      refine (holds_prepareLeft _ _).bind_relates fun left => ?_
      refine (holds_inner inner _).bind_relates fun right => ?_
      exact (holds_applyInfix _ _ _ _).bind_relates fun whole => ih whole
    · exact holds_pure _ _

theorem holds_subexpression (inner : r.Holds J) (limit : Nat) :
    J.Holds (subexpression r limit) := by
  have rest (first : Parsed) : J.Holds (do
      let whole ← operators r limit (← get).size first
      leave
      return whole : Read Parsed) :=
    holds_size_bind (fun fuel => relates_operators inner limit fuel first) fun whole =>
      holds_bind holds_leave fun _ => holds_pure whole
  refine holds_bind holds_enter fun _ => ?_
  refine holds_bind holds_token fun token => ?_
  split
  · refine holds_bind holds_line fun start => ?_
    refine holds_bind consumes_advance.holds fun _ => ?_
    refine holds_bind (inner.expression _) fun operand => ?_
    exact holds_bind (holds_applyUnary _ _ _) rest
  · exact holds_bind (holds_simple inner) rest

/-! ## Statements -/

theorem holds_block (inner : r.Holds J) (isLoop : Bool) :
    J.Holds (block r isLoop) := by
  refine holds_bind (holds_openBlock _) fun _ => ?_
  refine holds_bind inner.block fun body => ?_
  refine holds_bind holds_hasLabels fun labelled => ?_
  exact holds_bind holds_closeBlock fun _ => holds_pure _

theorem holds_condition (inner : r.Holds J) : J.Holds (condition r) :=
  holds_bind (holds_expression inner) holds_finish

theorem consumes_clause (inner : r.Holds J) : J.Consumes (clause r) := by
  refine consumes_bind consumes_advance fun _ => ?_
  refine holds_bind (holds_expression inner) fun p => ?_
  refine holds_bind (consumes_expect _).holds fun _ => ?_
  refine holds_bind (holds_finish p) fun condition => ?_
  exact holds_bind (holds_block inner false) fun result => holds_pure _

theorem relates_clauses (inner : r.Holds J) (fuel : Nat) (done : List Clause) :
    J.Relates fuel 0 (clauses r fuel done) (clauses r (fuel + J.extra) done) := by
  refine Judgement.relates_loop (f := clauses r) (fun _ => holds_pure _)
    (fun n m limit ih done => ?_) fuel done
  rw [clauses, clauses]
  refine holds_token.bind_relates fun token => ?_
  split
  · exact (consumes_clause inner).bind_relates fun clause => ih _
  · refine relates_more _ ?_ (holds_pure _ _)
    exact (holds_block inner false).bind_relates fun result => holds_pure _ _

theorem consumes_conditional (inner : r.Holds J) (start : Nat) :
    J.Consumes (conditional r start) := by
  refine consumes_bind (consumes_clause inner) fun first => ?_
  exact holds_size_bind (f := fun fuel => clauses r fuel [first])
    (fun fuel => relates_clauses inner fuel [first]) fun all =>
      holds_bind (consumes_expectClosing _ _ _).holds fun _ => holds_pure _

theorem consumes_whileLoop (inner : r.Holds J) (start : Nat) :
    J.Consumes (whileLoop r start) := by
  refine consumes_bind consumes_advance fun _ => ?_
  refine holds_bind (holds_condition inner) fun test => ?_
  refine holds_bind (holds_openBlock _) fun _ => ?_
  refine holds_bind (consumes_expect _).holds fun _ => ?_
  refine holds_bind (holds_block inner false) fun result => ?_
  refine holds_bind (consumes_expectClosing _ _ _).holds fun _ => ?_
  exact holds_bind holds_closeBlock fun _ => holds_pure _

theorem consumes_repeatLoop (inner : r.Holds J) (start : Nat) :
    J.Consumes (repeatLoop r start) := by
  refine (holds_openBlock _).bind_consumes fun _ => ?_
  refine (holds_openBlock _).bind_consumes fun _ => ?_
  refine consumes_bind consumes_advance fun _ => ?_
  refine holds_bind inner.block fun body => ?_
  refine holds_bind (consumes_expectClosing _ _ _).holds fun _ => ?_
  refine holds_bind (holds_condition inner) fun test => ?_
  refine holds_bind holds_hasLabels fun labelled => ?_
  refine holds_bind holds_closeBlock fun _ => ?_
  exact holds_bind holds_closeBlock fun _ => holds_pure _

theorem holds_placedExpression (inner : r.Holds J) :
    J.Holds (placedExpression r) := by
  refine holds_bind (holds_expression inner) fun p => ?_
  exact holds_bind (holds_toNext p) fun placed => holds_pure _

theorem holds_loopBody (inner : r.Holds J) (names : List Bytes) :
    J.Holds (loopBody r names) := by
  refine holds_bind (holds_openBlock _) fun _ => ?_
  refine holds_bind holds_scope fun scope => ?_
  refine holds_bind (holds_declareAll _) fun _ => ?_
  refine holds_bind (holds_reserve _) fun _ => ?_
  refine holds_bind (holds_block inner false) fun result => ?_
  exact holds_bind holds_closeBlock fun _ => holds_pure _

theorem holds_countingLoop (inner : r.Holds J) (name : Bytes) :
    J.Holds (countingLoop r name) := by
  have body (start stop step : Expr) : J.Holds (do
      declareAll (List.replicate 3 (hiddenName, .regular))
      expect (.keyword .kDo)
      let line := (← get).lastLine
      let result ← loopBody r [name]
      return Stmt.count result.1 start stop step result.2.1 result.2.2 line) := by
    refine holds_bind (holds_declareAll _) fun _ => ?_
    refine holds_bind (consumes_expect _).holds fun _ => ?_
    refine holds_get_bind (fun s => ?_) fun _ _ _ => rfl
    exact holds_bind (holds_loopBody inner _) fun result => holds_pure _
  refine holds_bind (holds_announceAll _) fun _ => ?_
  refine holds_bind (consumes_expect _).holds fun _ => ?_
  refine holds_bind (holds_placedExpression inner) fun start => ?_
  refine holds_bind (consumes_expect _).holds fun _ => ?_
  refine holds_bind (holds_placedExpression inner) fun stop => ?_
  refine holds_bind holds_acceptComma fun isLong => ?_
  split
  · exact holds_bind (holds_placedExpression inner) fun step => body start stop step
  · refine holds_bind (holds_reserve _) fun _ => ?_
    exact holds_bind (holds_pure _) fun step => body start stop step

theorem holds_iteratingLoop (inner : r.Holds J) (name : Bytes) :
    J.Holds (iteratingLoop r name) := by
  refine holds_bind (holds_announceAll _) fun _ => ?_
  refine holds_size_bind (f := fun fuel => moreNames fuel [name])
    (fun fuel => relates_moreNames fuel [name]) fun names => ?_
  refine holds_bind (consumes_expect _).holds fun _ => ?_
  refine holds_bind holds_line fun line => ?_
  refine holds_bind holds_scope fun scope => ?_
  refine holds_bind (holds_expressions inner) fun values => ?_
  refine holds_bind (holds_adjust _ _ _) fun values => ?_
  refine holds_bind (holds_declareAll _) fun _ => ?_
  refine holds_bind holds_markClosing fun _ => ?_
  refine holds_bind (holds_reserve _) fun _ => ?_
  refine holds_bind (holds_release _) fun _ => ?_
  refine holds_bind (consumes_expect _).holds fun _ => ?_
  exact holds_bind (holds_loopBody inner _) fun result => holds_pure _

theorem consumes_forLoop (inner : r.Holds J) (start : Nat) :
    J.Consumes (forLoop r start) := by
  have closes (loop : Stmt) : J.Holds (do
      expectClosing (.keyword .kEnd) (.keyword .kFor) start
      closeBlock
      return loop) := by
    refine holds_bind (consumes_expectClosing _ _ _).holds fun _ => ?_
    exact holds_bind holds_closeBlock fun _ => holds_pure _
  refine (holds_openBlock _).bind_consumes fun _ => ?_
  refine consumes_bind consumes_advance fun _ => ?_
  refine holds_bind consumes_expectName.holds fun name => ?_
  refine holds_bind holds_token fun token => ?_
  split
  · exact holds_bind (holds_countingLoop inner name) closes
  · exact holds_bind (holds_iteratingLoop inner name) closes
  · exact holds_bind (holds_iteratingLoop inner name) closes
  · exact holds_bind (holds_failText _) closes

theorem consumes_functionStatement (inner : r.Holds J) (start : Nat) :
    J.Consumes (functionStatement r start) := by
  have defines (target : Parsed × Bool) : J.Holds (do
      checkWritable target.1
      let code ← functionBody r target.2 start
      return Stmt.assign [settled start target.1.expr] [.function code] start) := by
    refine holds_bind (holds_checkWritable _) fun _ => ?_
    exact holds_bind (holds_functionBody inner _ _) fun code => holds_pure _
  refine consumes_bind consumes_advance fun _ => ?_
  refine holds_bind consumes_singleVariable.holds fun target => ?_
  refine holds_size_bind (f := fun fuel => functionFields fuel target)
    (fun fuel => relates_functionFields fuel target) fun target => ?_
  refine holds_bind holds_token fun token => ?_
  split
  · refine holds_bind (consumes_selection target).holds fun target => ?_
    exact holds_bind (holds_pure _) defines
  · exact holds_bind (holds_pure _) defines

theorem holds_localFunction (inner : r.Holds J) :
    J.Holds (localFunction r) := by
  refine holds_bind consumes_expectName.holds fun name => ?_
  refine holds_bind holds_announce fun _ => ?_
  refine holds_bind (holds_declare _ _) fun slot => ?_
  refine holds_bind holds_line fun start => ?_
  exact holds_bind (holds_functionBody inner _ _) fun code => holds_pure _

theorem holds_localStatement (inner : r.Holds J) :
    J.Holds (localStatement r) := by
  unfold localStatement
  refine holds_size_bind (f := fun fuel => attributedNames fuel [])
    (fun fuel => relates_attributedNames fuel []) fun names => ?_
  refine holds_bind holds_scope fun scope => ?_
  refine holds_bind (holds_accept _) fun hasValues => ?_
  refine holds_ite_bind (holds_map (holds_expressions inner) _) (holds_pure _)
    fun given => ?_
  dsimp only
  split
  · refine holds_bind (holds_declareAll _) fun _ => ?_
    exact holds_bind (holds_declareConstant _ _) fun _ => holds_pure _
  · split
    · refine holds_bind (holds_adjust _ _ _) fun values => ?_
      refine holds_get_bind (fun s => ?_) fun _ _ _ => rfl
      refine holds_bind (holds_declareAll _) fun _ => ?_
      split
      · exact holds_bind holds_markClosing fun _ => holds_pure _
      · exact holds_pure _
    · refine holds_bind (holds_reserve _) fun _ => ?_
      refine holds_bind (holds_pure _) fun values => ?_
      refine holds_get_bind (fun s => ?_) fun _ _ _ => rfl
      refine holds_bind (holds_declareAll _) fun _ => ?_
      split
      · exact holds_bind holds_markClosing fun _ => holds_pure _
      · exact holds_pure _

theorem relates_skip {further : Read (List Stmt)} (consumes : J.Consumes further) (fuel : Nat)
    (done : List Stmt) :
    J.Relates fuel 0 (labelStatement.skip further fuel done)
      (labelStatement.skip further (fuel + J.extra) done) := by
  refine Judgement.relates_loop (f := labelStatement.skip further) (fun _ => holds_pure _)
    (fun n m limit ih done => ?_) fuel done
  rw [labelStatement.skip, labelStatement.skip]
  refine holds_token.bind_relates fun token => ?_
  split
  · exact consumes.bind_relates fun others => ih _
  · exact consumes.bind_relates fun others => ih _
  · exact holds_pure _ _

theorem relates_labelStatement {further : Read (List Stmt)} (consumes : J.Consumes further)
    (size start : Nat) :
    J.Relates size 0 (labelStatement further size start)
      (labelStatement further (size + J.extra) start) := by
  have noted (name : Bytes) (others : List Stmt) (block : Block) (visible : Nat) :
      J.Holds (do
        modifyScope fun s => { s with labels := s.labels.push ⟨name, start, visible⟩ }
        resolve (some name) visible block.jumps
        return Stmt.label name :: others) := by
    refine holds_bind (holds_modifyScope rfl) fun _ => ?_
    exact holds_bind (holds_resolve _ _ _) fun _ => holds_pure _
  refine consumes_expectName.holds.bind_relates fun name => ?_
  refine (consumes_expect _).holds.bind_relates fun _ => ?_
  refine Judgement.relates_bind_holds (relates_skip consumes size []) fun others => ?_
  refine holds_bind (holds_findLabel? _) fun label => ?_
  split
  · exact holds_failMeaning _
  · refine holds_bind holds_scope fun scope => ?_
    refine holds_bind (holds_blockEnds _) fun ends => ?_
    exact noted name others _ _

theorem holds_returnStatement (inner : r.Holds J) :
    J.Holds (returnStatement r) := by
  have closes (statement : Stmt) : J.Holds (do
      let _ ← accept (.symbol 0x3B)
      return statement) :=
    holds_bind (holds_accept _) fun _ => holds_pure _
  refine holds_bind (holds_blockEnds _) fun ends => ?_
  refine holds_bind holds_token fun token => ?_
  dsimp only
  split
  · exact holds_bind (holds_pure _) closes
  · refine holds_bind (holds_expressions inner) fun listed => ?_
    refine holds_bind holds_scope fun scope => ?_
    split
    · exact holds_ite_bind (holds_pure _) (holds_pure _) closes
    · exact holds_bind (holds_pure _) closes
    · refine holds_ite_bind (holds_toAny _) (holds_toNext _) fun last => ?_
      exact holds_bind (holds_pure _) closes

theorem relates_assignment (inner : r.Holds J) (fuel levels : Nat) (targets : List Parsed) :
    J.Relates fuel 0 (assignment r fuel levels targets)
      (assignment r (fuel + J.extra) levels targets) := by
  refine Judgement.relates_loop (f := fun fuel (c : _ × _) => assignment r fuel c.1 c.2)
    (fun _ => holds_tooDeep) (fun n m limit ih (levels, targets) => ?_) fuel (levels, targets)
  have stores (values : List Expr) : J.Holds (do
      times leave levels
      return Stmt.assign (targets.reverse.map Parsed.expr) values (← get).lastLine) := by
    refine holds_bind (holds_times holds_leave _) fun _ => ?_
    exact holds_get_bind (fun _ => holds_pure _) fun _ _ _ => rfl
  unfold assignment
  split
  · exact J.relates_fail _ _ _
  · refine relates_unless (holds_failText _) ?_
    refine (holds_checkWritable _).bind_relates fun _ => ?_
    refine relates_more _ ?_ ?_
    · refine (consumes_suffixed inner).holds.bind_relates fun next => ?_
      exact holds_enter.bind_relates fun _ => ih (_, _)
    · suffices holds : J.Holds _ from holds _
      refine holds_bind (consumes_expect _).holds fun _ => ?_
      refine holds_bind (holds_expressions inner) fun listed => ?_
      dsimp only
      split
      · refine holds_bind (holds_toAnyOrConst _) fun last => ?_
        exact holds_bind (holds_pure _) stores
      · exact holds_bind (holds_adjust _ _ _) stores

theorem consumes_expressionStatement (inner : r.Holds J) :
    J.Consumes (expressionStatement r) := by
  refine consumes_bind (consumes_suffixed inner) fun p => ?_
  refine holds_bind holds_token fun token => ?_
  split
  · exact J.relates_size (f := fun fuel => assignment r fuel 0 [p]) fun fuel =>
      relates_assignment inner fuel 0 [p]
  · exact J.relates_size (f := fun fuel => assignment r fuel 0 [p]) fun fuel =>
      relates_assignment inner fuel 0 [p]
  · split
    · exact holds_pure _
    · exact holds_failText _

theorem consumes_statementWith (inner : r.Holds J) {further : Read (List Stmt)}
    (consumes : J.Consumes further) : J.Consumes (statementWith r further) := by
  have ending (statements : List Stmt) : J.Holds (do
      modifyScope fun s => { s with used := s.freeSlot }
      leave
      return statements : Read (List Stmt)) := by
    refine holds_bind (holds_modifyScope rfl) fun _ => ?_
    exact holds_bind holds_leave fun _ => holds_pure _
  have last {read : Read Stmt} (consumes : J.Consumes read) : J.Consumes (do
      let statement ← read
      let statements ← pure [statement]
      modifyScope fun s => { s with used := s.freeSlot }
      leave
      return statements) :=
    consumes_bind consumes fun statement => holds_bind (holds_pure _) ending
  have later {read : Read Stmt} (holds : J.Holds read) : J.Holds (do
      let statement ← read
      let statements ← pure [statement]
      modifyScope fun s => { s with used := s.freeSlot }
      leave
      return statements) :=
    holds_bind holds fun statement => holds_bind (holds_pure _) ending
  refine holds_line.bind_consumes fun start => ?_
  refine holds_enter.bind_consumes fun _ => ?_
  refine holds_token.bind_consumes fun token => ?_
  split
  · exact consumes_bind consumes_advance fun _ => holds_bind (holds_pure _) ending
  · exact last (consumes_conditional inner start)
  · exact last (consumes_whileLoop inner start)
  · refine consumes_bind consumes_advance fun _ => ?_
    refine holds_bind (holds_block inner false) fun result => ?_
    refine holds_bind (consumes_expectClosing _ _ _).holds fun _ => ?_
    exact holds_bind (holds_pure _) ending
  · exact last (consumes_forLoop inner start)
  · exact last (consumes_repeatLoop inner start)
  · exact last (consumes_functionStatement inner start)
  · refine consumes_bind consumes_advance fun _ => ?_
    refine holds_bind (holds_accept _) fun isFunction => ?_
    split
    · exact later (holds_localFunction inner)
    · exact holds_bind (holds_localStatement inner) ending
  · refine consumes_bind consumes_advance fun _ => ?_
    exact holds_size_bind (f := fun fuel => labelStatement further fuel start)
      (fun fuel => relates_labelStatement consumes fuel start) ending
  · exact consumes_bind consumes_advance fun _ => later (holds_returnStatement inner)
  · refine consumes_bind consumes_advance fun _ => ?_
    refine holds_bind (holds_noteJump _ _) fun _ => ?_
    exact holds_bind (holds_pure _) ending
  · exact consumes_bind consumes_advance fun _ => later holds_jumpStatement
  · exact last (consumes_expressionStatement inner)

theorem consumes_statement (inner : r.Holds J) (fuel : Nat) :
    J.Consumes (statement r fuel) := by
  induction fuel with
  | zero => exact consumes_tooDeep
  | succ fuel ih => exact consumes_statementWith inner ih

theorem relates_statements (inner : r.Holds J) (fuel : Nat) (done : List Stmt) :
    J.Relates fuel 0 (statements r fuel done) (statements r (fuel + J.extra) done) := by
  refine Judgement.relates_loop (f := statements r) (fun _ => holds_pure _)
    (fun n m limit ih done => ?_) fuel done
  rw [statements, statements]
  refine (holds_blockEnds _).bind_relates fun ends => ?_
  split
  · exact holds_pure _ _
  · refine holds_token.bind_relates fun token => ?_
    refine (consumes_statement inner _).bind_relates fun read => ?_
    dsimp only
    split
    · exact holds_pure _ _
    · exact ih _

theorem holds_reader (n : Nat) : (reader n).Holds J := by
  induction n with
  | zero => exact ⟨fun _ => holds_tooDeep, holds_tooDeep⟩
  | succ n ih =>
      refine ⟨holds_subexpression ih, ?_⟩
      exact J.relates_size (f := fun fuel => statements (reader n) fuel []) fun fuel =>
        relates_statements ih fuel []

end Read

end LuaSession.Syntax
