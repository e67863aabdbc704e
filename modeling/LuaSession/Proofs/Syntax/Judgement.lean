import LuaSession.Syntax.Parser

/-!
# Judging readers

All readers of the grammar are put together from a few that look at the state or change
it. A judgement relates a reader to one that may take its place; it has to say how it
judges those few, and how readers that are put together are judged. What it says of the
grammar follows from that.
-/

namespace LuaSession.Syntax

open LuaSession.Script

namespace Read

theorem run_bind {α β : Type} (run : Read α) (f : α → Read β) (s : ReadState) :
    (run >>= f) s =
      match run s with
      | .ok value t => f value t
      | .error trouble t => .error trouble t := by
  change EStateM.bind run f s = _
  unfold EStateM.bind
  cases run s <;> rfl

theorem run_get_bind {α : Type} (f : ReadState → Read α) (s : ReadState) :
    ((get : Read ReadState) >>= f) s = f s s := rfl

/-- Begin a function inside the one being read. -/
def beginFunction (line : Nat) : Read Unit :=
  modify fun s => { s with scope := { line, isVariadic := false }, outer := s.scope :: s.outer }

/-- Go back to the function around the one being read. -/
def endFunction : Read Unit :=
  modify fun s =>
    match s.outer with
    | scope :: outer => { s with scope, outer }
    | [] => s

end Read

open Read

/-- How readers are judged. Readers that repeat something count down from the size of the
text; the reader that takes their place may count from further up. -/
structure Judgement where
  /-- One reader may take the place of another where fewer tokens than the limit are left,
  and at least so many tokens are consumed. -/
  Relates {α : Type} (limit tokens : Nat) (run other : Read α) : Prop
  /-- A reader ends with closing the function being read. -/
  Closes {α : Type} (run : Read α) : Prop
  /-- How much further up the other reader counts from. -/
  extra : Nat
  relates_mono {α : Type} {limit limit' tokens tokens' : Nat} {run other : Read α} :
    Relates limit tokens run other → limit' ≤ limit → tokens' ≤ tokens →
      Relates limit' tokens' run other
  relates_bind {α β : Type} {limit limit' tokens tokens' tokens'' : Nat} {run other : Read α}
    {f g : α → Read β} : Relates limit tokens run other →
      (∀ value, Relates limit' tokens' (f value) (g value)) → limit ≤ limit' + tokens →
        tokens'' ≤ tokens + tokens' → Relates limit tokens'' (run >>= f) (other >>= g)
  relates_pure {α : Type} (value : α) (limit : Nat) :
    Relates limit 0 (pure value : Read α) (pure value)
  /-- Where no tokens are left, it does not matter how far the readers count. -/
  relates_idle {α : Type} {run other : Read α} :
    Relates 0 0 run run → Relates 0 0 other other → Relates 0 0 run other
  relates_size {α : Type} {f : Nat → Read α} :
    (∀ fuel, Relates fuel 0 (f fuel) (f (fuel + extra))) → ∀ limit,
      Relates limit 0 (get >>= fun (s : ReadState) => f s.size)
        (get >>= fun (s : ReadState) => f s.size)
  /-- A reader may look at the state, but not at what is left of the text. -/
  relates_get {α : Type} {limit tokens : Nat} {f : ReadState → Read α} :
    (∀ s, Relates limit tokens (f s) (f s)) → (∀ s rest size, f { s with rest, size } = f s) →
      Relates limit tokens (get >>= f) (get >>= f)
  relates_fail {α : Type} (what : Bytes) (limit tokens : Nat) :
    Relates limit tokens (fail what : Read α) (fail what)
  relates_failMeaning {α : Type} (what : Bytes) (limit tokens : Nat) :
    Relates limit tokens (failMeaning what : Read α) (failMeaning what)
  relates_tooDeep {α : Type} (limit tokens : Nat) :
    Relates limit tokens (throw .tooDeep : Read α) (throw .tooDeep)
  relates_advance (limit : Nat) : Relates limit 1 advance advance
  relates_lookAhead (limit : Nat) : Relates limit 0 lookAhead lookAhead
  relates_accept {α : Type} {limit limit' tokens tokens' : Nat} {f g : Bool → Read α}
    (expected : Token) : Relates limit' tokens' (f true) (g true) →
      Relates limit tokens (f false) (g false) → limit ≤ limit' + 1 → tokens ≤ tokens' + 1 →
        Relates limit tokens (accept expected >>= f) (accept expected >>= g)
  relates_enter (limit : Nat) : Relates limit 0 enter enter
  relates_leave (limit : Nat) : Relates limit 0 leave leave
  /-- What a function captures is not touched when its scope is changed. -/
  relates_modifyScope {f : FunctionScope → FunctionScope}
    (spares : f = fun scope => { f scope with captured := scope.captured }) (limit : Nat) :
    Relates limit 0 (modifyScope f) (modifyScope f)
  relates_meaning (name : Bytes) (limit : Nat) : Relates limit 0 (meaning name) (meaning name)
  relates_beginFunction {α : Type} {rest : Read α} (line : Nat) : Closes rest → ∀ limit,
    Relates limit 0 (beginFunction line >>= fun _ => rest) (beginFunction line >>= fun _ => rest)
  closes_endFunction : Closes endFunction
  closes_bind {α β : Type} {run : Read α} {f : α → Read β} :
    (∀ limit, Relates limit 0 run run) → (∀ value, Closes (f value)) → Closes (run >>= f)
  closes_then {α β : Type} {run : Read α} {f : α → Read β} :
    Closes run → (∀ value limit, Relates limit 0 (f value) (f value)) → Closes (run >>= f)

namespace Judgement

variable {α β : Type} (J : Judgement)

/-- A reader may stand where it stands. -/
def Holds (run : Read α) : Prop := ∀ limit, J.Relates limit 0 run run

/-- A reader may stand where it stands, and goes on to a further token. -/
def Consumes (run : Read α) : Prop := ∀ limit, J.Relates limit 1 run run

variable {J} {limit tokens : Nat}

theorem Consumes.holds {run : Read α} (consumes : J.Consumes run) : J.Holds run :=
  fun limit => J.relates_mono (consumes limit) (Nat.le_refl _) (Nat.zero_le _)

theorem Holds.bind_consumes {run : Read α} {f : α → Read β} (first : J.Holds run)
    (later : ∀ value, J.Consumes (f value)) : J.Consumes (run >>= f) :=
  fun limit =>
    J.relates_bind (first limit) (fun value => later value limit) (Nat.le_refl _) (Nat.le_refl _)

/-- What follows a reader that may have gone on to a further token. -/
theorem Holds.bind_relates {run : Read α} {f g : α → Read β} (first : J.Holds run)
    (later : ∀ value, J.Relates limit tokens (f value) (g value)) :
    J.Relates limit tokens (run >>= f) (run >>= g) :=
  J.relates_bind (first limit) later (Nat.le_refl _) (Nat.le_of_eq (Nat.zero_add _).symm)

/-- What follows a reader that has gone on to a further token. -/
theorem Consumes.bind_relates {run : Read α} {f g : α → Read β} (first : J.Consumes run)
    (later : ∀ value, J.Relates limit 0 (f value) (g value)) :
    J.Relates (limit + 1) 0 (run >>= f) (run >>= g) :=
  J.relates_bind (first (limit + 1)) later (Nat.le_refl _) (Nat.zero_le _)

/-- What follows a reader that counts down from the size of the text. -/
theorem relates_bind_holds {run other : Read α} {f : α → Read β}
    (first : J.Relates limit 0 run other) (later : ∀ value, J.Holds (f value)) :
    J.Relates limit 0 (run >>= f) (other >>= f) :=
  J.relates_bind first (fun value => later value limit) (Nat.le_refl _) (Nat.zero_le _)

/-- A reader that counts down, and goes on to a further token each time: when the count
is above the number of tokens that are left, a higher count changes nothing. -/
theorem relates_loop {γ : Type} {f : Nat → γ → Read α} (base : ∀ value, J.Holds (f 0 value))
    (step : ∀ n m limit, (∀ value, J.Relates limit 0 (f n value) (f m value)) →
      ∀ value, J.Relates (limit + 1) 0 (f (n + 1) value) (f (m + 1) value))
    (fuel : Nat) (value : γ) :
    J.Relates fuel 0 (f fuel value) (f (fuel + J.extra) value) := by
  -- where no token is left, each count is compared with itself
  have same (n : Nat) : ∀ value, J.Relates 0 0 (f n value) (f n value) := by
    induction n with
    | zero => exact fun value => base value 0
    | succ n ih =>
        exact fun value => J.relates_mono (step n n 0 ih value) (Nat.zero_le _) (Nat.le_refl _)
  induction fuel generalizing value with
  | zero => exact J.relates_idle (same 0 value) (same _ value)
  | succ fuel ih =>
      rw [Nat.add_right_comm]
      exact step _ _ _ ih value

end Judgement

namespace Read

variable {α β : Type} {J : Judgement} {limit tokens : Nat}

/-! ## Readers that are put together -/

theorem holds_pure (value : α) : J.Holds (pure value : Read α) := J.relates_pure value

theorem holds_bind {run : Read α} {f : α → Read β} (first : J.Holds run)
    (later : ∀ value, J.Holds (f value)) : J.Holds (run >>= f) :=
  fun limit =>
    J.relates_bind (first limit) (fun value => later value limit) (Nat.le_refl _) (Nat.le_refl _)

theorem consumes_bind {run : Read α} {f : α → Read β} (first : J.Consumes run)
    (later : ∀ value, J.Holds (f value)) : J.Consumes (run >>= f) :=
  fun limit =>
    J.relates_bind (first limit) (fun value => later value limit) (Nat.le_succ _) (Nat.le_refl _)

theorem holds_map {run : Read α} (holds : J.Holds run) (f : α → β) : J.Holds (f <$> run) := by
  rw [← bind_pure_comp]
  exact holds_bind holds fun _ => holds_pure _

theorem holds_ite {condition : Prop} [Decidable condition] {yes no : Read α}
    (first : J.Holds yes) (second : J.Holds no) : J.Holds (if condition then yes else no) := by
  split
  · exact first
  · exact second

/-- One of two readers, and the rest after either. -/
theorem holds_ite_bind {condition : Prop} [Decidable condition] {yes no : Read α}
    {rest : α → Read β} (first : J.Holds yes) (second : J.Holds no)
    (later : ∀ value, J.Holds (rest value)) :
    J.Holds (if condition then yes >>= rest else no >>= rest) :=
  holds_ite (holds_bind first later) (holds_bind second later)

/-- A reader that is used under a condition, and the rest either way. -/
theorem holds_when {condition : Prop} [Decidable condition] {run : Read α} {rest : Read β}
    (first : J.Holds run) (later : J.Holds rest) :
    J.Holds (if condition then run >>= fun _ => rest else rest) :=
  holds_ite (holds_bind first fun _ => later) later

/-- A reader that fails unless a condition holds. -/
theorem relates_unless {condition : Prop} [Decidable condition] {fails : Read α}
    {run other : Read β} (holds : J.Holds fails) (later : J.Relates limit tokens run other) :
    J.Relates limit tokens (if condition then run else fails >>= fun _ => run)
      (if condition then other else fails >>= fun _ => other) := by
  split
  · exact later
  · exact holds.bind_relates fun _ => later

/-- A reader that counts down from the size of the text, and what comes after it. -/
theorem holds_size_bind {f : Nat → Read α} {rest : α → Read β}
    (relates : ∀ fuel, J.Relates fuel 0 (f fuel) (f (fuel + J.extra)))
    (later : ∀ value, J.Holds (rest value)) :
    J.Holds ((get : Read ReadState) >>= fun s => f s.size >>= rest) := by
  rw [← bind_assoc]
  exact holds_bind (J.relates_size relates) later

theorem closes_size_bind {f : Nat → Read α} {rest : α → Read β}
    (relates : ∀ fuel, J.Relates fuel 0 (f fuel) (f (fuel + J.extra)))
    (later : ∀ value, J.Closes (rest value)) :
    J.Closes ((get : Read ReadState) >>= fun s => f s.size >>= rest) := by
  rw [← bind_assoc]
  exact J.closes_bind (J.relates_size relates) later

/-! ## Readers that fail -/

theorem holds_tooDeep : J.Holds (throw .tooDeep : Read α) := fun limit => J.relates_tooDeep limit 0

theorem consumes_tooDeep : J.Consumes (throw .tooDeep : Read α) :=
  fun limit => J.relates_tooDeep limit 1

theorem holds_failText (what : String) : J.Holds (failText what : Read α) :=
  fun limit => J.relates_fail _ limit 0

theorem consumes_failText (what : String) : J.Consumes (failText what : Read α) :=
  fun limit => J.relates_fail _ limit 1

theorem consumes_failExpected (token : Token) : J.Consumes (failExpected token : Read α) :=
  consumes_failText _

theorem holds_failMeaning (what : Bytes) : J.Holds (failMeaning what : Read α) :=
  fun limit => J.relates_failMeaning what limit 0

/-! ## Tokens -/

/-- A reader that looks at the state, but not at what is left of the text. -/
theorem holds_get_bind {f : ReadState → Read α} (later : ∀ s, J.Holds (f s))
    (blind : ∀ s rest size, f { s with rest, size } = f s) : J.Holds (get >>= f) :=
  fun limit => J.relates_get (fun s => later s limit) blind

theorem consumes_get_bind {f : ReadState → Read α} (later : ∀ s, J.Consumes (f s))
    (blind : ∀ s rest size, f { s with rest, size } = f s) : J.Consumes (get >>= f) :=
  fun limit => J.relates_get (fun s => later s limit) blind

theorem holds_token : J.Holds token :=
  holds_get_bind (fun _ => holds_pure _) fun _ _ _ => rfl

theorem holds_line : J.Holds line :=
  holds_get_bind (fun _ => holds_pure _) fun _ _ _ => rfl

theorem holds_scope : J.Holds scope :=
  holds_get_bind (fun _ => holds_pure _) fun _ _ _ => rfl

theorem consumes_advance : J.Consumes advance := J.relates_advance

theorem holds_lookAhead : J.Holds lookAhead := J.relates_lookAhead

theorem holds_accept (expected : Token) : J.Holds (accept expected) := by
  intro limit
  rw [← bind_pure (accept expected)]
  exact J.relates_accept expected (holds_pure true limit) (holds_pure false limit)
    (Nat.le_succ _) (Nat.zero_le _)

/-- Going on with a list, if a further token stands here. -/
theorem relates_more (expected : Token) {f g : Bool → Read α}
    (yes : J.Relates limit 0 (f true) (g true))
    (no : J.Relates (limit + 1) 0 (f false) (g false)) :
    J.Relates (limit + 1) 0 (accept expected >>= f) (accept expected >>= g) :=
  J.relates_accept expected yes no (Nat.le_refl _) (Nat.zero_le _)

theorem consumes_expect (expected : Token) : J.Consumes (expect expected) :=
  fun limit => J.relates_accept expected (holds_pure () limit) (consumes_failExpected _ limit)
    (Nat.le_succ _) (Nat.le_refl _)

theorem consumes_expectClosing (closing opening : Token) (start : Nat) :
    J.Consumes (expectClosing closing opening start) := by
  have missing : J.Consumes (do
      if start == (← line) then failExpected closing
      else
        failText
          s!"{closing.expectedText} expected (to close {opening.expectedText} at line {start})"
      : Read PUnit) := by
    refine holds_line.bind_consumes fun line => ?_
    split
    · exact consumes_failExpected _
    · exact consumes_failText _
  exact fun limit => J.relates_accept closing (holds_pure () limit) (missing limit)
    (Nat.le_succ _) (Nat.le_refl _)

theorem consumes_expectName : J.Consumes expectName := by
  refine consumes_get_bind (fun s => ?_) fun _ _ _ => rfl
  split
  · exact consumes_bind consumes_advance fun _ => holds_pure _
  · exact consumes_failExpected _

/-! ## The functions being read -/

theorem holds_modifyScope {f : FunctionScope → FunctionScope}
    (spares : f = fun scope => { f scope with captured := scope.captured }) :
    J.Holds (modifyScope f) :=
  J.relates_modifyScope spares

theorem holds_failLimit (bound : Nat) (what : String) : J.Holds (failLimit bound what : Read α) :=
  holds_bind holds_scope fun _ => holds_failText _

theorem holds_reserve (n : Nat) : J.Holds (reserve n) := by
  refine holds_bind holds_scope fun scope => ?_
  exact holds_when (holds_failText _) (holds_modifyScope rfl)

theorem holds_release (n : Nat) : J.Holds (release n) := holds_modifyScope rfl

theorem holds_enter : J.Holds enter := J.relates_enter

theorem holds_leave : J.Holds leave := J.relates_leave

theorem holds_announce : J.Holds announce := by
  refine holds_bind holds_scope fun scope => ?_
  exact holds_when (holds_failLimit _ _) (holds_modifyScope rfl)

theorem holds_declare (name : Bytes) (kind : VariableKind) : J.Holds (declare name kind) := by
  refine holds_bind holds_scope fun scope => ?_
  exact holds_bind (holds_modifyScope rfl) fun _ => holds_pure _

theorem holds_openBlock (isLoop : Bool) : J.Holds (openBlock isLoop) := holds_modifyScope rfl

theorem holds_markClosing : J.Holds markClosing := by
  refine holds_modifyScope (funext fun scope => ?_)
  split
  · rfl
  · rfl

theorem holds_failJump (jump : Jump) : J.Holds (failJump jump : Read α) :=
  holds_bind holds_scope fun _ => holds_failMeaning _

theorem holds_resolve (label : Option Bytes) (visible first : Nat) :
    J.Holds (resolve label visible first) := by
  refine holds_bind holds_scope fun scope => ?_
  dsimp only
  split
  · exact holds_failJump _
  · exact holds_modifyScope rfl

theorem holds_failUnresolved (jump : Jump) : J.Holds (failUnresolved jump : Read α) := by
  unfold failUnresolved
  split
  · exact holds_failMeaning _
  · exact holds_failMeaning _

theorem holds_closeBlock : J.Holds closeBlock := by
  refine holds_bind holds_scope fun scope => ?_
  split
  · exact holds_pure _
  · refine holds_bind (holds_modifyScope rfl) fun _ => ?_
    refine holds_when (holds_resolve _ _ _) ?_
    refine holds_bind (holds_modifyScope rfl) fun _ => ?_
    refine holds_ite ?_ (holds_pure _)
    refine holds_bind holds_scope fun scope => ?_
    split
    · exact holds_failUnresolved _
    · exact holds_pure _

theorem holds_hasLabels : J.Holds hasLabels := by
  refine holds_bind holds_scope fun scope => ?_
  split
  · exact holds_pure _
  · exact holds_pure _

theorem holds_openFunction {rest : Read α} (line : Nat) (closes : J.Closes rest) :
    J.Holds (openFunction line >>= fun _ => rest) := by
  have isBegun : openFunction line = beginFunction line >>= fun _ => openBlock false := rfl
  rw [isBegun, bind_assoc]
  refine J.relates_beginFunction line ?_
  exact J.closes_bind (holds_openBlock false) fun _ => closes

theorem holds_functionInfo (parameters : Nat) : J.Holds (functionInfo parameters) :=
  holds_get_bind (fun _ => holds_pure _) fun _ _ _ => rfl

theorem closes_closeFunction (parameters : Nat) : J.Closes (closeFunction parameters) := by
  refine J.closes_bind holds_closeBlock fun _ => ?_
  refine J.closes_bind (holds_functionInfo parameters) fun info => ?_
  exact J.closes_then J.closes_endFunction fun _ => holds_pure info

theorem holds_meaning (name : Bytes) : J.Holds (meaning name) := J.relates_meaning name

end Read

end LuaSession.Syntax
