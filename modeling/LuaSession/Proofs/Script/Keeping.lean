import LuaSession.Proofs.Script.Change

/-!
# Computations that keep a property

A computation keeps a property of stores when it ends, fails and asks in stores
that have it, provided that it starts from one and that every request leaves one.
Computations are of kinds: what the functions of the libraries cannot change, those
that are written in scripts may. The operations on values keep what the functions of
the libraries cannot change.
-/

namespace LuaSession.Script

/-- A kind of computation: the properties that it keeps, and what it may ask for. -/
structure Kind where
  keeps : (Store → Prop) → Prop
  asks : Request → Prop

namespace Kind

/-- A property is one of those that a kind of computation keeps. -/
class Holds (kind : Kind) (J : Store → Prop) : Prop where
  keeps : kind.keeps J

/-- Computations that may call functions and keep only what the functions of the
libraries cannot change. -/
class Calls (kind : Kind) : Prop where
  lasting : ∀ {J : Store → Prop}, kind.keeps J → Lasting J
  call : ∀ function arguments site, kind.asks (.call function arguments site)

theorem lasting (kind : Kind) [kind.Calls] (J : Store → Prop) [kind.Holds J] : Lasting J :=
  Calls.lasting (Holds.keeps : kind.keeps J)

/-- What the functions of the libraries do. They do not ask for what only statements
need. -/
def library : Kind where
  keeps J := Lasting J
  asks
    | .loop _ | .labelled .. | .guarded .. => False
    | _ => True

@[grind =] theorem asks_library (request : Request) :
    library.asks request = match request with
      | .loop _ | .labelled .. | .guarded .. => False
      | _ => True :=
  rfl

instance : library.Calls := ⟨id, fun _ _ _ => trivial⟩

instance {J : Store → Prop} [Lasting J] : library.Holds J := ⟨inferInstanceAs (Lasting J)⟩

end Kind

variable {kind : Kind} {J : Store → Prop} {α β : Type}

namespace Step

theorem bind_eq_bindAsked (step : Step α) (f : α → Store → Step β) :
    step.bind f = step.bindAsked f := by
  cases step <;> rfl

theorem bind_done (step : Step α) : step.bind .done = step := by
  rw [bind_eq_bindAsked]
  induction step with
  | done value store => rfl
  | fail raised store => rfl
  | ask request store resume ih =>
      rw [Step.bindAsked]
      congr
      funext exit after
      exact ih exit after

theorem bind_assoc {γ : Type} (step : Step α) (f : α → Store → Step β)
    (g : β → Store → Step γ) :
    (step.bind f).bind g = step.bind fun value s => (f value s).bind g := by
  simp only [bind_eq_bindAsked]
  induction step with
  | done value store => rfl
  | fail raised store => rfl
  | ask request store resume ih =>
      simp only [Step.bindAsked]
      congr
      funext exit after
      exact ih exit after

end Step

instance : LawfulMonad Run :=
  LawfulMonad.mk' Run (fun run => funext fun s => Step.bind_done (run s)) (fun _ _ => rfl)
    fun run f g => funext fun s => Step.bind_assoc (run s) f g

/-- All stores of a step have a property, however its requests are answered.

What becomes of the store while a request is answered is up to others; from then
on the step keeps every property that the store has by then, as long as what the
step itself publishes cannot lose it. -/
def Step.Keeps (kind : Kind) : (Store → Prop) → Step α → Prop
  | J, .done _ store => J store
  | J, .fail _ store => J store
  | J, .ask request store resume => J store ∧ kind.asks request ∧
      ∀ (K : Store → Prop) [kind.Holds K], (LetsPublish J → LetsPublish K) →
        ∀ exit after, K after → (resume exit after).Keeps kind K

namespace Step.Keeps

variable [kind.Holds J]

theorem bindAsked {step : Step α} {f : α → Store → Step β} (keeps : step.Keeps kind J)
    (later : ∀ (K : Store → Prop) [kind.Holds K], (LetsPublish J → LetsPublish K) →
      ∀ value store, K store → (f value store).Keeps kind K) : (step.bindAsked f).Keeps kind J := by
  induction step generalizing J with
  | done value store => exact later J id value store keeps
  | fail raised store => exact keeps
  | ask request store resume ih =>
      refine ⟨keeps.1, keeps.2.1, fun K _ lets exit after kept => ?_⟩
      refine ih exit after (keeps.2.2 K lets exit after kept) ?_
      exact fun L _ more => later L (more ∘ lets)

theorem bind {step : Step α} {f : α → Store → Step β} (keeps : step.Keeps kind J)
    (later : ∀ (K : Store → Prop) [kind.Holds K], (LetsPublish J → LetsPublish K) →
      ∀ value store, K store → (f value store).Keeps kind K) : (step.bind f).Keeps kind J := by
  have asked := keeps.bindAsked later
  cases step <;> exact asked

end Step.Keeps

/-- What is known of the value that a step ends with, however its requests are
answered. -/
def Step.Gives (P : α → Prop) : Step α → Prop
  | .done value _ => P value
  | .fail _ _ => True
  | .ask _ _ resume => ∀ exit after, (resume exit after).Gives P

namespace Step

variable {P : α → Prop} {Q : β → Prop} {step : Step α} {f : α → Store → Step β}

theorem Gives.bindAsked (gives : step.Gives P) (later : ∀ value s, P value → (f value s).Gives Q) :
    (step.bindAsked f).Gives Q := by
  induction step with
  | done value store => exact later value store gives
  | fail raised store => exact trivial
  | ask request store resume ih => exact fun exit after => ih exit after (gives exit after)

theorem Gives.bind (gives : step.Gives P) (later : ∀ value s, P value → (f value s).Gives Q) :
    (step.bind f).Gives Q := by
  rw [bind_eq_bindAsked]
  exact gives.bindAsked later

theorem gives_true (step : Step α) : step.Gives fun _ => True := by
  induction step with
  | done value store => exact trivial
  | fail raised store => exact trivial
  | ask request store resume ih => exact fun exit after => ih exit after

theorem Keeps.bind_of_gives [kind.Holds J] (keeps : step.Keeps kind J) (gives : step.Gives P)
    (later : ∀ (K : Store → Prop) [kind.Holds K], (LetsPublish J → LetsPublish K) →
      ∀ value, P value → ∀ store, K store → (f value store).Keeps kind K) :
    (step.bind f).Keeps kind J := by
  rw [bind_eq_bindAsked]
  induction step generalizing J with
  | done value store => exact later J id value gives store keeps
  | fail raised store => exact keeps
  | ask request store resume ih =>
      refine ⟨keeps.1, keeps.2.1, fun K _ lets exit after kept => ?_⟩
      refine ih exit after (keeps.2.2 K lets exit after kept) (gives exit after) ?_
      exact fun L _ more => later L (more ∘ lets)

end Step

namespace Run

/-- What is known of the value that a computation ends with. -/
def Gives (P : α → Prop) (run : Run α) : Prop := ∀ s, (run s).Gives P

theorem Gives.bind {P : α → Prop} {Q : β → Prop} {first : Run α} {f : α → Run β}
    (gives : first.Gives P) (later : ∀ value, P value → (f value).Gives Q) :
    (first >>= f).Gives Q :=
  fun s => (gives s).bind fun value after known => later value known after

theorem gives_bind {Q : β → Prop} {first : Run α} {f : α → Run β}
    (later : ∀ value, (f value).Gives Q) : (first >>= f).Gives Q :=
  fun s => (first s).gives_true.bind fun value after _ => later value after

theorem gives_pure {P : α → Prop} {value : α} (known : P value) : (pure value : Run α).Gives P :=
  fun _ => known

/-- A computation keeps a property of stores, and every other one that what it
publishes cannot lose. -/
structure Keeps (kind : Kind) (J : Store → Prop) (run : Run α) : Prop where
  step : ∀ (K : Store → Prop) [kind.Holds K], (LetsPublish J → LetsPublish K) →
    ∀ store, K store → (run store).Keeps kind K

theorem Keeps.at [kind.Holds J] {run : Run α} {s : Store} (keeps : run.Keeps kind J) (kept : J s) :
    (run s).Keeps kind J :=
  keeps.step J id s kept

/-- What keeps every property keeps this one. -/
theorem keeps_of {run : Run α}
    (keeps : ∀ {K : Store → Prop} [kind.Holds K] (s : Store), K s → (run s).Keeps kind K) :
    run.Keeps kind J :=
  ⟨fun _ _ _ s kept => keeps s kept⟩

@[grind ←] theorem keeps_bind {first : Run α} {f : α → Run β} (keeps : first.Keeps kind J)
    (later : ∀ value, (f value).Keeps kind J) : (first >>= f).Keeps kind J :=
  ⟨fun K _ lets store kept => (keeps.step K lets store kept).bind fun L _ more value after held =>
    (later value).step L (more ∘ lets) after held⟩

/-- Going on with what is known of the value. -/
theorem keeps_bind_of_gives {P : α → Prop} {first : Run α} {f : α → Run β}
    (keeps : first.Keeps kind J) (gives : first.Gives P)
    (later : ∀ value, P value → (f value).Keeps kind J) : (first >>= f).Keeps kind J :=
  ⟨fun K _ lets store kept => (keeps.step K lets store kept).bind_of_gives (gives store)
    fun L _ more value known after held => (later value known).step L (more ∘ lets) after held⟩

@[grind ←] theorem keeps_pure (value : α) : (pure value : Run α).Keeps kind J :=
  keeps_of fun _ kept => kept

@[grind ←] theorem keeps_read (f : Store → α) : (read f).Keeps kind J := keeps_of fun _ kept => kept

theorem keeps_modify [kind.Calls] {f : Store → Store}
    (keeps : ∀ {K : Store → Prop} [Lasting K] (s : Store), K s → K (f s)) :
    (modify f).Keeps kind J :=
  keeps_of fun {K} _ => have := kind.lasting K; keeps

theorem keeps_update [kind.Calls] {f : Store → α × Store}
    (keeps : ∀ {K : Store → Prop} [Lasting K] (s : Store), K s → K (f s).2) :
    (update f).Keeps kind J :=
  keeps_of fun {K} _ => have := kind.lasting K; keeps

/-- Publishing keeps what it cannot lose. -/
theorem keeps_publish (lets : LetsPublish J) (text : String) :
    (modify (·.emit (.published text))).Keeps kind J :=
  ⟨fun _ _ more _ kept => more lets text kept⟩

@[grind ←] theorem keeps_throw (raised : Raised) : (throw raised : Run α).Keeps kind J :=
  keeps_of fun _ kept => kept

@[grind ←] theorem keeps_raise (value : Value) : (raise value : Run α).Keeps kind J :=
  keeps_throw _

@[grind ←] theorem keeps_raiseBytes (message : Bytes) : (raiseBytes message : Run α).Keeps kind J :=
  keeps_raise _

@[grind ←] theorem keeps_raiseText (message : String) : (raiseText message : Run α).Keeps kind J :=
  keeps_raiseBytes _

@[grind ←] theorem keeps_ask {request : Request} (asks : kind.asks request) :
    (ask request).Keeps kind J :=
  keeps_of fun _ kept => ⟨kept, asks, fun _ _ _ _ _ held => held⟩

@[grind ←] theorem keeps_askValues {request : Request} (asks : kind.asks request) :
    (askValues request).Keeps kind J := by
  unfold askValues
  grind

@[grind ←] theorem keeps_faultBytes (place : Place) (message : Bytes) :
    (faultBytes place message : Run α).Keeps kind J := by
  apply keeps_of
  intro K _ store kept
  cases place <;> exact kept

@[grind ←] theorem keeps_fault (place : Place) (message : String) :
    (fault place message : Run α).Keeps kind J :=
  keeps_faultBytes _ _

theorem keeps_ite {condition : Prop} [Decidable condition] {first second : Run α}
    (yes : condition → first.Keeps kind J) (no : ¬condition → second.Keeps kind J) :
    (if condition then first else second).Keeps kind J := by
  split
  next holds => exact yes holds
  next fails => exact no fails

@[grind ←] theorem keeps_map {run : Run α} (keeps : run.Keeps kind J) (f : α → β) :
    (f <$> run).Keeps kind J := by
  rw [← bind_pure_comp]
  exact keeps_bind keeps fun value => keeps_pure _

/-- Computations on the members of a list, one after the other. -/
@[grind ←] theorem keeps_mapM {f : α → Run β} (keeps : ∀ member, (f member).Keeps kind J)
    (list : List α) : (list.mapM f).Keeps kind J := by
  induction list with
  | nil => exact keeps_pure _
  | cons member list ih =>
      rw [List.mapM_cons]
      grind

/-! ## Operations on values -/

@[grind ←] theorem keeps_failType (place : Place) (blame : Expr) (value : Value)
    (action : String) : (failType place blame value action : Run α).Keeps kind J := by
  unfold failType
  grind

@[grind ←] theorem keeps_failInteger (place : Place) (left right : Expr) (x : Value) :
    (failInteger place left right x : Run α).Keeps kind J := by
  unfold failInteger
  grind

@[grind ←] theorem keeps_failOrder (place : Place) (x y : Value) :
    (failOrder place x y : Run α).Keeps kind J := by
  unfold failOrder
  grind

@[grind ←] theorem keeps_failOperand (place : Place) (action : String) (left right : Expr)
    (x y : Value) : (failOperand place action left right x y : Run α).Keeps kind J := by
  unfold failOperand
  grind

section Calls

variable [kind.Calls]

@[grind ←] theorem keeps_call (function : Value) (arguments : Array Value) (site : Site) :
    (call function arguments site).Keeps kind J :=
  keeps_askValues (Kind.Calls.call function arguments site)

@[grind ←] theorem keeps_callLibrary (function : Value) (arguments : Array Value) :
    (callLibrary function arguments).Keeps kind J :=
  keeps_call _ _ _

@[grind ←] theorem keeps_callEvent (place : Place) (event : String) (function : Value)
    (arguments : Array Value) : (callEvent place event function arguments).Keeps kind J := by
  unfold callEvent
  grind

@[grind ←] theorem keeps_indexChain (place : Place) (blame : Expr) (fuel : Nat)
    (object key : Value) : (indexChain place blame fuel object key).Keeps kind J := by
  induction fuel generalizing blame object key with
  | zero => exact keeps_fault _ _
  | succ fuel ih =>
      unfold indexChain
      grind

@[grind ←] theorem keeps_index (place : Place) (blame : Expr) (object key : Value) :
    (index place blame object key).Keeps kind J := by
  apply keeps_of
  intro K _ s kept
  unfold index
  dsimp only
  split
  · split
    · split
      · exact kept
      · exact (keeps_indexChain _ _ _ _ _).at kept
    · exact kept
  · exact (keeps_indexChain _ _ _ _ _).at kept

@[grind ←] theorem keeps_binaryEvent? (place : Place) (event : String) (key x y : Value) :
    (binaryEvent? place event key x y).Keeps kind J := by
  unfold binaryEvent?
  grind

@[grind ←] theorem keeps_arithmeticSlow (place : Place) (left right : Expr) (op : Arithmetic)
    (x y : Value) : (arithmeticSlow place left right op x y).Keeps kind J := by
  unfold arithmeticSlow
  grind

@[grind ←] theorem keeps_arithmetic (place : Place) (left right : Expr) (op : Arithmetic)
    (x y : Value) : (arithmetic place left right op x y).Keeps kind J := by
  apply keeps_of
  intro K _ s kept
  unfold arithmetic
  split
  · exact kept
  · exact (keeps_arithmeticSlow _ _ _ _ _ _).at kept

@[grind ←] theorem keeps_bitwise (place : Place) (left right : Expr) (op : Bitwise)
    (x y : Value) : (bitwise place left right op x y).Keeps kind J := by
  unfold bitwise
  grind

@[grind ←] theorem keeps_negate (place : Place) (operand : Expr) (x : Value) :
    (negate place operand x).Keeps kind J := by
  unfold negate
  grind

@[grind ←] theorem keeps_complement (place : Place) (operand : Expr) (x : Value) :
    (complement place operand x).Keeps kind J := by
  unfold complement
  grind

@[grind ←] theorem keeps_length (place : Place) (operand : Expr) (x : Value) :
    (length place operand x).Keeps kind J := by
  unfold length
  grind

@[grind ←] theorem keeps_equal (place : Place) (x y : Value) : (equal place x y).Keeps kind J := by
  unfold equal
  grind

@[grind ←] theorem keeps_lessThan (place : Place) (x y : Value) :
    (lessThan place x y).Keeps kind J := by
  unfold lessThan
  grind

@[grind ←] theorem keeps_lessEqual (place : Place) (x y : Value) :
    (lessEqual place x y).Keeps kind J := by
  unfold lessEqual
  grind

@[grind ←] theorem keeps_charge (bytes : Nat) : (charge bytes).Keeps kind J := by
  apply keeps_of
  intro K _ s kept
  unfold charge
  split
  · split
    · exact kept
    · exact (kind.lasting K).effect (.charge s _) kept
  · exact kept

@[grind ←] theorem keeps_concat (place : Place) (left right : Expr) (x y : Value) :
    (concat place left right x y).Keeps kind J := by
  unfold concat
  grind

@[grind ←] theorem keeps_rawSet (place : Place) (ref : Nat) (key value : Value) :
    (rawSet place ref key value).Keeps kind J := by
  unfold rawSet
  split
  · exact keeps_fault _ _
  · apply keeps_ite
    · exact fun _ => keeps_fault _ _
    · exact fun _ => keeps_modify fun s kept =>
        Lasting.effect (.charge _ _) (Lasting.effect (.put s ref _ value) kept)
  · apply keeps_modify
    intro K _ s kept
    have put : K (s.put ref key value) := Lasting.effect (.put s ref key value) kept
    dsimp only
    split
    · exact put
    · exact Lasting.effect (.charge _ _) put

@[grind ←] theorem keeps_assignChain (place : Place) (blame : Expr) (fuel : Nat)
    (object key value : Value) : (assignChain place blame fuel object key value).Keeps kind J := by
  induction fuel generalizing blame object with
  | zero => exact keeps_fault _ _
  | succ fuel ih =>
      unfold assignChain
      grind

@[grind ←] theorem keeps_assign (place : Place) (blame : Expr) (object key value : Value) :
    (assign place blame object key value).Keeps kind J := by
  apply keeps_of
  intro K _ s kept
  unfold assign
  split
  · split
    · exact (keeps_rawSet _ _ _ _).at kept
    · exact (keeps_assignChain _ _ _ _ _ _).at kept
  · exact (keeps_assignChain _ _ _ _ _ _).at kept

end Calls

end Run

end LuaSession.Script
