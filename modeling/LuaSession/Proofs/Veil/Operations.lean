import LuaSession.Proofs.Script.Keeping
import LuaSession.Proofs.Veil.Stores

/-!
# Computations that respect a veil

A computation that starts with visible values in a veiled store never comes by a hidden
table: all that it gives, raises and asks for is visible, and the store stays veiled. Here
this is proved for the operations on values.
-/

namespace LuaSession.Script

variable {α β : Type} {veil : Veil} {m n : View}

/-- All that a step gives, raises and asks for is visible, in veiled stores that show what `n`
shows at least, as long as its requests are answered with visible values; and what it gives
has a property. Until a request is answered, more may be hidden of the tables that are made. -/
def Step.Ensures (P : View → α → Prop) : View → Step α → Prop
  | n, .done value s => s.Veiled n.veil ∧ Grown n (s.view n.veil) ∧ P (s.view n.veil) value
  | n, .fail raised s =>
      s.Veiled n.veil ∧ Grown n (s.view n.veil) ∧ Visible (s.view n.veil) raised
  | n, .ask request s resume =>
      s.Veiled n.veil ∧ Grown n (s.view n.veil) ∧ Visible (s.view n.veil) request ∧
      ∀ {veil : Veil} exit (after : Store), after.Veiled veil →
        Grown (s.view n.veil) (after.view veil) → Visible (after.view veil) exit →
          (resume exit after).Ensures P (after.view veil)

/-- A computation never comes by a hidden table, and what it gives has a property. -/
structure Run.Ensures (P : View → α → Prop) (n : View) (run : Run α) : Prop where
  step : ∀ {veil : Veil} (s : Store), s.Veiled veil → Grown n (s.view veil) →
    (run s).Ensures P (s.view veil)

/-- A computation never comes by a hidden table. -/
abbrev Run.Respects [Holds α] (n : View) (run : Run α) : Prop :=
  run.Ensures Visible n

variable {P : View → α → Prop} {Q : View → β → Prop}

namespace Step.Ensures

theorem weaken {step : Step α} {s : Store} (ensures : step.Ensures P (s.view n.veil))
    (grown : Grown n (s.view n.veil)) : step.Ensures P n := by
  cases step with
  | done _ _ | fail _ _ => exact ⟨ensures.1, grown.trans ensures.2.1, ensures.2.2⟩
  | ask _ _ _ => exact ⟨ensures.1, grown.trans ensures.2.1, ensures.2.2⟩

theorem bindAsked {step : Step α} {f : α → Store → Step β} (ensures : step.Ensures P n)
    (later : ∀ {veil : Veil} value (s : Store), s.Veiled veil → Grown n (s.view veil) →
      P (s.view veil) value → (f value s).Ensures Q (s.view veil)) : (step.bindAsked f).Ensures Q n := by
  induction step generalizing n with
  | done value s =>
      obtain ⟨veiled, grown, holds⟩ := ensures
      exact (later value s veiled grown holds).weaken grown
  | fail raised s => exact ensures
  | ask request s resume ih =>
      obtain ⟨veiled, grown, visible, resumes⟩ := ensures
      refine ⟨veiled, grown, visible, fun exit after isVeiled more shown => ?_⟩
      refine ih exit after (resumes exit after isVeiled more shown) fun value t tVeiled most holds => ?_
      exact later value t tVeiled (grown.trans (more.trans most)) holds

theorem bind {step : Step α} {f : α → Store → Step β} (ensures : step.Ensures P n)
    (later : ∀ {veil : Veil} value (s : Store), s.Veiled veil → Grown n (s.view veil) →
      P (s.view veil) value → (f value s).Ensures Q (s.view veil)) : (step.bind f).Ensures Q n := by
  rw [Step.bind_eq_bindAsked]
  exact ensures.bindAsked later

end Step.Ensures

namespace Run

theorem Ensures.weaken {run : Run α} (ensures : run.Ensures P m) (grown : Grown m n) :
    run.Ensures P n :=
  ⟨fun s veiled more => ensures.step s veiled (grown.trans more)⟩

theorem ensures_bind {first : Run α} {f : α → Run β} (ensures : first.Ensures P n)
    (later : ∀ m, Grown n m → ∀ value, P m value → (f value).Ensures Q m) :
    (first >>= f).Ensures Q n :=
  ⟨fun s veiled grown => (ensures.step s veiled grown).bind fun value t tVeiled more holds =>
    (later (t.view _) (grown.trans more) value holds).step t tVeiled (.refl _)⟩

@[grind ←] theorem respects_bind [Holds α] {first : Run α} {f : α → Run β}
    (respects : first.Respects n)
    (later : ∀ m, Grown n m → ∀ value, Visible m value → (f value).Ensures Q m) :
    (first >>= f).Ensures Q n :=
  ensures_bind respects later

theorem ensures_pure {value : α} (grows : ∀ {m}, Grown n m → P m value) :
    (pure value : Run α).Ensures P n :=
  ⟨fun _ veiled grown => ⟨veiled, .refl _, grows grown⟩⟩

@[grind ←] theorem respects_pure [Holds α] {value : α} (visible : Visible n value) :
    (pure value : Run α).Respects n :=
  ensures_pure visible.grow

theorem ensures_read {f : Store → α}
    (reads : ∀ {veil : Veil} (s : Store), s.Veiled veil → Grown n (s.view veil) →
      P (s.view veil) (f s)) :
    (read f).Ensures P n :=
  ⟨fun s veiled grown => ⟨veiled, .refl _, reads s veiled grown⟩⟩

@[grind ←] theorem respects_read [Holds α] {f : Store → α}
    (reads : ∀ {veil : Veil} (s : Store), s.Veiled veil → Grown n (s.view veil) →
      Visible (s.view veil) (f s)) :
    (read f).Respects n :=
  ensures_read reads

theorem respects_modify {f : Store → Store}
    (reaches : ∀ {veil : Veil} (s : Store), s.Veiled veil → Grown n (s.view veil) →
      s.Reaches veil (f s)) :
    (modify f).Respects n :=
  ⟨fun s veiled grown =>
    have reached := reaches s veiled grown
    ⟨reached.veiled, reached.grown, trivial⟩⟩

theorem ensures_update {f : Store → α × Store}
    (reaches : ∀ {veil : Veil} (s : Store), s.Veiled veil → Grown n (s.view veil) →
      s.Reaches veil (f s).2 ∧ P ((f s).2.view veil) (f s).1) : (update f).Ensures P n :=
  ⟨fun s veiled grown =>
    have reached := reaches s veiled grown
    ⟨reached.1.veiled, reached.1.grown, reached.2⟩⟩

/-- A new table is shown. -/
theorem ensures_newTable {table : Table} (visible : Visible n table) :
    (update (·.newTable table)).Ensures Shown n :=
  ensures_update fun _ veiled grown => veiled.newTable (visible.grow grown)

@[grind ←] theorem ensures_throw {raised : Raised} (visible : Visible n raised) :
    (throw raised : Run α).Ensures P n :=
  ⟨fun _ veiled grown => ⟨veiled, .refl _, visible.grow grown⟩⟩

@[grind ←] theorem ensures_raise {value : Value} (visible : Visible n value) :
    (raise value : Run α).Ensures P n :=
  ensures_throw visible

@[grind ←] theorem ensures_raiseBytes (message : Bytes) :
    (raiseBytes message : Run α).Ensures P n :=
  ensures_raise (visible_str message)

@[grind ←] theorem ensures_raiseText (message : String) :
    (raiseText message : Run α).Ensures P n :=
  ensures_raiseBytes _

@[grind ←] theorem respects_ask {request : Request} (visible : Visible n request) :
    (ask request).Respects n :=
  ⟨fun _ veiled grown => ⟨veiled, .refl _, visible.grow grown,
    fun _ _ isVeiled _ shown => ⟨isVeiled, .refl _, shown⟩⟩⟩

@[grind ←] theorem respects_askValues {request : Request} (visible : Visible n request) :
    (askValues request).Respects n := by
  unfold askValues
  grind

@[grind ←] theorem ensures_faultBytes (place : Place) (message : Bytes) :
    (faultBytes place message : Run α).Ensures P n := by
  refine ⟨fun s veiled grown => ?_⟩
  cases place <;> exact ⟨veiled, .refl _, trivial⟩

@[grind ←] theorem ensures_fault (place : Place) (message : String) :
    (fault place message : Run α).Ensures P n :=
  ensures_faultBytes _ _

theorem ensures_ite {condition : Prop} [Decidable condition] {first second : Run α}
    (yes : condition → first.Ensures P n) (no : ¬condition → second.Ensures P n) :
    (if condition then first else second).Ensures P n := by
  split
  next holds => exact yes holds
  next fails => exact no fails

@[grind ←] theorem respects_map [Holds α] [Holds β] {run : Run α} {f : α → β}
    (respects : run.Respects n)
    (visible : ∀ m, Grown n m → ∀ value, Visible m value → Visible m (f value)) :
    (f <$> run).Respects n := by
  rw [← bind_pure_comp]
  exact respects_bind respects fun m grown value isVisible =>
    respects_pure (visible m grown value isVisible)

/-- Computations on the members of a list, one after the other. -/
@[grind ←] theorem respects_mapM [Holds β] {f : α → Run β}
    (respects : ∀ m member, (f member).Respects m) (n : View) (list : List α) :
    (list.mapM f).Respects n := by
  induction list generalizing n with
  | nil => exact respects_pure visible_list_nil
  | cons member list ih =>
      rw [List.mapM_cons]
      grind

/-! ## Operations on values -/

@[grind ←] theorem ensures_failType (place : Place) (blame : Expr) (value : Value)
    (action : String) : (failType place blame value action : Run α).Ensures P n := by
  unfold failType
  grind

@[grind ←] theorem ensures_failInteger (place : Place) (left right : Expr) (x : Value) :
    (failInteger place left right x : Run α).Ensures P n := by
  unfold failInteger
  grind

@[grind ←] theorem ensures_failOrder (place : Place) (x y : Value) :
    (failOrder place x y : Run α).Ensures P n := by
  unfold failOrder
  grind

@[grind ←] theorem ensures_failOperand (place : Place) (action : String) (left right : Expr)
    (x y : Value) : (failOperand place action left right x y : Run α).Ensures P n := by
  unfold failOperand
  grind

section Values

variable {function object key value x y : Value} {arguments : Array Value}

@[grind ←] theorem respects_call (isFunction : Visible n function)
    (visible : Visible n arguments) (site : Site) :
    (call function arguments site).Respects n :=
  respects_askValues ⟨isFunction, visible⟩

@[grind ←] theorem respects_callLibrary (isFunction : Visible n function)
    (visible : Visible n arguments) : (callLibrary function arguments).Respects n :=
  respects_call isFunction visible _

@[grind ←] theorem respects_callEvent (place : Place) (event : String)
    (isFunction : Visible n function) (visible : Visible n arguments) :
    (callEvent place event function arguments).Respects n := by
  unfold callEvent
  grind

theorem visible_adapterField (key : Value) : Visible n (adapterField key) := by
  unfold adapterField
  split <;> trivial

@[grind ←] theorem Store.Veiled.visible_field? {s : Store} (veiled : s.Veiled veil)
    (visible : Visible (s.view veil) object) (key : Value) :
    Visible (s.view veil) (s.field? object key) := by
  unfold Store.field?
  split
  · have found := veiled.visible_get (visible_table.mp visible).isOpen key
    grind
  · split
    · exact visible_some.mpr (visible_adapterField key)
    · exact visible_none
  · exact visible_none

@[grind ←] theorem respects_indexChain (place : Place) (blame : Expr) (fuel : Nat)
    (isObject : Visible n object) (isKey : Visible n key) :
    (indexChain place blame fuel object key).Respects n := by
  induction fuel generalizing n blame object with
  | zero => exact ensures_fault _ _
  | succ fuel ih =>
      unfold indexChain
      grind

@[grind ←] theorem respects_index (place : Place) (blame : Expr)
    (isObject : Visible n object) (isKey : Visible n key) :
    (index place blame object key).Respects n := by
  have chain := respects_indexChain place blame chainLimit isObject isKey
  refine ⟨fun s veiled grown => ?_⟩
  unfold index
  split
  · dsimp only
    split
    · split
      · exact ⟨veiled, .refl _, visible_nil⟩
      · exact chain.step s veiled grown
    · exact ⟨veiled, .refl _, veiled.visible_get (visible_table.mp (isObject.grow grown)).isOpen key⟩
  · exact chain.step s veiled grown

@[grind ←] theorem respects_binaryEvent? (place : Place) (event : String) (key : Value)
    (isFirst : Visible n x) (isSecond : Visible n y) :
    (binaryEvent? place event key x y).Respects n := by
  unfold binaryEvent?
  grind

theorem visible_result? {op : Arithmetic} {result : Except NumberError Value}
    (found : op.result? x y = some result) : Visible n result := by
  unfold Arithmetic.result? Arithmetic.onInts at found
  grind

@[grind ←] theorem respects_arithmeticSlow (place : Place) (left right : Expr) (op : Arithmetic)
    (isFirst : Visible n x) (isSecond : Visible n y) :
    (arithmeticSlow place left right op x y).Respects n := by
  unfold arithmeticSlow
  split
  next value found => exact respects_pure (visible_result? found)
  next => exact ensures_fault _ _
  next => grind

@[grind ←] theorem respects_arithmetic (place : Place) (left right : Expr) (op : Arithmetic)
    (isFirst : Visible n x) (isSecond : Visible n y) :
    (arithmetic place left right op x y).Respects n := by
  refine ⟨fun s veiled grown => ?_⟩
  unfold arithmetic
  split
  next value found => exact ⟨veiled, .refl _, visible_result? found⟩
  next => exact (respects_arithmeticSlow place left right op isFirst isSecond).step s veiled grown

@[grind ←] theorem respects_bitwise (place : Place) (left right : Expr) (op : Bitwise)
    (isFirst : Visible n x) (isSecond : Visible n y) :
    (bitwise place left right op x y).Respects n := by
  unfold bitwise
  grind

theorem visible_negate? (x : Value) : Visible n (negate? x) := by
  unfold negate?
  split
  · exact visible_some.mpr trivial
  · exact visible_some.mpr trivial
  · exact visible_none

@[grind ←] theorem respects_negate (place : Place) (operand : Expr) (isVisible : Visible n x) :
    (negate place operand x).Respects n := by
  have number : Visible n (negate? x) := visible_negate? x
  unfold negate
  grind

@[grind ←] theorem respects_complement (place : Place) (operand : Expr)
    (isVisible : Visible n x) : (complement place operand x).Respects n := by
  unfold complement
  grind

@[grind ←] theorem respects_length (place : Place) (operand : Expr) (isVisible : Visible n x) :
    (length place operand x).Respects n := by
  unfold length
  grind

@[grind ←] theorem respects_equal (place : Place) (isFirst : Visible n x)
    (isSecond : Visible n y) : (equal place x y).Respects n := by
  unfold equal
  grind

@[grind ←] theorem respects_lessThan (place : Place) (isFirst : Visible n x)
    (isSecond : Visible n y) : (lessThan place x y).Respects n := by
  unfold lessThan
  grind

@[grind ←] theorem respects_lessEqual (place : Place) (isFirst : Visible n x)
    (isSecond : Visible n y) : (lessEqual place x y).Respects n := by
  unfold lessEqual
  split
  · exact respects_pure trivial
  · exact respects_pure trivial
  · split
    · exact respects_pure trivial
    · refine respects_bind (respects_binaryEvent? place "le" _ isFirst isSecond) fun m grown found _ => ?_
      grind

@[grind ←] theorem respects_charge (bytes : Nat) : (charge bytes).Respects n := by
  refine ⟨fun s veiled grown => ?_⟩
  unfold charge
  split
  · split
    · exact ⟨veiled, .refl _, visible_memory⟩
    · exact ⟨(veiled.charged bytes).veiled, (veiled.charged bytes).grown, trivial⟩
  · exact ⟨veiled, .refl _, trivial⟩

@[grind ←] theorem respects_concat (place : Place) (left right : Expr)
    (isFirst : Visible n x) (isSecond : Visible n y) :
    (concat place left right x y).Respects n := by
  unfold concat
  grind

@[grind ←] theorem respects_rawSet (place : Place) {ref : Nat} (shown : Shown n ref)
    (isKey : Visible n key) (isValue : Visible n value) :
    (rawSet place ref key value).Respects n := by
  have puts (key : Value) (isKey : Visible n key) {veil : Veil} (s : Store)
      (veiled : s.Veiled veil) (grown : Grown n (s.view veil)) :
      s.Reaches veil (s.put ref key value) :=
    veiled.put (shown.grow grown).isOpen (isKey.grow grown) (isValue.grow grown)
  unfold rawSet
  split
  · exact ensures_fault _ _
  · refine ensures_ite (fun _ => ensures_fault _ _) fun _ =>
      respects_modify fun s veiled grown => ?_
    have reached := puts _ (visible_key isKey) s veiled grown
    exact reached.trans (reached.veiled.charged _)
  · refine respects_modify fun s veiled grown => ?_
    have reached := puts _ isKey s veiled grown
    dsimp only
    split
    · exact reached
    · exact reached.trans (reached.veiled.charged _)

@[grind ←] theorem respects_assignChain (place : Place) (blame : Expr) (fuel : Nat)
    (isObject : Visible n object) (isKey : Visible n key)
    (isValue : Visible n value) :
    (assignChain place blame fuel object key value).Respects n := by
  induction fuel generalizing n blame object with
  | zero => exact ensures_fault _ _
  | succ fuel ih =>
      unfold assignChain
      refine respects_bind (respects_read fun s veiled grown => ?_) fun m grown handler isHandler => ?_
      · have found := veiled.visible_metafield (isObject.grow grown) Event.newindex
        grind
      · grind

@[grind ←] theorem respects_assign (place : Place) (blame : Expr)
    (isObject : Visible n object) (isKey : Visible n key)
    (isValue : Visible n value) : (assign place blame object key value).Respects n := by
  have chain := respects_assignChain place blame chainLimit isObject isKey isValue
  refine ⟨fun s veiled grown => ?_⟩
  unfold assign
  split
  · split
    · exact (respects_rawSet place (visible_table.mp isObject) isKey isValue).step s veiled grown
    · exact chain.step s veiled grown
  · exact chain.step s veiled grown

end Values

end Run

end LuaSession.Script
