import LuaSession.Proofs.Script.Evaluation
import LuaSession.Proofs.Veil.Operations

/-!
# Evaluation respects a veil

What a script can write out refers to nothing, so whatever is evaluated comes by visible
values only.
-/

namespace LuaSession.Script

variable {veil : Veil} {m n : View}

instance : Holds Target where
  visible n
    | .field object key _ => Visible n object ∧ Visible n key
    | _ => True
  grow {m n target} visible grown := by
    cases target with
    | field _ _ _ => exact ⟨visible.1.grow grown, visible.2.grow grown⟩
    | _ => trivial

@[simp, grind =] theorem visible_field {object key : Value} {blame : Expr} :
    Visible n (Target.field object key blame) ↔ Visible n object ∧ Visible n key :=
  Iff.rfl

@[simp, grind .] theorem visible_slotTarget (index : Nat) : Visible n (Target.slot index) :=
  trivial

@[simp, grind .] theorem visible_capturedTarget (index : Nat) :
    Visible n (Target.captured index) := trivial

@[simp, grind .] theorem visible_nowhere : Visible n Target.nowhere := trivial

namespace Run

/-! ## Variables -/

@[grind ←] theorem respects_slot (index : Nat) : (slot index).Respects n :=
  respects_read fun _ veiled _ => veiled.visible_slot index

section Values

variable {value x y : Value} {values : Array Value}

@[grind ←] theorem respects_setSlot (index : Nat) (isVisible : Visible n value) :
    (setSlot index value).Respects n :=
  respects_modify fun _ veiled grown => veiled.setSlot index (isVisible.grow grown)

@[grind ←] theorem respects_declareSlot (index : Nat) (isVisible : Visible n value) :
    (declareSlot index value).Respects n :=
  respects_modify fun _ veiled grown => veiled.declareSlot index (isVisible.grow grown)

@[grind ←] theorem respects_declareSlots (first : Nat) (areVisible : Visible n values)
    (count : Nat) : (declareSlots first values count).Respects n := by
  induction count with
  | zero => exact respects_pure trivial
  | succ count ih =>
      unfold declareSlots
      grind

theorem respects_setCaptured (index : Nat) (isVisible : Visible n value) :
    (modify fun s => s.setCaptured index value).Respects n :=
  respects_modify fun _ veiled grown => veiled.setCaptured index (isVisible.grow grown)

theorem respects_makeClosure (code : Code) : (update (·.makeClosure code)).Respects n :=
  ensures_update fun _ veiled _ => ⟨veiled.makeClosure code, trivial⟩

/-! ## Expressions -/

@[grind ←] theorem respects_binary (op : BinaryOp) (left right : Expr) (line : Nat)
    (isFirst : Visible n x) (isSecond : Visible n y) :
    (binary op left right line x y).Respects n := by
  unfold binary
  grind

@[grind ←] theorem respects_unary (op : UnaryOp) (operand : Expr) (line : Nat)
    (isVisible : Visible n x) : (unary op operand line x).Respects n := by
  unfold unary
  grind

end Values

theorem respects_extra : (read fun s => s.frame.extra).Respects n :=
  respects_read fun _ veiled _ => veiled.frame.extra

mutual

@[grind ←] theorem respects_eval (n : View) (expr : Expr) : (eval expr).Respects n := by
  cases expr with
  | const constant => exact respects_pure (visible_constant constant)
  | «variadic» =>
      exact respects_read fun _ veiled _ => visible_getD veiled.frame.extra visible_nil 0
  | slot index name => exact respects_slot index
  | captured index name => exact respects_read fun _ veiled _ => veiled.visible_capturedValue index
  | index object key line =>
      have first (m : View) : (eval object).Respects m := respects_eval m object
      have second (m : View) : (eval key).Respects m := respects_eval m key
      unfold eval
      grind
  | call function arguments line room =>
      have first (m : View) : (eval function).Respects m := respects_eval m function
      have rest (m : View) : (evalList arguments #[]).Respects m :=
        respects_evalList m arguments visible_empty
      unfold eval
      grind
  | method object name arguments nameLine line room =>
      have first (m : View) : (eval object).Respects m := respects_eval m object
      have rest (m : View) (o : Value) (isVisible : Visible m o) :
          (evalList arguments #[o]).Respects m :=
        respects_evalList m arguments (visible_one isVisible)
      unfold eval
      grind
  | function code => exact respects_makeClosure code
  | unary op operand line =>
      have only (m : View) : (eval operand).Respects m := respects_eval m operand
      unfold eval
      grind
  | binary op left right line =>
      have first (m : View) : (eval left).Respects m := respects_eval m left
      have second (m : View) : (eval right).Respects m := respects_eval m right
      unfold eval
      grind
  | and left right =>
      have first (m : View) : (eval left).Respects m := respects_eval m left
      have second (m : View) : (eval right).Respects m := respects_eval m right
      unfold eval
      grind
  | or left right =>
      have first (m : View) : (eval left).Respects m := respects_eval m left
      have second (m : View) : (eval right).Respects m := respects_eval m right
      unfold eval
      grind
  | single inner => exact respects_eval n inner
  | table fields =>
      unfold eval
      refine ensures_bind (ensures_newTable (Table.visible_blank _ _)) fun m grown ref shown => ?_
      refine respects_bind (respects_evalFields m fields shown visible_empty) fun k more values areVisible => ?_
      have isShown := shown.grow more
      refine respects_bind (respects_modify fun s veiled most => ?_) fun l most _ _ => ?_
      · have filled := veiled.modifyTable (f := (·.fill values)) (isShown.grow most).isOpen
          fun table visible => Table.visible_fill visible (areVisible.grow most)
        exact filled.trans (filled.veiled.charged _)
      · exact respects_pure (visible_table.mpr (isShown.grow most))

@[grind ←] theorem respects_evalMulti (n : View) (expr : Expr) : (evalMulti expr).Respects n := by
  cases expr with
  | «variadic» => exact respects_extra
  | call function arguments line room =>
      have first (m : View) : (eval function).Respects m := respects_eval m function
      have rest (m : View) : (evalList arguments #[]).Respects m :=
        respects_evalList m arguments visible_empty
      unfold evalMulti
      grind
  | method object name arguments nameLine line room =>
      have first (m : View) : (eval object).Respects m := respects_eval m object
      have rest (m : View) (o : Value) (isVisible : Visible m o) :
          (evalList arguments #[o]).Respects m :=
        respects_evalList m arguments (visible_one isVisible)
      unfold evalMulti
      grind
  | _ => exact respects_pure visible_empty

@[grind ←] theorem respects_evalList (n : View) (exprs : List Expr) {done : Array Value}
    (areVisible : Visible n done) : (evalList exprs done).Respects n := by
  cases exprs with
  | nil => exact respects_pure areVisible
  | cons expr rest =>
      have single (m : View) : (eval expr).Respects m := respects_eval m expr
      have multi (m : View) : (evalMulti expr).Respects m := respects_evalMulti m expr
      have later (m : View) (done : Array Value) (areVisible : Visible m done) :
          (evalList rest done).Respects m := respects_evalList m rest areVisible
      unfold evalList
      grind

@[grind ←] theorem respects_evalFields (n : View) (fields : List Field) {ref : Nat}
    (shown : Shown n ref) {done : Array Value} (areVisible : Visible n done) :
    (evalFields fields ref done).Respects n := by
  cases fields with
  | nil => exact respects_pure areVisible
  | cons field rest =>
      have later (m : View) (done : Array Value) (shown : Shown m ref)
          (areVisible : Visible m done) : (evalFields rest ref done).Respects m :=
        respects_evalFields m rest shown areVisible
      cases field with
      | positional expr =>
          have single (m : View) : (eval expr).Respects m := respects_eval m expr
          have multi (m : View) : (evalMulti expr).Respects m := respects_evalMulti m expr
          unfold evalFields
          grind
      | keyed key expr line =>
          have first (m : View) : (eval key).Respects m := respects_eval m key
          have second (m : View) : (eval expr).Respects m := respects_eval m expr
          unfold evalFields
          grind

end

/-! ## Statements -/

@[grind ←] theorem respects_store (line : Nat) {target : Target} {value : Value}
    (isTarget : Visible n target) (isVisible : Visible n value) :
    (store line target value).Respects n := by
  cases target with
  | captured index => exact respects_setCaptured index isVisible
  | _ =>
      unfold store
      grind

@[grind ←] theorem respects_storeAll (line : Nat) {values : Array Value} (index : Nat)
    {targets : List Target} (areTargets : Visible n targets)
    (areVisible : Visible n values) : (storeAll line values index targets).Respects n := by
  induction targets generalizing index with
  | nil => exact respects_pure trivial
  | cons target rest ih =>
      have later := ih (index + 1) (visible_cons.mp areTargets).2
      unfold storeAll
      grind

@[grind ←] theorem ensures_failControl {α : Type} {P : View → α → Prop} (line : Nat) (what : String)
    (value : Value) : (failControl line what value : Run α).Ensures P n := by
  unfold failControl
  grind

@[grind ←] theorem respects_countLoop (n : View) (index : Nat) (labelled : Bool) (body : List Stmt)
    (line : Nat) (start stop step : Value) :
    (countLoop index labelled body line start stop step).Respects n := by
  unfold countLoop
  split
  · grind
  · split
    · exact ensures_failControl _ _ _
    · split
      · exact ensures_failControl _ _ _
      · grind

@[grind ←] theorem respects_iterateLoop (first count : Nat) (labelled : Bool) (body : List Stmt)
    (line room : Nat) {values : Array Value} (areVisible : Visible n values) :
    (iterateLoop first count labelled body line room values).Respects n := by
  unfold iterateLoop
  grind

@[grind ←] theorem respects_inBlock (labelled : Bool) (body : List Stmt) {run : Run Exit}
    (respects : run.Respects n) : (inBlock labelled body run).Respects n := by
  unfold inBlock
  grind

@[grind ←] theorem respects_target (n : View) (expr : Expr) : (target expr).Respects n := by
  unfold target
  grind

@[grind ←] theorem respects_targets (n : View) (exprs : List Expr) :
    (targets exprs).Respects n := by
  induction exprs generalizing n with
  | nil => exact respects_pure visible_list_nil
  | cons expr rest ih =>
      unfold targets
      grind

@[grind ←] theorem respects_evalEarly (n : View) (expr : Expr) : (evalEarly expr).Respects n := by
  unfold evalEarly
  grind

@[grind ←] theorem respects_evalLate (expr : Expr) {value : Value} (isVisible : Visible n value) :
    (evalLate expr value).Respects n := by
  unfold evalLate
  grind

@[grind ←] theorem respects_assignOne (n : View) (target value : Expr) (line : Nat) :
    (assignOne target value line).Respects n := by
  cases target with
  | captured index name =>
      refine respects_bind (respects_eval n value) fun m _ x isVisible => ?_
      exact respects_bind (respects_setCaptured index isVisible) fun _ _ _ _ =>
        respects_pure trivial
  | _ =>
      unfold assignOne
      grind

@[grind ←] theorem respects_assignAll (n : View) (targetExprs values : List Expr) (line : Nat) :
    (assignAll targetExprs values line).Respects n := by
  unfold assignAll
  grind

@[grind ←] theorem respects_declareAll (n : View) (first count : Nat) (values : List Expr) :
    (declareAll first count values).Respects n := by
  unfold declareAll
  grind

@[grind ←] theorem respects_tailCall (n : View) (expr : Expr) : (tailCall expr).Respects n := by
  unfold tailCall
  grind

mutual

@[grind ←] theorem respects_exec (n : View) (statement : Stmt) : (exec statement).Respects n := by
  cases statement with
  | block labelled body => exact respects_inBlock labelled body (respects_execBlock n none body)
  | branch clauses => exact respects_execClauses n clauses
  | declareFunction index code =>
      unfold exec
      refine respects_bind (respects_declareSlot index visible_nil) fun m _ _ _ => ?_
      refine respects_bind (respects_makeClosure code) fun k _ closure isVisible => ?_
      exact respects_bind (respects_setSlot index isVisible) fun _ _ _ _ => respects_pure trivial
  | _ =>
      unfold exec
      grind

@[grind ←] theorem respects_execBlock (n : View) (condition : Option Expr) (body : List Stmt) :
    (execBlock condition body).Respects n := by
  cases body with
  | nil => exact respects_pure trivial
  | cons statement rest =>
      have opening (m : View) : (exec statement).Respects m := respects_exec m statement
      have later (m : View) : (execBlock condition rest).Respects m :=
        respects_execBlock m condition rest
      unfold execBlock
      grind

@[grind ←] theorem respects_execClauses (n : View) (clauses : List Clause) :
    (execClauses clauses).Respects n := by
  cases clauses with
  | nil => exact respects_pure trivial
  | cons clause rest =>
      obtain ⟨condition, labelled, body⟩ := clause
      have inner (m : View) : (execBlock none body).Respects m := respects_execBlock m none body
      have later (m : View) : (execClauses rest).Respects m := respects_execClauses m rest
      unfold execClauses
      grind

end

@[grind ←] theorem respects_evalEnd (n : View) (condition : Expr) :
    (evalEnd condition).Respects n := by
  unfold evalEnd
  grind

end Run

/-! ## Loops -/

namespace Loop

open Run

@[grind ←] theorem respects_once (n : View) (labelled : Bool) (body : List Stmt) :
    (once labelled body).Respects n := by
  unfold once
  grind

@[grind ←] theorem respects_withResults (first count : Nat) (labelled : Bool) (body : List Stmt)
    {results : Array Value} (areVisible : Visible n results) :
    (withResults first count labelled body results).Respects n := by
  unfold withResults
  grind

@[grind ←] theorem respects_iterateOnce (n : View) (first count : Nat) (labelled : Bool)
    (body : List Stmt)
    (line room : Nat) : (iterateOnce first count labelled body line room).Respects n := by
  unfold iterateOnce
  refine respects_bind (respects_slot _) fun m _ iterator isIterator => ?_
  refine respects_bind (respects_slot _) fun k more state isState => ?_
  refine respects_bind (respects_slot _) fun l most control isControl => ?_
  grind

theorem respects_iteration? {loop : Loop} {run : Run Exit} {rest : Option Loop}
    (found : loop.iteration? = some (run, rest)) : run.Respects n := by
  cases loop <;>
  · unfold iteration? at found
    grind

end Loop

end LuaSession.Script
