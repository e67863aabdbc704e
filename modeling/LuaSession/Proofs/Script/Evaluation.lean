import LuaSession.Proofs.Script.Keeping
import LuaSession.Proofs.Script.Sparing

/-!
# Evaluation keeps what scripts cannot change

The value of an expression, the effect of a statement, and one iteration of a
loop: whatever is evaluated keeps every property that functions cannot change which
are written in scripts and spare the captured variables that they hold.
-/

namespace LuaSession.Script

variable {held : Nat → Prop} {J : Store → Prop}

/-! ## Variables -/

/-- A property of stores that the running function cannot change as long as it spares
the captured variables that it holds. -/
class Scripted (held : Nat → Prop) (J : Store → Prop) : Prop extends Lasting J where
  setSlot : ∀ {s : Store}, J s → ∀ index value, J (s.setSlot index value)
  declareSlot : ∀ {s : Store}, J s → ∀ index value, J (s.declareSlot index value)
  setCaptured : ∀ {s : Store}, J s → ∀ index value, ¬held index → J (s.setCaptured index value)
  makeClosure : ∀ {s : Store}, J s → ∀ code : Code, Spares held code.info.taken →
    J (s.makeClosure code).2

namespace Stable

variable [Stable J]

theorem setCell {s : Store} (kept : J s) (ref : Nat) (value : Value) : J (s.setCell ref value) :=
  change (.setCell s ref value) kept

theorem newCell {s : Store} (kept : J s) (value : Value) : J (s.newCell value).2 :=
  change (.newCell s value) kept

theorem setSlot {s : Store} (kept : J s) (index : Nat) (value : Value) :
    J (s.setSlot index value) := by
  unfold Store.setSlot
  dsimp only
  split
  · exact change (.frame s _) kept
  · exact setCell kept _ value

theorem declareSlot {s : Store} (kept : J s) (index : Nat) (value : Value) :
    J (s.declareSlot index value) := by
  unfold Store.declareSlot
  split
  · exact change (.frame _ _) (newCell kept value)
  · exact change (.frame s _) kept

theorem capture {s : Store} (kept : J s) (captures : Array Capture) :
    J (s.capture captures).2 := by
  unfold Store.capture
  rw [← Array.foldl_toList]
  generalize (#[] : Array Nat) = cells
  induction captures.toList generalizing s cells with
  | nil => exact kept
  | cons capture captures ih =>
      rw [List.foldl_cons]
      cases capture with
      | captured index => exact ih kept _
      | slot index =>
          dsimp only
          split
          · exact ih kept _
          · exact ih (change (.frame _ _) (newCell kept _)) _

/-- What scripts cannot change, no function can, whatever it holds. -/
instance : Scripted held J where
  setSlot kept index value := setSlot kept index value
  declareSlot kept index value := declareSlot kept index value
  setCaptured kept _ value _ := setCell kept _ value
  makeClosure kept code _ := change (.newClosure _ _) (capture kept code.info.captures)

end Stable

/-- What functions do that are written in scripts and spare what they hold. -/
def Kind.script (held : Nat → Prop) : Kind where
  keeps J := Scripted held J
  asks
    | .call .. => True
    | .loop loop => Spares held loop.touched
    | .labelled body condition => Spares held (Stmt.allTouched body ++ Expr.endTouched condition)
    | .guarded _ _ _ body => Spares held body.touched
    | _ => False

instance : (Kind.script held).Calls :=
  ⟨fun scripted => scripted.toLasting, fun _ _ _ => trivial⟩

instance [Scripted held J] : (Kind.script held).Holds J := ⟨inferInstanceAs (Scripted held J)⟩

theorem Kind.scripted (held : Nat → Prop) [holds : (Kind.script held).Holds J] :
    Scripted held J :=
  holds.keeps

namespace Run

@[grind ←] theorem keeps_askLoop {loop : Loop} (spares : Spares held loop.touched) :
    (ask (.loop loop)).Keeps (.script held) J :=
  keeps_ask spares

@[grind ←] theorem keeps_askLabelled {body : List Stmt} {condition : Option Expr}
    (spares : Spares held (Stmt.allTouched body)) (ends : Spares held (Expr.endTouched condition)) :
    (ask (.labelled body condition)).Keeps (.script held) J :=
  keeps_ask (spares_append.mpr ⟨spares, ends⟩)

@[grind ←] theorem keeps_askGuarded {value : Value} {name : Bytes} {line : Nat} {body : Guarded}
    (spares : Spares held body.touched) :
    (ask (.guarded value name line body)).Keeps (.script held) J :=
  keeps_ask spares

@[grind ←] theorem keeps_slot (index : Nat) : (slot index).Keeps (.script held) J := keeps_read _

@[grind ←] theorem keeps_setSlot (index : Nat) (value : Value) :
    (setSlot index value).Keeps (.script held) J :=
  keeps_of fun _ kept => (Kind.scripted held).setSlot kept index value

@[grind ←] theorem keeps_declareSlot (index : Nat) (value : Value) :
    (declareSlot index value).Keeps (.script held) J :=
  keeps_of fun _ kept => (Kind.scripted held).declareSlot kept index value

@[grind ←] theorem keeps_declareSlots (first : Nat) (values : Array Value) (count : Nat) :
    (declareSlots first values count).Keeps (.script held) J := by
  induction count with
  | zero => exact keeps_pure _
  | succ count ih =>
      unfold declareSlots
      grind

theorem keeps_setCaptured {index : Nat} (free : ¬held index) (value : Value) :
    (modify fun s => s.setCaptured index value).Keeps (.script held) J :=
  keeps_of fun _ kept => (Kind.scripted held).setCaptured kept index value free

theorem keeps_makeClosure {code : Code} (spares : Spares held code.info.taken) :
    (update (·.makeClosure code)).Keeps (.script held) J :=
  keeps_of fun _ kept => (Kind.scripted held).makeClosure kept code spares

/-! ## Expressions -/

@[grind ←] theorem keeps_binary (op : BinaryOp) (left right : Expr) (line : Nat) (x y : Value) :
    (binary op left right line x y).Keeps (.script held) J := by
  unfold binary
  grind

@[grind ←] theorem keeps_unary (op : UnaryOp) (operand : Expr) (line : Nat) (x : Value) :
    (unary op operand line x).Keeps (.script held) J := by
  unfold unary
  grind

mutual

@[grind ←] theorem keeps_eval (expr : Expr) (spares : Spares held expr.touched) :
    (eval expr).Keeps (.script held) J := by
  cases expr with
  | const value => exact keeps_pure value.value
  | «variadic» => exact keeps_read _
  | slot index name => exact keeps_slot index
  | captured index name => exact keeps_read _
  | index object key line =>
      simp only [Expr.touched, spares_append] at spares
      have first := keeps_eval object spares.1
      have second := keeps_eval key spares.2
      unfold eval
      grind
  | call function arguments line room =>
      simp only [Expr.touched, spares_append] at spares
      have first := keeps_eval function spares.1
      have rest := keeps_evalList arguments spares.2
      unfold eval
      grind
  | method object name arguments nameLine line room =>
      simp only [Expr.touched, spares_append] at spares
      have first := keeps_eval object spares.1
      have rest := keeps_evalList arguments spares.2
      unfold eval
      grind
  | function code => exact keeps_makeClosure spares
  | unary op operand line =>
      have only := keeps_eval operand spares
      unfold eval
      grind
  | binary op left right line =>
      simp only [Expr.touched, spares_append] at spares
      have first := keeps_eval left spares.1
      have second := keeps_eval right spares.2
      unfold eval
      grind
  | and left right =>
      simp only [Expr.touched, spares_append] at spares
      have first := keeps_eval left spares.1
      have second := keeps_eval right spares.2
      unfold eval
      grind
  | or left right =>
      simp only [Expr.touched, spares_append] at spares
      have first := keeps_eval left spares.1
      have second := keeps_eval right spares.2
      unfold eval
      grind
  | single inner => exact keeps_eval inner spares
  | table fields =>
      have rest := keeps_evalFields fields spares
      unfold eval
      refine keeps_bind (keeps_update fun s kept => Lasting.effect (.newTable s _) kept) fun ref => ?_
      refine keeps_bind (rest ref #[]) fun values => ?_
      refine keeps_bind (keeps_modify fun s kept => ?_) fun _ => keeps_pure _
      exact Lasting.effect (.charge _ _) (Lasting.effect (.fill s ref values) kept)

@[grind ←] theorem keeps_evalMulti (expr : Expr) (spares : Spares held expr.touched) :
    (evalMulti expr).Keeps (.script held) J := by
  cases expr with
  | «variadic» => exact keeps_read _
  | call function arguments line room =>
      simp only [Expr.touched, spares_append] at spares
      have first := keeps_eval function spares.1
      have rest := keeps_evalList arguments spares.2
      unfold evalMulti
      grind
  | method object name arguments nameLine line room =>
      simp only [Expr.touched, spares_append] at spares
      have first := keeps_eval object spares.1
      have rest := keeps_evalList arguments spares.2
      unfold evalMulti
      grind
  | _ => exact keeps_pure _

@[grind ←] theorem keeps_evalList (exprs : List Expr) (spares : Spares held (Expr.allTouched exprs))
    (done : Array Value) : (evalList exprs done).Keeps (.script held) J := by
  cases exprs with
  | nil => exact keeps_pure done
  | cons expr rest =>
      simp only [Expr.allTouched, spares_append] at spares
      have single := keeps_eval expr spares.1
      have multi := keeps_evalMulti expr spares.1
      have later := keeps_evalList rest spares.2
      unfold evalList
      grind

@[grind ←] theorem keeps_evalFields (fields : List Field)
    (spares : Spares held (Field.allTouched fields)) (ref : Nat) (done : Array Value) :
    (evalFields fields ref done).Keeps (.script held) J := by
  cases fields with
  | nil => exact keeps_pure done
  | cons field rest =>
      cases field with
      | positional expr =>
          simp only [Field.allTouched, spares_append] at spares
          have single := keeps_eval expr spares.1
          have multi := keeps_evalMulti expr spares.1
          have later := keeps_evalFields rest spares.2
          unfold evalFields
          grind
      | keyed key expr line =>
          simp only [Field.allTouched, spares_append] at spares
          have first := keeps_eval key spares.1
          have second := keeps_eval expr spares.2.1
          have later := keeps_evalFields rest spares.2.2
          unfold evalFields
          grind

end

/-! ## Statements -/

@[grind ←] theorem keeps_store (line : Nat) (target : Target) (value : Value)
    (spares : Spares held target.touched) : (store line target value).Keeps (.script held) J := by
  cases target with
  | captured index => exact keeps_setCaptured (spares index (by simp [Target.touched])) value
  | _ =>
      unfold store
      grind

@[grind ←] theorem keeps_storeAll (line : Nat) (values : Array Value) (index : Nat)
    (targets : List Target) (spares : ∀ target ∈ targets, Spares held target.touched) :
    (storeAll line values index targets).Keeps (.script held) J := by
  induction targets generalizing index with
  | nil => exact keeps_pure _
  | cons target rest ih =>
      obtain ⟨first, others⟩ := List.forall_mem_cons.mp spares
      have later := ih (index + 1) others
      unfold storeAll
      grind

@[grind ←] theorem keeps_failControl (line : Nat) (what : String) (value : Value) {α : Type} :
    (failControl line what value : Run α).Keeps (.script held) J := by
  unfold failControl
  grind

@[grind ←] theorem keeps_countLoop (index : Nat) (labelled : Bool) (body : List Stmt)
    (spares : Spares held (Stmt.allTouched body)) (line : Nat) (start stop step : Value) :
    (countLoop index labelled body line start stop step).Keeps (.script held) J := by
  have ints (next step : Int64) (remaining : UInt64) :
      Spares held (Loop.countInts index next step remaining labelled body).touched := spares
  have floats (next stop step : Binary64) :
      Spares held (Loop.countFloats index next stop step labelled body).touched := spares
  unfold countLoop
  grind

@[grind ←] theorem keeps_iterateLoop (first count : Nat) (labelled : Bool) (body : List Stmt)
    (spares : Spares held (Stmt.allTouched body)) (line room : Nat) (values : Array Value) :
    (iterateLoop first count labelled body line room values).Keeps (.script held) J := by
  have loop : Spares held (Loop.iterate first count labelled body line room).touched := spares
  have guarded :
      Spares held (Guarded.loop (.iterate first count labelled body line room)).touched := spares
  unfold iterateLoop
  grind

@[grind ←] theorem keeps_inBlock (labelled : Bool) (body : List Stmt)
    (spares : Spares held (Stmt.allTouched body)) {run : Run Exit}
    (keeps : run.Keeps (.script held) J) : (inBlock labelled body run).Keeps (.script held) J := by
  have ends : Spares held (Expr.endTouched none) := spares_nil
  unfold inBlock
  grind

@[grind ←] theorem keeps_target (expr : Expr) (spares : Spares held expr.assigned) :
    (target expr).Keeps (.script held) J := by
  cases expr with
  | index object key line =>
      simp only [Expr.assigned, spares_append] at spares
      have first := keeps_eval (J := J) object spares.1
      have second := keeps_eval (J := J) key spares.2
      unfold target
      grind
  | _ => exact keeps_pure _

/-- A target touches no more than its expression says. -/
theorem gives_target {expr : Expr} (spares : Spares held expr.assigned) :
    (target expr).Gives fun target => Spares held target.touched := by
  cases expr with
  | captured index name => exact gives_pure spares
  | index object key line => exact gives_bind fun o => gives_bind fun k => gives_pure spares_nil
  | _ => exact gives_pure spares_nil

@[grind ←] theorem keeps_targets (exprs : List Expr)
    (spares : Spares held (Expr.allAssigned exprs)) :
    (targets exprs).Keeps (.script held) J := by
  induction exprs with
  | nil => exact keeps_pure _
  | cons expr rest ih =>
      simp only [Expr.allAssigned, spares_append] at spares
      have first := keeps_target (J := J) expr spares.1
      have later := ih spares.2
      unfold targets
      grind

theorem gives_targets {exprs : List Expr} (spares : Spares held (Expr.allAssigned exprs)) :
    (targets exprs).Gives fun places => ∀ target ∈ places, Spares held target.touched := by
  induction exprs with
  | nil => exact gives_pure (by simp)
  | cons expr rest ih =>
      simp only [Expr.allAssigned, spares_append] at spares
      refine (gives_target spares.1).bind fun first firstSpares => ?_
      refine (ih spares.2).bind fun others othersSpare => ?_
      exact gives_pure (List.forall_mem_cons.mpr ⟨firstSpares, othersSpare⟩)

@[grind ←] theorem keeps_evalEarly (expr : Expr) (spares : Spares held expr.touched) :
    (evalEarly expr).Keeps (.script held) J := by
  unfold evalEarly
  grind

@[grind ←] theorem keeps_evalLate (expr : Expr) (value : Value) :
    (evalLate expr value).Keeps (.script held) J := by
  unfold evalLate
  grind

@[grind ←] theorem keeps_assignOne (target value : Expr) (line : Nat)
    (targetSpares : Spares held target.assigned) (valueSpares : Spares held value.touched) :
    (assignOne target value line).Keeps (.script held) J := by
  cases target with
  | captured index name =>
      refine keeps_bind (keeps_eval value valueSpares) fun x => ?_
      have free : ¬held index := targetSpares index (by simp [Expr.assigned])
      exact keeps_bind (keeps_setCaptured free x) fun _ => keeps_pure _
  | index object key line =>
      simp only [Expr.assigned, spares_append] at targetSpares
      have first := keeps_evalEarly (J := J) object targetSpares.1
      have second := keeps_evalEarly (J := J) key targetSpares.2
      unfold assignOne
      grind
  | _ =>
      unfold assignOne
      grind

@[grind ←] theorem keeps_assignAll (targetExprs values : List Expr) (line : Nat)
    (targetsSpare : Spares held (Expr.allAssigned targetExprs))
    (valuesSpare : Spares held (Expr.allTouched values)) :
    (assignAll targetExprs values line).Keeps (.script held) J := by
  unfold assignAll
  refine keeps_bind_of_gives (keeps_targets _ targetsSpare) (gives_targets targetsSpare) ?_
  intro places placesSpare
  grind

@[grind ←] theorem keeps_declareAll (first count : Nat) (values : List Expr)
    (spares : Spares held (Expr.allTouched values)) :
    (declareAll first count values).Keeps (.script held) J := by
  have single (expr : Expr) (only : values = [expr]) : Spares held expr.touched := by
    simpa [only, Expr.allTouched] using spares
  unfold declareAll
  grind

@[grind ←] theorem keeps_tailCall (expr : Expr) (spares : Spares held expr.touched) :
    (tailCall expr).Keeps (.script held) J := by
  cases expr with
  | call function arguments line room =>
      simp only [Expr.touched, spares_append] at spares
      unfold tailCall
      grind
  | method object name arguments nameLine line room =>
      simp only [Expr.touched, spares_append] at spares
      unfold tailCall
      grind
  | _ => exact keeps_pure _

mutual

@[grind ←] theorem keeps_exec (statement : Stmt) (spares : Spares held statement.touched) :
    (exec statement).Keeps (.script held) J := by
  cases statement with
  | assign targets values line =>
      simp only [Stmt.touched, spares_append] at spares
      have target (expr : Expr) (only : targets = [expr]) : Spares held expr.assigned := by
        simpa [only, Expr.allAssigned] using spares.1
      have value (expr : Expr) (only : values = [expr]) : Spares held expr.touched := by
        simpa [only, Expr.allTouched] using spares.2
      unfold exec
      grind
  | declare first count values =>
      have declared := keeps_declareAll (J := J) first count values spares
      unfold exec
      grind
  | run call =>
      have called := keeps_evalMulti (J := J) call spares
      unfold exec
      grind
  | block labelled body =>
      have inner := keeps_execBlock none body spares spares_nil
      exact keeps_inBlock labelled body spares inner
  | «while» condition labelled body => exact keeps_askLoop spares
  | «repeat» labelled body condition => exact keeps_askLoop spares
  | branch clauses => exact keeps_execClauses clauses spares
  | count index start stop step labelled body line =>
      simp only [Stmt.touched, spares_append] at spares
      unfold exec
      grind
  | iterate first count values labelled body line room =>
      simp only [Stmt.touched, spares_append] at spares
      unfold exec
      grind
  | declareFunction index code =>
      unfold exec
      refine keeps_bind (keeps_declareSlot index .nil) fun _ => ?_
      refine keeps_bind (keeps_makeClosure spares) fun closure => ?_
      exact keeps_bind (keeps_setSlot index closure) fun _ => keeps_pure _
  | «return» values =>
      have all : Spares held (Expr.allTouched values) := spares
      have value (expr : Expr) (only : values = [expr]) : Spares held expr.touched := by
        simpa [only, Expr.allTouched] using all
      unfold exec
      grind
  | tailCall call => exact keeps_tailCall call spares
  | declareClosing _ _ _ _ _ _ | «break» | goto _ | label _ => exact keeps_pure _

@[grind ←] theorem keeps_execBlock (condition : Option Expr) (body : List Stmt)
    (spares : Spares held (Stmt.allTouched body))
    (ends : Spares held (Expr.endTouched condition)) :
    (execBlock condition body).Keeps (.script held) J := by
  cases body with
  | nil => exact keeps_pure _
  | cons statement rest =>
      simp only [Stmt.allTouched, spares_append] at spares
      have opening := keeps_exec statement spares.1
      have later := keeps_execBlock condition rest spares.2 ends
      cases statement with
      | declareClosing first count values closing name line =>
          have declared := keeps_declareAll (J := J) first count values spares.1
          have guarded : Spares held (Guarded.rest rest condition).touched :=
            spares_append.mpr ⟨spares.2, ends⟩
          unfold execBlock
          grind
      | _ =>
          unfold execBlock
          grind

@[grind ←] theorem keeps_execClauses (clauses : List Clause)
    (spares : Spares held (Clause.allTouched clauses)) :
    (execClauses clauses).Keeps (.script held) J := by
  cases clauses with
  | nil => exact keeps_pure _
  | cons clause rest =>
      obtain ⟨condition, labelled, body⟩ := clause
      simp only [Clause.allTouched, spares_append] at spares
      have inner := keeps_execBlock none body spares.2.1 spares_nil
      have later := keeps_execClauses rest spares.2.2
      unfold execClauses
      grind

end

@[grind ←] theorem keeps_evalEnd (condition : Expr) (spares : Spares held condition.touched) :
    (evalEnd condition).Keeps (.script held) J := by
  unfold evalEnd
  grind

end Run

/-! ## Loops -/

namespace Loop

open Run

@[grind ←] theorem keeps_once (labelled : Bool) (body : List Stmt)
    (spares : Spares held (Stmt.allTouched body)) :
    (once labelled body).Keeps (.script held) J := by
  have ends : Spares held (Expr.endTouched none) := spares_nil
  unfold once
  grind

@[grind ←] theorem keeps_withResults (first count : Nat) (labelled : Bool) (body : List Stmt)
    (spares : Spares held (Stmt.allTouched body)) (results : Array Value) :
    (withResults first count labelled body results).Keeps (.script held) J := by
  unfold withResults
  grind

@[grind ←] theorem keeps_iterateOnce (first count : Nat) (labelled : Bool) (body : List Stmt)
    (spares : Spares held (Stmt.allTouched body)) (line room : Nat) :
    (iterateOnce first count labelled body line room).Keeps (.script held) J := by
  unfold iterateOnce
  refine keeps_bind (keeps_slot _) fun iterator => ?_
  refine keeps_bind (keeps_slot _) fun state => ?_
  grind

/-- One iteration of a loop keeps what scripts cannot change. -/
theorem keeps_iteration? {loop : Loop} {run : Run Exit} {rest : Option Loop}
    (more : loop.iteration? = some (run, rest)) (spares : Spares held loop.touched) :
    run.Keeps (.script held) J := by
  cases loop with
  | «while» condition labelled body =>
      simp only [touched, spares_append] at spares
      unfold iteration? at more
      grind
  | «repeat» labelled body condition =>
      simp only [touched, spares_append] at spares
      have ends : Spares held (Expr.endTouched (some condition)) := spares.2
      unfold iteration? at more
      grind
  | countInts index next step remaining labelled body =>
      have inner : Spares held (Stmt.allTouched body) := spares
      unfold iteration? at more
      grind
  | countFloats index next stop step labelled body =>
      have inner : Spares held (Stmt.allTouched body) := spares
      unfold iteration? at more
      grind
  | iterate first count labelled body line room =>
      have inner : Spares held (Stmt.allTouched body) := spares
      unfold iteration? at more
      grind

/-- What is left of a loop touches no more than the loop. -/
theorem touched_iteration? {loop : Loop} {run : Run Exit} {rest : Loop}
    (more : loop.iteration? = some (run, some rest)) : rest.touched = loop.touched := by
  cases loop <;> unfold iteration? at more <;> grind [touched]

end Loop

end LuaSession.Script
