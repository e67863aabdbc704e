import LuaSession.Script.Evaluate

/-!
# Captured variables that a function leaves alone

A function assigns those of its captured variables that its statements name as
targets, and lets the functions have others that are written in it. All of them can
be read off its tree. A variable that is not among them keeps its value while the
function runs, and no other function gets hold of it there.
-/

namespace LuaSession.Script

/-- The captured variables of the enclosing function that a function captures too. -/
def CodeInfo.taken (info : CodeInfo) : List Nat :=
  info.captures.toList.filterMap fun
    | .captured index => some index
    | .slot _ => none

mutual

/-- The captured variables that the functions in an expression capture. -/
def Expr.touched : Expr → List Nat
  | .index object key _ => object.touched ++ key.touched
  | .call function arguments _ _ => function.touched ++ Expr.allTouched arguments
  | .method object _ arguments _ _ _ => object.touched ++ Expr.allTouched arguments
  | .function code => code.info.taken
  | .unary _ operand _ => operand.touched
  | .binary _ left right _ => left.touched ++ right.touched
  | .and left right => left.touched ++ right.touched
  | .or left right => left.touched ++ right.touched
  | .single inner => inner.touched
  | .table fields => Field.allTouched fields
  | .const _ | .variadic | .slot .. | .captured .. => []

/-- The captured variables that the functions in several expressions capture. -/
def Expr.allTouched : List Expr → List Nat
  | [] => []
  | expr :: rest => expr.touched ++ Expr.allTouched rest

/-- The captured variables that the functions in fields capture. -/
def Field.allTouched : List Field → List Nat
  | [] => []
  | .positional value :: rest => value.touched ++ Field.allTouched rest
  | .keyed key value _ :: rest => key.touched ++ (value.touched ++ Field.allTouched rest)

end

/-- The captured variables that an assignment to a target touches. -/
def Expr.assigned : Expr → List Nat
  | .captured place _ => [place]
  | .index object key _ => object.touched ++ key.touched
  | _ => []

/-- The captured variables that assignments to targets touch. -/
def Expr.allAssigned : List Expr → List Nat
  | [] => []
  | target :: rest => target.assigned ++ Expr.allAssigned rest

mutual

/-- The captured variables that a statement assigns or that functions in it
capture. -/
def Stmt.touched : Stmt → List Nat
  | .assign targets values _ => Expr.allAssigned targets ++ Expr.allTouched values
  | .declare _ _ values => Expr.allTouched values
  | .declareClosing _ _ values _ _ _ => Expr.allTouched values
  | .run call => call.touched
  | .block _ body => Stmt.allTouched body
  | .while condition _ body => condition.touched ++ Stmt.allTouched body
  | .repeat _ body condition => Stmt.allTouched body ++ condition.touched
  | .branch clauses => Clause.allTouched clauses
  | .count _ start stop step _ body _ =>
      start.touched ++ (stop.touched ++ (step.touched ++ Stmt.allTouched body))
  | .iterate _ _ values _ body _ _ => Expr.allTouched values ++ Stmt.allTouched body
  | .declareFunction _ code => code.info.taken
  | .return values => Expr.allTouched values
  | .tailCall call => call.touched
  | .break | .goto _ | .label _ => []

/-- The captured variables that several statements touch. -/
def Stmt.allTouched : List Stmt → List Nat
  | [] => []
  | statement :: rest => statement.touched ++ Stmt.allTouched rest

/-- The captured variables that the clauses of a conditional statement touch. -/
def Clause.allTouched : List Clause → List Nat
  | [] => []
  | .mk condition _ body :: rest =>
      condition.touched ++ (Stmt.allTouched body ++ Clause.allTouched rest)

end

/-- The captured variables that storing to a target assigns. -/
def Target.touched : Target → List Nat
  | .captured place => [place]
  | _ => []

/-- The captured variables that a condition, if there is one, touches. -/
def Expr.endTouched : Option Expr → List Nat
  | some condition => condition.touched
  | none => []

/-- The captured variables that a loop touches. -/
def Loop.touched : Loop → List Nat
  | .while condition _ body => condition.touched ++ Stmt.allTouched body
  | .repeat _ body condition => Stmt.allTouched body ++ condition.touched
  | .countInts _ _ _ _ _ body => Stmt.allTouched body
  | .countFloats _ _ _ _ _ body => Stmt.allTouched body
  | .iterate _ _ _ body _ _ => Stmt.allTouched body

/-- The captured variables that are touched in the scope of a closing variable. -/
def Guarded.touched : Guarded → List Nat
  | .rest body condition => Stmt.allTouched body ++ Expr.endTouched condition
  | .loop next => next.touched

/-- The captured variables that a function touches. -/
def Code.touched : Code → List Nat
  | .mk _ _ body => Stmt.allTouched body

/-! ## Variables that are held -/

/-- None of the variables that are held is touched. -/
def Spares (held : Nat → Prop) (touched : List Nat) : Prop := ∀ index ∈ touched, ¬held index

variable {held : Nat → Prop} {first rest : List Nat}

@[simp] theorem spares_nil : Spares held [] := by simp [Spares]

@[simp] theorem spares_append : Spares held (first ++ rest) ↔ Spares held first ∧ Spares held rest :=
  List.forall_mem_append

/-- A function that holds nothing may touch everything. -/
theorem spares_of_holds_nothing (nothing : ∀ index, ¬held index) : Spares held rest :=
  fun index _ => nothing index

/-- The rest of a block after a label touches no more than the block. -/
theorem spares_afterLabel {label : Bytes} {body later : List Stmt}
    (found : afterLabel? label body = some later) (spares : Spares held (Stmt.allTouched body)) :
    Spares held (Stmt.allTouched later) := by
  induction body with
  | nil => cases found
  | cons statement body ih =>
      have behind := (spares_append.mp spares).2
      unfold afterLabel? at found
      split at found
      · cases found
      · split at found
        · cases found
          simp_all
        · simp_all
      · simp_all

end LuaSession.Script
