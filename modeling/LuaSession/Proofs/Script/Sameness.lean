import LuaSession.Script.Tree

/-!
# Script trees that are the same

Two script trees can be compared, so that a text can be read by evaluation and what it is
read as compared with a tree that is written out.
-/

namespace LuaSession.Script

deriving instance DecidableEq for CodeInfo

mutual

/-- Are two expressions the same? -/
def Expr.same : Expr → Expr → Bool
  | .const x, .const y => x = y
  | .variadic, .variadic => true
  | .slot i x, .slot j y => i = j && x = y
  | .captured i x, .captured j y => i = j && x = y
  | .index object key line, .index other k l => object.same other && key.same k && line = l
  | .call function arguments line room, .call f others l r =>
      function.same f && Expr.allSame arguments others && line = l && room = r
  | .method object name arguments nameLine line room, .method other n others m l r =>
      object.same other && name = n && Expr.allSame arguments others && nameLine = m &&
        line = l && room = r
  | .function code, .function other => code.same other
  | .unary op operand line, .unary o other l => op = o && operand.same other && line = l
  | .binary op left right line, .binary o x y l =>
      op = o && left.same x && right.same y && line = l
  | .and left right, .and x y => left.same x && right.same y
  | .or left right, .or x y => left.same x && right.same y
  | .single inner, .single other => inner.same other
  | .table fields, .table others => Field.allSame fields others
  | _, _ => false

/-- Are the expressions of two lists the same? -/
def Expr.allSame : List Expr → List Expr → Bool
  | [], [] => true
  | expr :: rest, other :: others => expr.same other && Expr.allSame rest others
  | _, _ => false

/-- Are the fields of two table constructors the same? -/
def Field.allSame : List Field → List Field → Bool
  | [], [] => true
  | .positional value :: rest, .positional other :: others =>
      value.same other && Field.allSame rest others
  | .keyed key value line :: rest, .keyed k other l :: others =>
      key.same k && value.same other && line = l && Field.allSame rest others
  | _, _ => false

/-- Are two statements the same? -/
def Stmt.same : Stmt → Stmt → Bool
  | .assign targets values line, .assign places others l =>
      Expr.allSame targets places && Expr.allSame values others && line = l
  | .declare first count values, .declare f c others =>
      first = f && count = c && Expr.allSame values others
  | .declareClosing first count values closing name line, .declareClosing f c others d n l =>
      first = f && count = c && Expr.allSame values others && closing = d && name = n && line = l
  | .run call, .run other => call.same other
  | .block labelled body, .block b other => labelled = b && Stmt.allSame body other
  | .while condition labelled body, .while c b other =>
      condition.same c && labelled = b && Stmt.allSame body other
  | .repeat labelled body condition, .repeat b other c =>
      labelled = b && Stmt.allSame body other && condition.same c
  | .branch clauses, .branch others => Clause.allSame clauses others
  | .count index start stop step labelled body line, .count i x y z b other l =>
      index = i && start.same x && stop.same y && step.same z && labelled = b &&
        Stmt.allSame body other && line = l
  | .iterate first count values labelled body line room, .iterate f c others b other l r =>
      first = f && count = c && Expr.allSame values others && labelled = b &&
        Stmt.allSame body other && line = l && room = r
  | .declareFunction index code, .declareFunction i other => index = i && code.same other
  | .return values, .return others => Expr.allSame values others
  | .tailCall call, .tailCall other => call.same other
  | .break, .break => true
  | .goto label, .goto other => label = other
  | .label name, .label other => name = other
  | _, _ => false

/-- Are two lists of statements the same? -/
def Stmt.allSame : List Stmt → List Stmt → Bool
  | [], [] => true
  | statement :: rest, other :: others => statement.same other && Stmt.allSame rest others
  | _, _ => false

/-- Are two lists of clauses the same? -/
def Clause.allSame : List Clause → List Clause → Bool
  | [], [] => true
  | .mk condition labelled body :: rest, .mk c b other :: others =>
      condition.same c && labelled = b && Stmt.allSame body other && Clause.allSame rest others
  | _, _ => false

/-- Are two functions the same? -/
def Code.same : Code → Code → Bool
  | .mk info labelled body, .mk i b other => info = i && labelled = b && Stmt.allSame body other

end

/-- Only what is the same compares as the same. -/
theorem eq_of_same :
    (∀ x y, Expr.same x y = true → x = y) ∧
    (∀ xs ys, Field.allSame xs ys = true → xs = ys) ∧
    (∀ x y, Code.same x y = true → x = y) ∧
    (∀ xs ys, Stmt.allSame xs ys = true → xs = ys) ∧
    (∀ x y, Stmt.same x y = true → x = y) ∧
    (∀ xs ys, Clause.allSame xs ys = true → xs = ys) ∧
    (∀ xs ys, Expr.allSame xs ys = true → xs = ys) := by
  apply Expr.same.mutual_induct
  all_goals intros
  all_goals simp_all [Expr.same, Expr.allSame, Field.allSame, Code.same, Stmt.same, Stmt.allSame,
    Clause.allSame]

end LuaSession.Script
