import LuaSession.Proofs.Bootstrap.Equipped
import LuaSession.Proofs.Veil.Texts

/-!
# The function that prints, statement by statement

The function that prints makes a table, counts its arguments, and has the library make the text
of one after the other. It puts the texts into its table, has them joined, and writes them as
one message. What it calls, it has in variables of its own.
-/

namespace LuaSession

open LuaSession.Script LuaSession.Library LuaSession.Machine

namespace Script

/-! ## Lists of expressions -/

theorem evalList_cons_cons (first second : Expr) (rest : List Expr) (done : Array Value) :
    evalList (first :: second :: rest) done =
      eval first >>= fun value => evalList (second :: rest) (done.push value) := by
  rw [evalList]
  rfl

theorem evalList_single (inner : Expr) (done : Array Value) :
    evalList [.single inner] done = eval inner >>= fun value => pure (done.push value) := by
  rw [evalList]
  rfl

theorem evalList_const (constant : Constant) (done : Array Value) :
    evalList [.const constant] done = pure (done.push constant.value) := by
  rw [evalList]
  rfl

theorem evalList_variadic (done : Array Value) :
    evalList [.variadic] done = Run.read (·.frame.extra) >>= fun values =>
      pure (done ++ values) := by
  rw [evalList]
  rfl

end Script

namespace Bootstrap

/-! ## What it does -/

/-- The statement that counts the arguments and collects their texts. -/
def counting : Stmt := .count 4 (.const (.int 1)) argumentCount (.const (.int 1)) false [collect] 7

/-- The statement that publishes the texts. -/
def publishing : Stmt :=
  .run (.method (capturedAt 2 "out") "write".toUTF8 [joined, .const (.ofString "\n")] 10 10 1)

/-- Where a function is called that the running one has captured. -/
def siteOf (function : Expr) (line room : Nat) : Site where
  kind := .script
  line
  callee := .expression function
  room

/-- Where it has the text of an argument made. -/
def textSite : Site := siteOf (capturedAt 1 "tostring") 8 5

/-- Where it writes its message. -/
def messageSite : Site where
  kind := .script
  line := 10
  callee := .method "write".toUTF8
  room := 1

/-- What it does when the arguments have been counted. -/
def counted (count : Value) : Run Exit := do
  match ← Run.countLoop 4 false [collect] 7 (.int 1) count (.int 1) with
  | .fell => execBlock none [publishing]
  | exit => return exit

/-- What it does when an argument has been taken. -/
def taken (argument : Value) : Run Exit := do
  let results ← Run.call tostring #[argument] textSite
  Run.assign (.script 8) (variableAt 0 "parts") (← Run.slot 0) (← Run.slot 4) (firstOf results)
  return .fell

/-- What it does when a text has been made. -/
def stores (exit : Exit) : Run Exit := do
  Run.assign (.script 8) (variableAt 0 "parts") (← Run.slot 0) (← Run.slot 4)
    (firstOf (valuesOf exit))
  return .fell

/-- What it does when its loop has ended. -/
def collected : Resume
  | .fell => execBlock none [publishing]
  | exit => .done exit

/-- What it does when the texts have been joined. -/
def joinedTo (adapter : Nat) (text : Value) : Run Exit := do
  let _ ← Run.call (.builtin (.adapter .write)) #[.handle adapter, text, .ofString "\n"] messageSite
  return .fell

/-- Its frame, with its table and the number of an argument. -/
def printFrame (arguments : Array Value) (parts number : Value) : Frame where
  chunk := chunkName.toUTF8
  slots := #[parts, .nil, .nil, .nil, number]
  captured := printer.captured
  extra := arguments
  frameSize := 8

theorem frameOf_printer (arguments : Array Value) :
    frameOf printer arguments = printFrame arguments .nil .nil := by
  have given : (if arguments.size ≤ 0 then arguments else arguments.extract 0 0) = #[] := by
    split
    next none => exact Array.eq_empty_of_size_eq_zero (Nat.le_zero.mp none)
    next => simp
  have extra : arguments.extract 0 arguments.size = arguments := Array.extract_size
  have frame : frameOf printer arguments =
      { printFrame (arguments.extract 0 arguments.size) .nil .nil with
        slots :=
          let given := if arguments.size ≤ 0 then arguments else arguments.extract 0 0
          if given.size < 5 then given ++ Array.replicate (5 - given.size) .nil else given } := rfl
  rw [frame, given, extra]
  rfl

/-- The function that prints runs. -/
structure Printing (adapter : Nat) (arguments : Array Value) (parts number : Value) (s : Store) :
    Prop where
  frame : s.frame = printFrame arguments parts number
  equipped : Equipped adapter 0 s

variable {adapter : Nat} {arguments : Array Value} {parts number : Value} {s : Store}

/-- The text of an argument is made. -/
theorem taken_eq (argument : Value) (s : Store) :
    taken argument s = .ask (.call tostring #[argument] textSite) s stores :=
  Run.call_bind _ _ _ _ s

/-- The message is written. -/
theorem joinedTo_eq (adapter : Nat) (text : Value) (s : Store) :
    joinedTo adapter text s = .ask (.call (.builtin (.adapter .write))
      #[.handle adapter, text, .ofString "\n"] messageSite) s fun _ t => .done .fell t :=
  Run.call_bind _ _ _ _ s

namespace Printing

variable (printing : Printing adapter arguments parts number s)

include printing

theorem extra : s.frame.extra = arguments := by
  rw [printing.frame]
  rfl

theorem slot_parts : s.slot 0 = parts := by
  rw [Store.slot, printing.frame]
  rfl

theorem slot_number : s.slot 4 = number := by
  rw [Store.slot, printing.frame]
  rfl

/-- What it has captured. -/
theorem captured {index tool : Nat} {value : Value}
    (isCaptured : printer.captured.getD index 0 = tool + 1)
    (isTool : (Bootstrap.printing adapter)[tool]? = some value) :
    s.capturedValue index = value := by
  have cell : s.frame.captured.getD index 0 = tool + 1 := by
    rw [printing.frame]
    exact isCaptured
  rw [Store.capturedValue, cell]
  exact printing.equipped.cell_of_tool isTool

theorem select : s.capturedValue 0 = .builtin (.base .select) := printing.captured rfl rfl

theorem tostring : s.capturedValue 1 = tostring := printing.captured rfl rfl

theorem out : s.capturedValue 2 = .handle adapter := printing.captured rfl rfl

theorem concat : s.capturedValue 3 = .builtin (.table .concat) := printing.captured rfl rfl

/-- Memory has been taken meanwhile. -/
theorem charge (charge : Nat) : Printing adapter arguments parts number { s with charge } :=
  ⟨printing.frame, printing.equipped.congr rfl rfl rfl (Nat.le_refl _)⟩

/-- The arguments are counted first. -/
theorem execBlock_counting :
    execBlock none [counting, publishing] s =
      .ask (.call (.builtin (.base .select)) (#[.ofString "#"] ++ arguments)
        (siteOf (capturedAt 0 "select") 7 2)) s fun exit => counted (firstOf (valuesOf exit)) := by
  refine Eq.trans ?_ (Run.call_bind _ _ _ (fun results => counted (firstOf results)) s)
  simp only [counting, execBlock, exec, eval, argumentCount, capturedAt, evalList_cons_cons,
    evalList_variadic, bind_assoc, Run.read_bind, pure_bind, printing.select, printing.extra]
  rfl

/-- In the loop, an argument is taken. -/
theorem execBlock_collect :
    execBlock none [collect] s =
      .ask (.call (.builtin (.base .select)) (#[number] ++ arguments)
        (siteOf (capturedAt 0 "select") 8 6)) s fun exit => taken (firstOf (valuesOf exit)) := by
  refine Eq.trans ?_ (Run.call_bind _ _ _ (fun results => taken (firstOf results)) s)
  simp only [collect, execBlock, exec, Run.assignOne, Run.evalEarly, Run.evalLate, Run.slot, variableAt,
    eval, textOfArgument, capturedAt, evalList_cons_cons, evalList_single, evalList_variadic,
    bind_assoc, Run.read_bind, pure_bind, printing.select, printing.tostring, printing.slot_number,
    printing.extra]
  rfl

/-- The texts are joined. -/
theorem execBlock_publishing :
    execBlock none [publishing] s =
      .ask (.call (.builtin (.table .concat)) #[parts, .ofString "\t"]
        (siteOf (capturedAt 3 "concat") 10 3)) s
        fun exit => joinedTo adapter (firstOf (valuesOf exit)) := by
  refine Eq.trans ?_ (Run.call_bind _ _ _ (fun results => joinedTo adapter (firstOf results)) s)
  simp only [publishing, execBlock, exec, evalMulti, Run.slot, variableAt, joined, capturedAt, eval,
    evalList_cons_cons, evalList_const, bind_assoc, Run.read_bind, pure_bind, printing.out]
  rw [Run.bind_of_done (index_adapter_write printing.equipped.resource_adapter _ _)]
  simp only [Run.read_bind, printing.concat, printing.slot_parts]
  rfl

end Printing

/-! ## How it begins -/

/-- Making a table without fields. -/
theorem eval_table_nil (s : Store) :
    ∃ charge, eval (.table []) s =
      .done (.table s.heap.tables.size) { (s.newTable {}).2 with charge } := by
  have filled : (s.heap.tables.push {}).modify s.heap.tables.size (·.fill #[]) =
      s.heap.tables.push {} := by
    refine Array.ext (Array.size_modify) fun place _ _ => ?_
    rw [Array.getElem_modify]
    split <;> rfl
  have makes : eval (.table []) s = .done (.table s.heap.tables.size)
      { (s.newTable {}).2 with
        heap := { s.heap with
          tables := (s.heap.tables.push {}).modify s.heap.tables.size (·.fill #[]) }
        charge := s.charge + Table.bytes {} + 16 * 0 } := rfl
  exact ⟨_, filled ▸ makes⟩

/-- It makes its table first. -/
theorem runBody_print (frame : s.frame = frameOf printer arguments) :
    ∃ charge, runBody print s = execBlock none [counting, publishing]
      { (s.newTable {}).2.withFrame (printFrame arguments (.table s.heap.tables.size) .nil) with
        charge } := by
  obtain ⟨charge, makes⟩ := eval_table_nil s
  have declares : exec (.declare 0 1 [.table []]) s = .done .fell
      (Store.declareSlot { (s.newTable {}).2 with charge } 0 (.table s.heap.tables.size)) :=
    Run.bind_of_done (Run.bind_of_done makes)
  have framed : Store.declareSlot { (s.newTable {}).2 with charge } 0 (.table s.heap.tables.size) =
      { (s.newTable {}).2.withFrame (printFrame arguments (.table s.heap.tables.size) .nil) with
        charge } := by
    have same : (s.newTable {}).2.frame = printFrame arguments .nil .nil :=
      frame.trans (frameOf_printer arguments)
    rw [Store.declareSlot]
    dsimp only
    rw [same]
    rfl
  refine ⟨charge, ?_⟩
  rw [← framed]
  exact Run.execBlock_of_fell (by simp) declares

/-! ## Its loop -/

/-- Its loop, when some texts have been collected and some arguments are left after the next. -/
def loopAt (index left : Nat) : Loop :=
  .countInts 4 (Int64.ofNat (index + 1)) 1 (UInt64.ofNat left) false [collect]

/-- A loop from one on runs as often as its limit says. -/
theorem countSteps_one {count : Nat} (few : count < 2 ^ 62) :
    countSteps 1 (Int64.ofNat (count + 1)) 1 = some (UInt64.ofNat count) := by
  have stop : (Int64.ofNat (count + 1)).toInt = (count + 1 : Nat) :=
    Int64.toInt_ofNat_of_lt (by omega)
  have runs : ¬(1 : Int64) > Int64.ofNat (count + 1) := by
    rw [gt_iff_lt, Int64.lt_iff_toInt_lt, stop]
    exact Int.not_lt.mpr (Int.ofNat_le.mpr (Nat.succ_pos count))
  have steps : ((Int64.ofNat (count + 1)).toUInt64 - (1 : Int64).toUInt64) / (1 : Int64).toUInt64 =
      UInt64.ofNat count := by
    have one : (1 : Int64).toUInt64.toNat = 1 := rfl
    rw [← UInt64.toNat_inj]
    simp [one]
  rw [countSteps, if_pos (by decide), if_neg runs, steps]

/-- Without arguments, the loop does not run. -/
theorem counted_zero (s : Store) : counted (.ofNat 0) s = collected .fell s := rfl

theorem countLoop_collect (limit : Int64) :
    Run.countLoop 4 false [collect] 7 (.int 1) (.int limit) (.int 1) =
      match countSteps 1 limit 1 with
      | none => return .fell
      | some remaining => Run.ask (.loop (.countInts 4 1 1 remaining false [collect])) := rfl

/-- With arguments, the loop runs. -/
theorem counted_succ {count : Nat} (few : count < 2 ^ 62) (s : Store) :
    counted (.ofNat (count + 1)) s = .ask (.loop (loopAt 0 count)) s collected := by
  rw [counted, Value.ofNat, countLoop_collect, countSteps_one few]
  refine congrArg (Step.ask _ s) (funext fun exit => ?_)
  cases exit <;> rfl

/-- The loop runs once more: it takes the next argument. -/
theorem iteration_loopAt {index left : Nat} (few : left < 2 ^ 62) :
    (loopAt index left).iteration? = some
      (do
        Run.declareSlot 4 (.ofNat (index + 1))
        execBlock none [collect],
      if left = 0 then none else some (loopAt (index + 1) (left - 1))) := by
  have next : Int64.ofNat (index + 1) + 1 = Int64.ofNat (index + 1 + 1) := by simp [Int64.ofNat_add]
  have isLast : (UInt64.ofNat left == 0) = decide (left = 0) := by
    rw [beq_eq_decide]
    congr 1
    simp [← UInt64.toNat_inj]
    omega
  have fewer (some : left ≠ 0) : UInt64.ofNat left - 1 = UInt64.ofNat (left - 1) := by
    have least : (1 : UInt64) ≤ UInt64.ofNat left := by
      rw [UInt64.le_iff_toNat_le]
      simp
      omega
    rw [← UInt64.toNat_inj, UInt64.toNat_sub_of_le _ _ least]
    simp
    omega
  have iterates : (loopAt index left).iteration? = some
      (do
        Run.declareSlot 4 (.ofNat (index + 1))
        execBlock none [collect],
      if UInt64.ofNat left == 0 then none
      else some (.countInts 4 (Int64.ofNat (index + 1) + 1) 1 (UInt64.ofNat left - 1) false
        [collect])) := rfl
  rw [iterates, isLast, next]
  by_cases none : left = 0
  · simp [none]
  · simp [none, fewer none, loopAt]

/-- The number of the next argument is put into its slot. -/
theorem declareSlot_number (frame : s.frame = printFrame arguments parts number) (next : Value) :
    s.declareSlot 4 next = s.withFrame (printFrame arguments parts next) := by
  rw [Store.declareSlot, frame]
  rfl

/-- A text is put into the table. -/
theorem stores_text {ref index : Nat}
    (frame : s.frame = printFrame arguments (.table ref) (.ofNat (index + 1)))
    (plain : (s.table ref).metatable = none) (text : Value) :
    ∃ charge, stores (.returned #[text]) s =
      .done .fell { s.put ref (.ofNat (index + 1)) text with charge } := by
  have parts : s.slot 0 = .table ref := by
    rw [Store.slot, frame]
    rfl
  have number : s.slot 4 = .int (Int64.ofNat (index + 1)) := by
    rw [Store.slot, frame]
    rfl
  have noHandler : s.metafield (.table ref) Event.newindex = .nil := by
    simp only [Store.metafield, Store.metatable?, plain]
  obtain ⟨charge, puts⟩ := Run.rawSet_int (s := s) (.script 8) ref (Int64.ofNat (index + 1)) text
  refine ⟨charge, ?_⟩
  rw [stores, Run.slot, Run.read_bind, Run.slot, Run.read_bind, parts, number]
  exact Run.bind_of_done ((Run.assign_eq_rawSet noHandler _ _ _).trans puts)

end Bootstrap

end LuaSession
