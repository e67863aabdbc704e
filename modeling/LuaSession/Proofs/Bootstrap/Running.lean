import LuaSession.Proofs.Bootstrap.Start
import LuaSession.Proofs.Bootstrap.Tree
import LuaSession.Proofs.Script.Asking

/-!
# The run of the first script

The first script of a session calls nothing: it reads a few globals into variables and
puts functions where the libraries have theirs. Its variables are the first ones of the
session, so their cells are known by their numbers.
-/

namespace LuaSession

open LuaSession.Script LuaSession.Library LuaSession.Library.Opening

/-! ## Statements one after the other -/

namespace Script.Run

variable {s t u : Store}

/-- A block goes on after a statement that has fallen through. -/
theorem execBlock_of_fell {statement : Stmt} {rest : List Stmt} {condition : Option Expr}
    (plain : ∀ first count values closing name line,
      statement ≠ .declareClosing first count values closing name line)
    (falls : exec statement s = .done .fell t) :
    execBlock condition (statement :: rest) s = execBlock condition rest t := by
  cases statement with
  | declareClosing => exact absurd rfl (plain _ _ _ _ _ _)
  | _ => exact bind_of_done falls

/-- A conditional statement whose condition holds. -/
theorem exec_branch_of_truthy {condition : Expr} {body : List Stmt} {rest : List Clause}
    {value : Value} (holds : eval condition s = .done value t) (truthy : value.truthy = true) :
    exec (.branch (.mk condition false body :: rest)) s = execBlock none body t := by
  refine (bind_of_done holds).trans ?_
  rw [if_pos truthy]
  rfl

/-- A conditional statement whose first condition does not hold. -/
theorem exec_branch_of_not_truthy {condition : Expr} {labelled : Bool} {body : List Stmt}
    {rest : List Clause} {value : Value} (fails : eval condition s = .done value t)
    (falsy : value.truthy = false) :
    exec (.branch (.mk condition labelled body :: rest)) s = exec (.branch rest) t := by
  refine (bind_of_done fails).trans ?_
  rw [if_neg (by simp [falsy])]
  rfl

end Script.Run

namespace Bootstrap

/-! ## Variables and functions -/

namespace Cell

/-- The environment of the first script. -/
abbrev environment : Nat := 0
abbrev out : Nat := 1
abbrev select : Nat := 2
abbrev tostring : Nat := 3
abbrev concat : Nat := 4
abbrev error : Nat := 5
/-- The library's function that chooses the file. -/
abbrev original : Nat := 6
abbrev current : Nat := 7

end Cell

/-- The function that prints, with its variables. -/
def printer : Closure := ⟨print, #[Cell.select, Cell.tostring, Cell.out, Cell.concat]⟩

/-- The function that tells and chooses where output goes. -/
def chooser : Closure := ⟨output, #[Cell.current, Cell.out, Cell.original]⟩

/-- The function that writes to where output goes. -/
def writer : Closure := ⟨write, #[Cell.current]⟩

/-- The function that refuses to end the process. -/
def refuser : Closure := ⟨exit, #[Cell.error]⟩

/-- The first script as a function. -/
def main : Closure := ⟨script, #[Cell.environment]⟩

/-- The cells of the slots when some of the first script's variables have been made. -/
def boxesOf (count : Nat) : Array Nat :=
  ((List.range count).map (· + 2) ++ List.replicate (7 - count) 0).toArray

/-- A store in which the first script runs, with some of its variables. -/
def running (s : Store) (values : List Value) (closures : List Closure) (charge : Nat) : Store :=
  { s with
    frame := { Machine.frameOf main #[] with boxes := boxesOf values.length }
    heap := { s.heap with
      cells := (.table s.scope :: values).toArray
      closures := (main :: closures).toArray }
    charge }

section Steps

variable {s : Store} {values more : List Value} {closures others : List Closure}
  {charge later ref : Nat} {name field : String} {value : Value}

/-- Putting a field into a table changes neither variables nor functions. -/
theorem running_put (notScope : ref ≠ s.scope) (key : Value) (after : Nat) :
    { (running s values closures charge).put ref key value with charge := after } =
      running (s.put ref key value) values closures after := by
  have put := Store.put_of_ne (s := running s values closures charge) notScope key value
  rw [put, Store.put_of_ne notScope]
  rfl

theorem Scene.running (scene : Scene s) : Scene (running s values closures charge) where
  remembers := scene.remembers.congr rfl rfl rfl rfl
  fallsBack := scene.fallsBack
  unassigned := scene.unassigned

/-- The first script finds the adapter under its name. -/
theorem eval_out (scene : Scene s) (assigned : s.lastAssigned? outputBinding.toUTF8 = some value)
    (present : value ≠ .nil) (line : Nat) :
    eval (global outputBinding line) (running s values closures charge) =
      .done value (running s values closures charge) := by
  have bound : (Bootstrap.running s values closures charge).capturedValue 0 =
      .table (Bootstrap.running s values closures charge).scope := rfl
  have found : (Bootstrap.running s values closures charge).lastAssigned? outputBinding.toUTF8 =
      some value := assigned
  rw [global, Run.eval_free scene.running.remembers scene.running.fallsBack bound, Run.scopeValue,
    found]
  exact if_neg present

/-- Reading a global. -/
theorem eval_global (scene : Scene s) (binds : Binds name value s) (other : name ≠ outputBinding)
    (line : Nat) :
    eval (global name line) (running s values closures charge) =
      .done value (running s values closures charge) := by
  have bound : (Bootstrap.running s values closures charge).capturedValue 0 =
      .table (Bootstrap.running s values closures charge).scope := rfl
  have binds : Binds name value (Bootstrap.running s values closures charge) := binds.congr rfl rfl
  rw [global, Run.eval_free scene.running.remembers scene.running.fallsBack bound, Run.scopeValue,
    scene.running.unassigned name other, ← binds.get]
  exact (if_pos rfl).trans (Run.globalValue_eq (.inr binds.plain))

/-- Reading a field of a global's table. -/
theorem eval_globalField (scene : Scene s) (binds : Binds name (.table ref) s)
    (other : name ≠ outputBinding) (found : (s.table ref).get (.ofString field) = value)
    (present : value ≠ .nil) (line target : Nat) :
    eval (globalField name field line target) (running s values closures charge) =
      .done value (running s values closures charge) :=
  (Run.bind_of_done (eval_global scene binds other line)).trans (Run.index_found found present)

/-- Making a function whose variables are there. -/
theorem eval_function {code : Code} {cells : Array Nat}
    (captures : (running s values closures charge).capture code.info.captures =
      (cells, running s values closures charge)) :
    eval (.function code) (running s values closures charge) =
      .done (.closure (closures.length + 1))
        (running s values (closures ++ [⟨code, cells⟩]) (charge + Store.closureBytes)) := by
  have size : (running s values closures charge).heap.closures.size = closures.length + 1 := rfl
  have push : (running s values closures charge).heap.closures.push ⟨code, cells⟩ =
      (main :: (closures ++ [⟨code, cells⟩])).toArray := by
    simp [running]
  rw [eval, Run.update, Store.makeClosure, captures]
  dsimp only [Store.newClosure]
  rw [size, push]
  rfl

/-- Assigning a field of a global's table: the table is read first, and the value is put
into it when it is there. -/
theorem exec_assign_globalField (expression : Expr) (line target ending : Nat) (t : Store) :
    exec (.assign [globalField name field line target] [expression] ending) t =
      (eval (global name line) t).bind fun table t =>
        (eval expression t).bind fun value =>
          (do
            Run.assign (.script ending) (global name line) table (.ofString field) value
            return .fell : Run Exit) :=
  rfl

/-- Putting a value into a field of a global's table. -/
theorem exec_putField (field : String) (scene : Scene s) (offers : Offers name ref s)
    (other : name ≠ outputBinding) {expression : Expr}
    (reads : eval expression (running s values closures charge) =
      .done value (running s values others later)) (line target ending : Nat) :
    ∃ after, exec (.assign [globalField name field line target] [expression] ending)
        (running s values closures charge) =
      .done .fell (running (s.put ref (.ofString field) value) values others after) := by
  have plain : (running s values others later).metafield (.table ref) Event.newindex = .nil := by
    have metatable : ((running s values others later).table ref).metatable = none := offers.plain
    simp only [Store.metafield, Store.metatable?, metatable]
  have puts : ∃ after, Run.assign (.script ending) (global name line) (.table ref)
      (.ofString field) value (running s values others later) = .done ()
        { (running s values others later).put ref (.ofString field) value with charge := after } :=
    Run.assign_of_noHandler plain (global name line) value
  obtain ⟨after, puts⟩ := puts
  refine ⟨after, ?_⟩
  rw [running_put offers.notScope] at puts
  rw [exec_assign_globalField, eval_global scene offers.binds other]
  dsimp only [Step.bind]
  rw [reads]
  exact Run.bind_of_done puts

end Steps

/-! ## The whole script -/

/-- The tables that the first script finds, and the adapter. -/
structure Places where
  tables : Nat
  io : Nat
  os : Nat
  adapter : Nat

/-- The first script has put its function in place of the one that chooses. -/
def redirectOutput (places : Places) (s : Store) : Store :=
  s.put places.io (.ofString "output") (.closure 2)

/-- It has put its function in place of the one that writes, too. -/
def redirectWrite (places : Places) (s : Store) : Store :=
  (redirectOutput places s).put places.io (.ofString "write") (.closure 3)

/-- What the first script has put into the library of files. -/
def redirectIo (places : Places) (s : Store) : Store :=
  (redirectWrite places s).put places.io (.ofString "stdout") (.handle places.adapter)

/-- It has put its function in place of `print`. -/
def redirectPrint (s : Store) : Store := s.put s.registry.globals (.ofString "print") (.closure 1)

/-- What the first script has put into tables. -/
def redirect (places : Places) (s : Store) : Store :=
  (redirectIo places (redirectPrint s)).put places.os (.ofString "exit") (.closure 4)

/-- The values of the variables that the function which prints needs. -/
def printing (adapter : Nat) : List Value :=
  [.handle adapter, .builtin (.base .select), .builtin (.base .tostring), .builtin (.table .concat),
    .builtin (.base .error)]

/-- The values of all variables of the first script. -/
def variablesOf (adapter : Nat) : List Value :=
  printing adapter ++ [.builtin (.file .output), .handle adapter]

variable {places : Places} {s : Store} {charge : Nat} {closures : List Closure}

/-- What the first script finds where all libraries are open. -/
structure FindsAll (places : Places) (s : Store) : Prop where
  basics : Finds places.tables s
  files : FindsFiles places.io places.os s
  adapter : s.lastAssigned? outputBinding.toUTF8 = some (.handle places.adapter)

/-- The globals are offered to scripts under a name of their own. -/
theorem Finds.globals {tables : Nat} (basics : Finds tables s) : Offers "_G" s.registry.globals s := by
  have select := basics.select
  refine offers_of_field "select" basics.remembers basics.fallsBack basics.self select.hasGlobals
    select.sound select.plain ?_ (basics.unassigned _ (by decide)) (by decide)
  rw [select.get]
  exact Value.noConfusion

namespace FindsAll

variable (finds : FindsAll places s)

include finds

theorem globals : Offers "_G" s.registry.globals s := finds.basics.globals

theorem original : (s.table places.io).get (.ofString "output") = .builtin (.file .output) := by
  rw [finds.files.io.stands.table]
  exact get_tableOf rfl

theorem io : Offers "io" places.io s := by
  have stands := finds.files.io.stands
  refine offers_of_field "output" finds.basics.remembers finds.basics.fallsBack
    finds.files.io.binds stands.inHeap (stands.table ▸ sound_tableOf _)
    (stands.table ▸ metatable_tableOf _) ?_ (finds.basics.unassigned _ (by decide)) (by decide)
  rw [finds.original]
  exact Value.noConfusion

theorem os : Offers "os" places.os s := by
  have stands := finds.files.os.stands
  refine offers_of_field "exit" finds.basics.remembers finds.basics.fallsBack
    finds.files.os.binds stands.inHeap (stands.table ▸ sound_tableOf _)
    (stands.table ▸ metatable_tableOf _) ?_ (finds.basics.unassigned _ (by decide)) (by decide)
  have found : (tableOf systemFields).get (.ofString "exit") = .builtin (.system .exit) :=
    get_tableOf rfl
  rw [stands.table, found]
  exact Value.noConfusion

end FindsAll

/-- The value of the first of several expressions. -/
theorem evalList_cons {expression : Expr} {rest : List Expr} {done : Array Value} {t u : Store}
    {value : Value} (single : expression.isMulti = false)
    (reads : eval expression t = .done value u) :
    evalList (expression :: rest) done t = evalList rest (done.push value) u := by
  rw [evalList, single, Bool.and_false]
  exact Run.bind_of_done reads

/-- Making several variables. -/
theorem declareAll_several {first count : Nat} {expressions : List Expr} {results : Array Value}
    {t u : Store} (several : count ≠ 1) (reads : evalList expressions #[] t = .done results u) :
    Run.declareAll first count expressions t = Run.declareSlots first results count u := by
  unfold Run.declareAll
  split
  · exact absurd rfl several
  · exact Run.bind_of_done reads

/-- The first variables are made. -/
theorem exec_declareBasics {tables : Nat} (adapter : Nat) (closures : List Closure) (charge : Nat)
    (basics : Finds tables s) :
    exec (.declare 1 4
        [global "select" 3, global "tostring" 3, globalField "table" "concat" 3 3, global "error" 3])
      (running s [.handle adapter] closures charge) =
    .done .fell (running s (printing adapter) closures (charge + 40 + 40 + 40 + 40)) := by
  have scene := basics.toScene
  have concat : (s.table tables).get (.ofString "concat") = .builtin (.table .concat) := by
    rw [basics.table.stands.table, get_tableOf (by rfl)]
  have reads : evalList [global "select" 3, global "tostring" 3, globalField "table" "concat" 3 3,
      global "error" 3] #[] (running s [.handle adapter] closures charge) =
      .done #[.builtin (.base .select), .builtin (.base .tostring), .builtin (.table .concat),
        .builtin (.base .error)] (running s [.handle adapter] closures charge) := by
    rw [evalList_cons rfl (eval_global scene basics.select (by decide) 3),
      evalList_cons rfl (eval_global scene basics.tostring (by decide) 3),
      evalList_cons rfl (eval_globalField scene basics.table.binds (by decide) concat
        Value.noConfusion 3 3),
      evalList_cons rfl (eval_global scene basics.error (by decide) 3)]
    rfl
  have declares : Run.declareSlots 1 #[.builtin (.base .select), .builtin (.base .tostring),
      .builtin (.table .concat), .builtin (.base .error)] 4
        (running s [.handle adapter] closures charge) =
      .done () (running s (printing adapter) closures (charge + 40 + 40 + 40 + 40)) := rfl
  exact Run.bind_of_done ((declareAll_several (by decide) reads).trans declares)

/-- The variables and the function that prints are made, and `print` is redirected. -/
theorem execBlock_redirectPrint {tables adapter : Nat} (charge : Nat) (basics : Finds tables s)
    (assigned : s.lastAssigned? outputBinding.toUTF8 = some (.handle adapter)) (rest : List Stmt) :
    ∃ after, execBlock none (.declare 0 1 [global outputBinding 2] :: .declare 1 4
        [global "select" 3, global "tostring" 3, globalField "table" "concat" 3 3, global "error" 3] ::
        .assign [globalField "_G" "print" 5 0] [.function print] 11 :: rest) (running s [] [] charge) =
      execBlock none rest (running (redirectPrint s) (printing adapter) [printer] after) := by
  have scene := basics.toScene
  have out : exec (.declare 0 1 [global outputBinding 2]) (running s [] [] charge) =
      .done .fell (running s [.handle adapter] [] (charge + 40)) :=
    Run.bind_of_done (Run.bind_of_done (eval_out scene assigned Value.noConfusion 2))
  have declares := exec_declareBasics adapter [] (charge + 40) basics
  have printerMade : eval (.function Bootstrap.print)
      (running s (printing adapter) [] (charge + 40 + 40 + 40 + 40 + 40)) =
      .done (.closure 1) (running s (printing adapter) [printer] _) := eval_function rfl
  obtain ⟨after, print⟩ := exec_putField "print" scene basics.globals (by decide) printerMade 5 0 11
  refine ⟨after, ?_⟩
  rw [Run.execBlock_of_fell (by simp) out, Run.execBlock_of_fell (by simp) declares,
    Run.execBlock_of_fell (by simp) print]
  rfl

section Redirecting

variable (io : Offers "io" places.io s)

include io

theorem io_redirectOutput : Offers "io" places.io (redirectOutput places s) :=
  io.put io (by decide) _

theorem io_redirectWrite : Offers "io" places.io (redirectWrite places s) :=
  (io_redirectOutput io).put (io_redirectOutput io) (by decide) _

/-- Redirecting the library of files leaves other tables as they are offered. -/
theorem offers_redirectIo {name : String} {ref : Nat} (offers : Offers name ref s)
    (notOutput : "output" ≠ name) (notWrite : "write" ≠ name) (notStdout : "stdout" ≠ name) :
    Offers name ref (redirectIo places s) :=
  ((offers.put io notOutput _).put (io_redirectOutput io) notWrite _).put (io_redirectWrite io)
    notStdout _

theorem Scene.redirectIo (scene : Scene s) : Scene (redirectIo places s) :=
  ((scene.put io _ _).put (io_redirectOutput io) _ _).put (io_redirectWrite io) _ _

end Redirecting

/-- Reading the variable that has the adapter. -/
theorem eval_out_variable (s : Store) (adapter charge : Nat) :
    eval (variableAt 0 "out") (running s (variablesOf adapter) [printer, chooser, writer] charge) =
      .done (.handle adapter)
        (running s (variablesOf adapter) [printer, chooser, writer] charge) := rfl

/-- The library of files is redirected. -/
theorem execBlock_redirectFiles (charge : Nat) (scene : Scene s) (io : Offers "io" places.io s)
    (original : (s.table places.io).get (.ofString "output") = .builtin (.file .output)) :
    ∃ after, execBlock none redirectFiles (running s (printing places.adapter) [printer] charge) =
      .done .fell (running (redirectIo places s) (variablesOf places.adapter)
        [printer, chooser, writer] after) := by
  have second : Scene (redirectOutput places s) := scene.put io _ _
  have third : Scene (redirectWrite places s) := second.put (io_redirectOutput io) _ _
  have keepsOriginal : exec (.declare 5 1 [globalField "io" "output" 14 14])
      (running s (printing places.adapter) [printer] charge) = .done .fell
        (running s (printing places.adapter ++ [.builtin (.file .output)]) [printer]
          (charge + 40)) :=
    Run.bind_of_done <| Run.bind_of_done
      (eval_globalField scene io.binds (by decide) original Value.noConfusion 14 14)
  have keepsCurrent : exec (.declare 6 1 [variableAt 0 "out"])
      (running s (printing places.adapter ++ [.builtin (.file .output)]) [printer] (charge + 40)) =
      .done .fell (running s (variablesOf places.adapter) [printer] (charge + 40 + 40)) := rfl
  have chooserMade : eval (.function Bootstrap.output)
      (running s (variablesOf places.adapter) [printer] (charge + 40 + 40)) =
      .done (.closure 2) (running s (variablesOf places.adapter) [printer, chooser] _) :=
    eval_function rfl
  have writerMade (charge : Nat) : eval (.function Bootstrap.write)
      (running (redirectOutput places s) (variablesOf places.adapter) [printer, chooser] charge) =
      .done (.closure 3) (running _ (variablesOf places.adapter) [printer, chooser, writer] _) :=
    eval_function rfl
  obtain ⟨charge₁, output⟩ : ∃ after, exec _ _ = .done .fell (running (redirectOutput places s)
      (variablesOf places.adapter) [printer, chooser] after) := exec_putField "output" scene io (by decide)
    chooserMade 17 0 27
  obtain ⟨charge₂, write⟩ : ∃ after, exec _ _ = .done .fell (running (redirectWrite places s)
      (variablesOf places.adapter) [printer, chooser, writer] after) :=
    exec_putField "write" second (io_redirectOutput io) (by decide) (writerMade charge₁) 28 0 30
  obtain ⟨charge₃, stdout⟩ := exec_putField "stdout" third (io_redirectWrite io) (by decide)
    (eval_out_variable _ places.adapter charge₂) 31 0 31
  refine ⟨charge₃, ?_⟩
  rw [redirectFiles, Run.execBlock_of_fell (by simp) keepsOriginal,
    Run.execBlock_of_fell (by simp) keepsCurrent, Run.execBlock_of_fell (by simp) output,
    Run.execBlock_of_fell (by simp) write, Run.execBlock_of_fell (by simp) stdout]
  rfl

/-- The first script ends, and has put its functions where the libraries have theirs. -/
theorem runBody_script (finds : FindsAll places s) :
    ∃ after, Machine.runBody script (running s [] [] charge) =
      .done .fell (running (redirect places s) (variablesOf places.adapter)
        [printer, chooser, writer, refuser] after) := by
  have self := finds.globals
  have printed : Scene (redirectPrint s) := finds.basics.toScene.put self "print" (.closure 1)
  have io : Offers "io" places.io (redirectPrint s) := finds.io.put self (by decide) _
  have os : Offers "os" places.os (redirectPrint s) := finds.os.put self (by decide) _
  have original : ((redirectPrint s).table places.io).get (.ofString "output") =
      .builtin (.file .output) := by
    rw [redirectPrint, Store.table_put self.inHeap, if_neg finds.files.io.stands.notGlobals,
      finds.original]
  obtain ⟨charge₁, print⟩ := execBlock_redirectPrint charge finds.basics finds.adapter
    [ .branch [.mk (global "io" 13) false redirectFiles],
      .branch [.mk (global "os" 34) false
        [.assign [globalField "os" "exit" 35 0] [.function exit] 37]] ]
  obtain ⟨charge₂, files⟩ := execBlock_redirectFiles charge₁ printed io original
  have ioBranch : exec (.branch [.mk (global "io" 13) false redirectFiles]) _ = _ :=
    (Run.exec_branch_of_truthy (eval_global printed io.binds (by decide) 13) rfl).trans files
  have osLater := offers_redirectIo io os (by decide) (by decide) (by decide)
  have refuserMade : eval (.function exit) (running (redirectIo places (redirectPrint s))
      (variablesOf places.adapter) [printer, chooser, writer] charge₂) =
      .done (.closure 4) (running _ (variablesOf places.adapter)
        [printer, chooser, writer, refuser] _) := eval_function rfl
  obtain ⟨charge₃, exits⟩ := exec_putField "exit" (printed.redirectIo io) osLater (by decide)
    refuserMade 35 0 37
  have osBlock : execBlock none [_] _ = execBlock none [] _ :=
    Run.execBlock_of_fell (by simp) exits
  have osBranch : exec (.branch [.mk (global "os" 34) false _]) _ = .done .fell _ :=
    (Run.exec_branch_of_truthy
      (eval_global (printed.redirectIo io) osLater.binds (by decide) 34) rfl).trans osBlock
  refine ⟨charge₃, ?_⟩
  rw [script, Machine.runBody, print, Run.execBlock_of_fell (by simp) ioBranch,
    Run.execBlock_of_fell (by simp) osBranch]
  rfl

end Bootstrap

end LuaSession
