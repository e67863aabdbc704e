import LuaSession.Bootstrap
import LuaSession.Proofs.Script.FreeNames
import LuaSession.Proofs.Script.Sameness
import LuaSession.Proofs.Text.Encoding
import LuaSession.Syntax.Chunk

/-!
# What the first script is read as

The functions of the first script one by one, and the script that puts them where they
belong. In which slots its variables stand, and what the functions capture, is decided
when the text is read; that it is read as this script is checked by reading it.
-/

namespace LuaSession.Bootstrap

open LuaSession.Script

/-- A global of the first script. -/
def global (name : String) (line : Nat) : Expr := .free 0 Expr.environment name.toUTF8 line

/-- A field of what a global of the first script holds. -/
def globalField (name field : String) (line target : Nat) : Expr :=
  .index (global name line) (.const (.ofString field)) target

/-- A variable of the running function. -/
def variableAt (index : Nat) (name : String) : Expr := .slot index name.toUTF8

/-- A variable that the running function has captured. -/
def capturedAt (index : Nat) (name : String) : Expr := .captured index name.toUTF8

/-- A function of the first script: a variable for every argument, or any number of
arguments when there are none. -/
def info (line parameters slots frameSize : Nat) (isVariadic : Bool) (captures : Array Capture) :
    CodeInfo where
  chunk := chunkName.toUTF8
  line
  parameters
  isVariadic
  slots
  frameSize
  shared := #[]
  captures

/-! ## The functions -/

/-- The expression that makes the text of an argument. -/
def textOfArgument : Expr :=
  .call (capturedAt 1 "tostring")
    [.single (.call (capturedAt 0 "select") [variableAt 4 "i", .variadic] 8 6)] 8 5

/-- The statement that collects the text of an argument. -/
def collect : Stmt := .assign [.index (variableAt 0 "parts") (variableAt 4 "i") 0] [textOfArgument] 8

/-- The expression that counts the arguments. -/
def argumentCount : Expr :=
  .call (capturedAt 0 "select") [.const (.ofString "#"), .variadic] 7 2

/-- The expression that joins the texts. -/
def joined : Expr :=
  .call (capturedAt 3 "concat") [variableAt 0 "parts", .const (.ofString "\t")] 10 3

/-- The function that prints. -/
def print : Code :=
  .mk (info 5 0 5 8 true #[.slot 1, .slot 2, .slot 0, .slot 3]) false
    [ .declare 0 1 [.table []],
      .count 4 (.const (.int 1)) argumentCount (.const (.int 1)) false [collect] 7,
      .run (.method (capturedAt 2 "out") "write".toUTF8 [joined, .const (.ofString "\n")] 10 10 1) ]

/-- The expression that has the library choose the file. -/
def choice : Expr := .call (capturedAt 2 "set_output") [variableAt 0 "file"] 24 1

/-- The function that tells and chooses where output goes. -/
def output : Code :=
  .mk (info 17 1 1 3 false #[.slot 6, .slot 0, .slot 5]) false
    [ .branch [.mk (.binary .eq (variableAt 0 "file") (.const .nil) 18) false
        [.return [capturedAt 0 "current"]]],
      .branch
        [ .mk (.binary .eq (variableAt 0 "file") (capturedAt 1 "out") 21) false
            [.assign [capturedAt 0 "current"] [capturedAt 1 "out"] 22],
          .mk (.const (.bool true)) false [.assign [capturedAt 0 "current"] [choice] 24] ],
      .return [capturedAt 0 "current"] ]

/-- The function that writes to where output goes. -/
def write : Code :=
  .mk (info 28 0 0 2 true #[.slot 6]) false
    [.tailCall (.method (capturedAt 0 "current") "write".toUTF8 [.variadic] 29 29 0)]

/-- The function that refuses to end the process. -/
def exit : Code :=
  .mk (info 35 0 0 3 false #[.slot 4]) false
    [.run (.call (capturedAt 0 "error")
      [.const (.ofString "os.exit is not available in a script session"), .const (.int 2)] 36 0)]

/-! ## The script -/

/-- The statements that redirect the library of files. -/
def redirectFiles : List Stmt :=
  [ .declare 5 1 [globalField "io" "output" 14 14],
    .declare 6 1 [variableAt 0 "out"],
    .assign [globalField "io" "output" 17 0] [.function output] 27,
    .assign [globalField "io" "write" 28 0] [.function write] 30,
    .assign [globalField "io" "stdout" 31 0] [variableAt 0 "out"] 31 ]

/-- The first script. -/
def script : Code :=
  .mk { info 0 0 7 9 true #[.slot 0] with shared := Array.replicate 7 true } false
    [ .declare 0 1 [global outputBinding 2],
      .declare 1 4
        [global "select" 3, global "tostring" 3, globalField "table" "concat" 3 3, global "error" 3],
      .assign [globalField "_G" "print" 5 0] [.function print] 11,
      .branch [.mk (global "io" 13) false redirectFiles],
      .branch [.mk (global "os" 34) false
        [.assign [globalField "os" "exit" 35 0] [.function exit] 37]] ]

/-! ## Reading the text -/

/-- Reading a script of which the bytes are in a list. -/
def readBytes (bytes : List UInt8) : Option Code :=
  match Syntax.Read.script.run
      { rest := bytes, size := bytes.length + 2, scope := Syntax.mainScope, depth := 0
        chunk := chunkName.toUTF8 } with
  | .ok code _ => some code
  | .error _ _ => none

/-- Reading a text is reading the bytes of its characters. -/
theorem readScript_of_readBytes {source : String} {characters : List Char} {code : Code}
    (isText : source.toList = characters)
    (read : (readBytes (Utf8.encode characters)).map (·.same code) = some true) :
    Syntax.readScript chunkName.toUTF8 0 source.toUTF8 = .ok code := by
  have bytes : source.toUTF8.toList = Utf8.encode characters := isText ▸ Utf8.toList_toUTF8 source
  have size : source.toUTF8.size = (Utf8.encode characters).length := by
    rw [← bytes, toList_eq_data]
    rfl
  unfold readBytes at read
  simp only [Syntax.readScript, bytes, size]
  generalize EStateM.run Syntax.Read.script _ = ran at read ⊢
  cases ran with
  | ok other _ => exact congrArg Except.ok (eq_of_same.2.2.1 other code (Option.some.inj read))
  | error _ _ => cases read

set_option maxRecDepth 20000 in
/-- The text is read as the first script. -/
theorem readScript_text : Syntax.readScript chunkName.toUTF8 0 text.toUTF8 = .ok script := by
  apply readScript_of_readBytes (String.toList_ofList (l := _))
  decide +kernel

theorem head_of_encoded {source : String} {characters : List Char} {byte : UInt8}
    (isText : source.toList = characters)
    (begins : (Utf8.encode characters).head? = some byte) :
    source.toUTF8.toList.head? = some byte := by
  rw [Utf8.toList_toUTF8, isText, begins]

set_option maxRecDepth 20000 in
/-- The text begins with a line break. -/
theorem head_text : text.toUTF8.toList.head? = some 0x0A := by
  apply head_of_encoded (String.toList_ofList (l := _))
  decide +kernel

end LuaSession.Bootstrap
