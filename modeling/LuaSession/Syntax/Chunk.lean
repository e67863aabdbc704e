import LuaSession.Syntax.Parser

/-!
# Scripts as named texts

A script has a name, which begins with `=` when it is to be shown as it is, with
`@` when it names a file, and which is the text itself otherwise. Messages show
a name in at most 59 bytes.
-/

namespace LuaSession.Syntax

open LuaSession.Script

/-- How many bytes of a name a message shows. -/
def nameRoom : Nat := 59

/-- The room for a text that is its own name, between its brackets. -/
def textRoom : Nat := 45

/-- How messages show the name of a script. -/
def shownName (name : Bytes) : Bytes :=
  let name := beforeZero name
  match name.toList with
  | 0x3D :: _ => name.extract 1 (nameRoom + 1)
  | 0x40 :: _ =>
      if name.size ≤ nameRoom + 1 then name.extract 1 name.size
      else "...".toUTF8 ++ name.extract (name.size - (nameRoom - 3)) name.size
  | bytes =>
      let firstLine := (bytes.takeWhile (· != 0x0A)).toByteArray
      let shown :=
        if firstLine.size == name.size && name.size < textRoom then name
        else firstLine.extract 0 textRoom ++ "...".toUTF8
      "[string \"".toUTF8 ++ shown ++ "\"]".toUTF8

/-- A message with its place in front. -/
def located (chunk : Bytes) (line : Nat) (what : Bytes) : Bytes :=
  chunk ++ s!":{line}: ".toUTF8 ++ what

/-- The message that a script nests too deeply. -/
def tooDeepMessage : String := "C stack overflow"

namespace Trouble

/-- The wording of what is wrong with a script whose name messages show as
`chunk`. -/
def message (chunk : Bytes) : Trouble → Bytes
  | .at line what near => located chunk line what ++ near.suffix
  | .tooDeep => tooDeepMessage.toUTF8

end Trouble

/-- Does a message say that the script ends too early? -/
def saysIncomplete (message : String) : Bool :=
  message.endsWith "<eof>" || message.endsWith "'<eof>'"

/-- The mark of compiled scripts. -/
def compiledMark : Bytes := "\x1bLua".toUTF8

/-- Does a text claim to be a compiled script? -/
def isCompiled (bytes : Bytes) : Bool := bytes.toList.head? == some 0x1B

/-- Does a text stop in the middle of a statement? Then it is no script, and its
error says that the end of the text has come too early. -/
def isIncomplete (source : String) : Bool :=
  let bytes := source.toUTF8
  if isCompiled bytes then false
  else
    match readScript ByteArray.empty 0 bytes with
    | .ok _ => false
    | .error trouble => saysIncomplete (Utf8.lossy (trouble.message ByteArray.empty))

end LuaSession.Syntax
