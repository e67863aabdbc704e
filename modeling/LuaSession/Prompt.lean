import LuaSession.HostError
import LuaSession.Text.Blank

/-!
# The prompt

Scripts are typed line by line. Lines are held as long as they stop in the
middle of a statement; then all of them together are run. While nothing is held,
a line can be a command instead.
-/

namespace LuaSession.Prompt

/-- The command that ends the conversation. -/
def quitCommand : String := ":quit"

/-- The command that lists the names in scope. -/
def namesCommand : String := ":vars"

/-- What is to be done about a line. -/
inductive Reaction where
  | quit
  | listNames
  /-- Wait for more. -/
  | hold (text : String)
  | run (snippet : String)
  deriving DecidableEq, Repr

/-- React to a line, its end included, when a text is held. -/
def react (isIncomplete : String → Bool) (held line : String) : Reaction :=
  if held.isEmpty && Text.trim line == quitCommand then .quit
  else if held.isEmpty && Text.trim line == namesCommand then .listNames
  else
    let text := held ++ line
    if isIncomplete text then .hold text else .run text

/-- The text that asks for a line. -/
def promptText (held : String) : String := if held.isEmpty then "> " else ">> "

/-- The lines of an input, each with its end; the last one may have none. -/
def splitLines : (current : List UInt8) → List UInt8 → List Bytes
  | [], [] => []
  | current, [] => [current.reverse.toByteArray]
  | current, b :: rest =>
      if b == 0x0A then (b :: current).reverse.toByteArray :: splitLines [] rest
      else splitLines (b :: current) rest

/-- A line as text, if it is UTF-8. -/
def readLine (line : Bytes) : Except ReadError String :=
  match Utf8.decode? line with
  | some text => .ok text
  | none => .error .notText

/-- The lines of an input. -/
def lines (input : Bytes) : List (Except ReadError String) :=
  (splitLines [] input.toList).map readLine

end LuaSession.Prompt
