/-!
# Transcripts

A transcript is everything a console has shown: script output, messages,
prompts. It remembers whether the last text left its line open, so that prompts
start on a fresh line.
-/

namespace LuaSession

/-- The pieces shown so far, in order, and whether the last line is open. -/
structure Transcript where
  pieces : Array String := #[]
  lineOpen : Bool := false
  deriving DecidableEq, Repr, Inhabited

namespace Transcript

/-- Show a piece as it is, leaving the line as it was. -/
def emit (transcript : Transcript) (piece : String) : Transcript :=
  { transcript with pieces := transcript.pieces.push piece }

/-- Write a text; it leaves the line open unless it ends in a line break. An
empty text changes nothing. -/
def write (transcript : Transcript) (text : String) : Transcript :=
  if text.isEmpty then transcript
  else { transcript.emit text with lineOpen := !text.endsWith "\n" }

/-- End the line if it is open. -/
def endLine (transcript : Transcript) : Transcript :=
  if transcript.lineOpen then { transcript.emit "\n" with lineOpen := false } else transcript

/-- Show a prompt on a fresh line. A prompt does not open a line. -/
def prompt (transcript : Transcript) (text : String) : Transcript :=
  transcript.endLine.emit text

/-- Write several texts in order. -/
def writeAll (transcript : Transcript) (texts : List String) : Transcript :=
  texts.foldl write transcript

/-- Everything shown, as one text. -/
def text (transcript : Transcript) : String := String.join transcript.pieces.toList

end Transcript

end LuaSession
