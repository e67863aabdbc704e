import LuaSession.Proofs.Console.Leftover
import LuaSession.Proofs.Prompt.Parts

/-!
# Conversations that break off

An input that is no text has a first line that cannot be read. The conversation is over
then, unless a command has ended it before. What was complete by then has been executed;
what is held is lost, although at the end of an input it would be executed for its error to
be shown.
-/

namespace LuaSession.Console

open Prompt

/-- How a conversation ends whose lines break off behind those of a course. -/
def breakingOff (course : Course) : Option ReadError :=
  match course.parting with
  | .quit _ => none
  | _ => some .notText

/-- The moves of a course up to the last attempt to read a line. -/
def attempts (course : Course) : List Move :=
  progress course ++ ((held? course.parting).map fun left => .ask (String.join left)).toList

/-- The moves of a course after that: what is held is executed. -/
def lastMoves (course : Course) : List Move := course.parting.snippet?.toList.map .execute

theorem moves_eq_attempts (course : Course) : moves course = attempts course ++ lastMoves course := by
  obtain ⟨deeds, parting, unread⟩ := course
  cases parting <;>
    simp [moves, partingMoves, attempts, progress, held?, lastMoves, Parting.snippet?]

/-- Up to the last attempt to read a line the snippets of the deeds are executed. -/
theorem filterMap_snippet?_attempts (course : Course) :
    (attempts course).filterMap Move.snippet? = course.deeds.filterMap Deed.snippet? := by
  have last : (lastMoves course).filterMap Move.snippet? = course.parting.snippet?.toList := by
    rw [lastMoves, List.filterMap_map]
    exact List.filterMap_some
  have all := filterMap_snippet?_moves course
  rw [moves_eq_attempts, List.filterMap_append, last] at all
  exact List.append_cancel_right all

/-- When a line of an input is no text, the lines before it are gone through as if there
were no more, but that nothing is executed in the end. The snippets of the deeds are all
that is executed, and the conversation ends with the failure, unless a command has ended it
before. If lines are still held then, nothing is executed or shown of them. -/
theorem repl_breaks_off (isIncomplete : String → Bool) {input : Bytes}
    (noText : Utf8.decode? input = none) :
    ∃ lines line rest course, BreaksOff input lines line rest ∧
      course.GoesThrough isIncomplete lines ∧
      moves course = attempts course ++ lastMoves course ∧
      (attempts course).filterMap Move.snippet? = course.deeds.filterMap Deed.snippet? ∧
      ∀ (isInteractive : Bool) (console : Console),
        console.repl isInteractive input isIncomplete =
          (breakingOff course, (attempts course).foldl (act isInteractive) console) := by
  obtain ⟨lines, line, rest, breaks⟩ := exists_breaksOff noText
  have goesThrough := course_goesThrough isIncomplete lines [] (by simp) breaks.linesOf.nonempty
    (by simp)
  refine ⟨lines, line, rest, _, breaks, goesThrough, moves_eq_attempts _,
    filterMap_snippet?_attempts _, fun isInteractive console => ?_⟩
  have talked := converse_append isIncomplete isInteractive
    (.error .notText :: Prompt.lines rest) lines [] console (by simp) breaks.linesOf.nonempty
  rw [repl, breaks.read]
  refine talked.trans ?_
  rw [attempts, List.foldl_append]
  generalize course isIncomplete [] lines = course
  obtain ⟨deeds, parting, unread⟩ := course
  cases parting <;> rfl

/-- A line that opens a bracket, and one that is no text. -/
def brokenInput : Bytes := openBracket.toUTF8 ++ [0xFF, 0x0A].toByteArray

theorem lines_brokenInput : Prompt.lines brokenInput = [.ok openBracket, .error .notText] := by
  have split : splitLines [] brokenInput.toList =
      [openBracket.toUTF8, [0xFF, 0x0A].toByteArray] := by
    decide +kernel
  have noText : Utf8.decode? [0xFF, 0x0A].toByteArray = none := by decide +kernel
  rw [Prompt.lines, split, List.map_cons, List.map_cons, List.map_nil, readLine, readLine,
    Utf8.decode?_toUTF8, noText]

/-- The bracket is all that is read of that input, and nothing is executed of it. -/
theorem repl_breaks_off_openBracket :
    Utf8.decode? brokenInput = none ∧
    ∀ console : Console, console.repl false brokenInput = (some .notText, console) := by
  have noText : Utf8.decode? brokenInput = none := by decide +kernel
  refine ⟨noText, fun console => ?_⟩
  obtain ⟨lines, line, rest, course, breaks, goesThrough, -, -, talks⟩ :=
    repl_breaks_off Syntax.isIncomplete noText
  obtain rfl : lines = [openBracket] := by
    have read := breaks.read
    rw [lines_brokenInput] at read
    match lines, read with
    | [first], read => simpa using (List.cons.inj read).1.symm
  obtain rfl := course_openBracket (by simpa using breaks.linesOf) goesThrough
  exact talks false console

/-- The open bracket is lost: the conversation leaves the console as it was, although
executing what is held would show what is wrong with it, as it does when the input ends
there. -/
theorem openBracket_lost :
    Syntax.isIncomplete openBracket = true ∧
    ∃ outcome, Session.open {} = .ok outcome ∧
      let console : Console := { session := outcome.session }
      console.repl false brokenInput = (some .notText, console) ∧
      console.repl false openBracket.toUTF8 = (none, console.execute openBracket) ∧
      console.execute openBracket ≠ console := by
  have incomplete : Syntax.isIncomplete openBracket = true := by decide +kernel
  obtain ⟨outcome, opened⟩ : ∃ outcome, Session.open {} = .ok outcome :=
    Session.exists_create rfl Bootstrap.text
  have name : outcome.session.chunkName = "snippet" := Session.chunkName_create opened
  have holds : react Syntax.isIncomplete "" openBracket = .hold openBracket := by decide +kernel
  refine ⟨incomplete, outcome, opened, ?_, repl_openBracket _, fun same => ?_⟩
  · rw [repl, lines_brokenInput, converse, takeLine, holds]
    rfl
  · obtain ⟨failure, refuses, -, shown⟩ := Session.refuses_of_isIncomplete
      (Session.isDelivered_create opened) incomplete
    have notEmpty : failure.describe ≠ "" := by
      refine shown ?_
      rw [Session.shownChunkName_eq (by rw [name]; decide), name]
      decide
    rw [execute_of_refuses refuses] at same
    have nothing := congrArg (fun console : Console => console.transcript.pieces.size) same
    simp [Transcript.write, Transcript.endLine, Transcript.emit, notEmpty] at nothing
    split at nothing <;> simp at nothing

end LuaSession.Console
