import LuaSession.Console
import LuaSession.Proofs.Prompt.Lines

/-!
# What prompts add to a conversation

Whether somebody is asked for lines changes nothing but the prompts. A
conversation is divided into turns, one for each attempt to read a line: what is
held then, what is executed on account of the line, and what is shown for it. An
interactive conversation shows the pieces of the same turns, each with a prompt
before it. That rests on the line being closed whenever a line is to be read, since
a prompt would otherwise close it.
-/

namespace LuaSession

namespace Transcript

/-- A transcript that goes on from some earlier pieces. -/
def behind (earlier : Array String) (transcript : Transcript) : Transcript :=
  { transcript with pieces := earlier ++ transcript.pieces }

/-- Only whether the line is open counts of what has been shown before. -/
theorem eq_behind {transcript : Transcript} (closed : transcript.lineOpen = false) :
    transcript = ({} : Transcript).behind transcript.pieces := by
  obtain ⟨pieces, lineOpen⟩ := transcript
  cases closed
  simp [behind]

variable (earlier : Array String) (transcript : Transcript)

theorem write_behind (text : String) :
    (transcript.behind earlier).write text = (transcript.write text).behind earlier := by
  unfold write
  split
  · rfl
  · simp [behind, emit]

theorem endLine_behind :
    (transcript.behind earlier).endLine = transcript.endLine.behind earlier := by
  unfold endLine
  by_cases isOpen : transcript.lineOpen = true <;> simp [behind, emit, isOpen]

theorem writeAll_behind (texts : List String) :
    (transcript.behind earlier).writeAll texts = (transcript.writeAll texts).behind earlier := by
  unfold writeAll
  induction texts generalizing transcript with
  | nil => rfl
  | cons text rest ih =>
      rw [List.foldl_cons, List.foldl_cons, write_behind]
      exact ih (transcript.write text)

theorem lineOpen_endLine : transcript.endLine.lineOpen = false := by
  unfold endLine
  split
  · rfl
  next closed => exact Bool.eq_false_iff.mpr closed

/-- A text that ends in a line break leaves no line open. -/
theorem lineOpen_write_break (text : String) :
    (transcript.write (text ++ "\n")).lineOpen = false := by
  have notEmpty : (text ++ "\n").isEmpty = false := by simp
  have ends : (text ++ "\n").endsWith "\n" = true := by
    simp [← String.endsWith_toSlice, String.Slice.endsWith_string_iff]
  simp [write, notEmpty, ends]

end Transcript

namespace Session

/-- What is shown of executing a script, on a fresh line. -/
def shown (session : Session) (source : String) : List String :=
  (({} : Transcript).writeAll (session.execute source).messages).endLine.pieces.toList

/-- The line that shows the names in scope. -/
def namesLine (session : Session) : String := " ".intercalate session.names ++ "\n"

end Session

namespace Console

open Prompt

/-- One attempt to read a line: the text that is held when it is made, the snippet
that is executed on account of what is read, and what is shown for it. -/
structure Turn where
  held : String
  snippet? : Option String
  answer : List String
  deriving DecidableEq, Repr

namespace Turn

/-- The pieces of a turn: a prompt, if somebody is asked for the line, and what is
shown for it. -/
def pieces (isInteractive : Bool) (turn : Turn) : List String :=
  (if isInteractive then [promptText turn.held] else []) ++ turn.answer

theorem pieces_unasked : pieces false = answer := rfl

theorem pieces_asked :
    pieces true = fun turn => (if turn.held = "" then "> " else ">> ") :: turn.answer := by
  funext turn
  simp [pieces, promptText]

/-- The turn in which a snippet is executed. -/
def run (held snippet : String) (session : Session) : Turn :=
  ⟨held, some snippet, session.shown snippet⟩

end Turn

/-- The turns of a conversation about lines. The last one finds a command that ends
the conversation or the end of the lines. -/
def turns (isIncomplete : String → Bool) :
    (held : String) → List String → Session → List Turn
  | held, [], session => [if held.isEmpty then ⟨held, none, []⟩ else .run held held session]
  | held, line :: rest, session =>
      match react isIncomplete held line with
      | .quit => [⟨held, none, []⟩]
      | .listNames => ⟨held, none, [session.namesLine]⟩ :: turns isIncomplete "" rest session
      | .hold text => ⟨held, none, []⟩ :: turns isIncomplete text rest session
      | .run snippet =>
          .run held snippet session ::
            turns isIncomplete "" rest (session.execute snippet).session

/-- The session after the snippets of turns have been executed in it. -/
def executed (session : Session) (turns : List Turn) : Session :=
  (turns.filterMap Turn.snippet?).foldl (fun session source => (session.execute source).session)
    session

/-- A console that has shown more and has closed its line. -/
def showing (console : Console) (session : Session) (pieces : List String) : Console :=
  { session, transcript := { pieces := console.transcript.pieces ++ pieces.toArray } }

variable {console : Console}

theorem showing_showing (session later : Session) (pieces more : List String) :
    (console.showing session pieces).showing later more =
      console.showing later (pieces ++ more) := by
  simp [showing]

theorem showing_nil (closed : console.transcript.lineOpen = false) :
    console.showing console.session [] = console := by
  obtain ⟨session, pieces, lineOpen⟩ := console
  cases closed
  simp [showing]

/-- Executing a script on a fresh line. -/
theorem execute_eq_showing (closed : console.transcript.lineOpen = false) (source : String) :
    console.execute source =
      console.showing (console.session.execute source).session (console.session.shown source) := by
  have shown : (console.transcript.writeAll (console.session.execute source).messages).endLine =
      (({} : Transcript).writeAll
        (console.session.execute source).messages).endLine.behind console.transcript.pieces := by
    rw [← Transcript.endLine_behind, ← Transcript.writeAll_behind, ← Transcript.eq_behind closed]
  have isClosed := Transcript.lineOpen_endLine
    (({} : Transcript).writeAll (console.session.execute source).messages)
  simp only [execute, shown, showing, Session.shown, Transcript.behind, Array.toArray_toList,
    isClosed]

/-- Showing the names. -/
theorem listNames_eq_showing (closed : console.transcript.lineOpen = false) :
    console.listNames = console.showing console.session [console.session.namesLine] := by
  have isClosed := Transcript.lineOpen_write_break ({} : Transcript)
    (" ".intercalate console.session.names)
  have pieces : (({} : Transcript).write console.session.namesLine).pieces =
      #[console.session.namesLine] := by
    simp [Transcript.write, Transcript.emit, Session.namesLine]
  have shown : console.transcript.write console.session.namesLine =
      (({} : Transcript).write console.session.namesLine).behind console.transcript.pieces := by
    rw [← Transcript.write_behind, ← Transcript.eq_behind closed]
  rw [listNames, ← Session.namesLine, shown, Transcript.behind, pieces, showing]
  rw [← Session.namesLine] at isClosed
  rw [isClosed]

/-- Asking for a line on a fresh line shows a prompt, if somebody is there. -/
theorem ask_eq_showing (closed : console.transcript.lineOpen = false) (isInteractive : Bool)
    (held : String) :
    console.ask isInteractive held =
      console.showing console.session (if isInteractive then [promptText held] else []) := by
  cases isInteractive with
  | false => exact (showing_nil closed).symm
  | true => simp [ask, Transcript.prompt, Transcript.endLine, Transcript.emit, showing, closed]

/-- A conversation shows the pieces of its turns and executes their snippets. -/
theorem converse_eq_turns (isIncomplete : String → Bool) (isInteractive : Bool)
    (lines : List String) : ∀ (held : String) (console : Console),
    console.transcript.lineOpen = false →
    converse isIncomplete isInteractive held (lines.map .ok) console =
      (none, console.showing (executed console.session (turns isIncomplete held lines console.session))
        ((turns isIncomplete held lines console.session).flatMap (Turn.pieces isInteractive))) := by
  induction lines with
  | nil =>
      intro held console closed
      rw [List.map_nil, converse, ask_eq_showing closed, turns, finish]
      split
      next isEmpty => simp [executed, Turn.pieces]
      next =>
        rw [execute_eq_showing rfl]
        simp [executed, Turn.pieces, Turn.run, showing]
  | cons line rest ih =>
      intro held console closed
      rw [List.map_cons, converse, ask_eq_showing closed, takeLine, turns]
      cases react isIncomplete held line with
      | quit => simp [executed, Turn.pieces]
      | listNames =>
          dsimp only
          rw [listNames_eq_showing rfl, showing_showing, ih _ _ rfl]
          simp [showing, executed, Turn.pieces]
      | hold text =>
          dsimp only
          rw [ih _ _ rfl]
          simp [showing, executed, Turn.pieces]
      | run snippet =>
          dsimp only
          rw [execute_eq_showing rfl, showing_showing, ih _ _ rfl]
          simp [showing, executed, Turn.pieces, Turn.run]

/-- The interactive conversation about an input and the other one execute the same
snippets in the same order and leave the same session behind. They go through the same
turns, one for each attempt to read a line: what the other one shows is, as text too,
what is shown in these turns, and the interactive one shows before it, turn by turn,
one prompt more, which tells whether anything is held then. -/
theorem repl_only_adds_prompts (isIncomplete : String → Bool) (text : String)
    {console : Console} (closed : console.transcript.lineOpen = false) :
    ∃ (lines : List String) (all : List Turn) (asked unasked : Console),
      LinesOf text lines ∧ all = turns isIncomplete "" lines console.session ∧
      console.repl true text.toUTF8 isIncomplete = (none, asked) ∧
      console.repl false text.toUTF8 isIncomplete = (none, unasked) ∧
      unasked.session = executed console.session all ∧
      asked.session = unasked.session ∧
      unasked.transcript.pieces.toList =
        console.transcript.pieces.toList ++ all.flatMap Turn.answer ∧
      unasked.transcript.text = console.transcript.text ++ String.join (all.flatMap Turn.answer) ∧
      asked.transcript.pieces.toList = console.transcript.pieces.toList ++
        all.flatMap fun turn => (if turn.held = "" then "> " else ">> ") :: turn.answer := by
  obtain ⟨lines, linesOf, read⟩ := lines_toUTF8 text
  have goes (isInteractive : Bool) := converse_eq_turns isIncomplete isInteractive lines "" console
    closed
  simp only [← read] at goes
  refine ⟨lines, _, _, _, linesOf, rfl, goes true, goes false, rfl, rfl, ?_, ?_, ?_⟩
  · simp [showing, Turn.pieces_unasked]
  · simp [Transcript.text, showing, Turn.pieces_unasked]
  · simp [showing, Turn.pieces_asked]

/-- A blank line can be read in one way only. -/
theorem linesOf_break {lines : List String} (linesOf : LinesOf "\n" lines) : lines = ["\n"] :=
  linesOf.eq_splitBreaks.trans (by decide)

/-- A blank line that is held: two prompts are shown, and what is held is executed in
the end. -/
theorem repl_only_adds_prompts_held :
    ({ session := default } : Console).transcript.lineOpen = false ∧
    (({ session := default } : Console).repl true "\n".toUTF8 fun _ => true).2.transcript.pieces.toList =
      "> " :: ">> " :: (default : Session).shown "\n" := by
  have fresh : ({ session := default } : Console).transcript.lineOpen = false := rfl
  refine ⟨fresh, ?_⟩
  obtain ⟨lines, all, asked, _, linesOf, turns, talked, _, _, _, _, _, pieces⟩ :=
    repl_only_adds_prompts (fun _ => true) "\n" fresh
  obtain rfl := linesOf_break linesOf
  have holds : react (fun _ => true) "" "\n" = .hold "\n" := by decide
  rw [talked, pieces, turns]
  simp [Console.turns, holds, Turn.run]

end Console

end LuaSession
