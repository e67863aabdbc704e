import LuaSession.Proofs.Console.Conversation
import LuaSession.Proofs.Host.Execution
import LuaSession.Proofs.Session.Refusal

/-!
# Texts that never run

Whatever a console executes compiles as a whole or is refused as a whole. What is held is
refused: when the lines end and some of them are still held, executing them changes nothing
and shows what is wrong with them. Only if the name of the scripts quotes a traceback may
nothing be left of that message when it is shown.
-/

namespace LuaSession.Console

open Prompt

variable {console : Console}

/-- A text that is refused is shown to be wrong, and nothing else happens. -/
theorem execute_of_refuses {source : String} {failure : Failure}
    (refuses : console.session.Refuses source failure) :
    console.execute source =
      { session := console.session
        transcript := (console.transcript.write failure.describe).endLine } := by
  rw [execute, refuses.executes]
  rfl

/-- No move leaves a message undelivered. -/
theorem isDelivered_act (delivered : console.session.IsDelivered) (isInteractive : Bool)
    (move : Move) : (act isInteractive console move).session.IsDelivered := by
  cases move with
  | ask held => cases isInteractive <;> exact delivered
  | listNames => exact delivered
  | execute snippet => exact Session.isDelivered_execute console.session snippet

theorem isDelivered_foldl_act (delivered : console.session.IsDelivered) (isInteractive : Bool)
    (moves : List Move) : (moves.foldl (act isInteractive) console).session.IsDelivered := by
  induction moves generalizing console with
  | nil => exact delivered
  | cons move moves ih => exact ih (isDelivered_act delivered isInteractive move)

/-- The last move of a course whose lines are not all used is to execute the others. -/
theorem moves_leftover {course : Course} {held : List String}
    (parting : course.parting = .leftover held) :
    ∃ front, moves course = front ++ [.execute (String.join held)] := by
  refine ⟨course.deeds.flatMap deedMoves ++ asks "" held ++ [.ask (String.join held)], ?_⟩
  rw [moves, parting, partingMoves]
  simp

/-- Texts that stop in the middle of a statement never run. Executing one changes nothing,
and the only message is about the line where it stops; the message is not empty, unless the
name of the scripts quotes a traceback. So whatever a conversation executes compiles as a
whole or is refused as a whole, and the lines that are held in the end are refused: the
session is left as it is, and one message is shown. -/
theorem held_never_runs (session : Session) (source text : String) :
    (session.IsDelivered → Syntax.isIncomplete source = true →
      ¬session.Compiles source ∧ ∃ failure, session.Refuses source failure ∧
        ('\x00' ∉ session.chunkName.toList → ∃ line what near,
          Syntax.reading source = .error (.at line what near) ∧
          failure.describe = Failure.cutTraceback
            (Utf8.lossy ((Syntax.Trouble.at line what near).message session.chunk))) ∧
        (¬Failure.tracebackStart <:+: (session.shownChunkName ++ ":").toList →
          failure.describe ≠ "")) ∧
    ∃ lines course, LinesOf text lines ∧
      course.GoesThrough Syntax.isIncomplete lines ∧
      ∀ (isInteractive : Bool) (console : Console), console.session.IsDelivered →
        let after (moves : List Move) := moves.foldl (act isInteractive) console
        console.repl isInteractive text.toUTF8 = (none, after (moves course)) ∧
        (∀ front snippet back, moves course = front ++ .execute snippet :: back →
          (after front).session.Compiles snippet ∨
            ∃ failure, (after front).session.Refuses snippet failure) ∧
        ∀ held, course.parting = .leftover held → ∃ front failure,
          moves course = front ++ [.execute (String.join held)] ∧
          (after front).session.Refuses (String.join held) failure ∧
          after (moves course) =
            { session := (after front).session
              transcript := ((after front).transcript.write failure.describe).endLine } ∧
          (¬Failure.tracebackStart <:+: ((after front).session.shownChunkName ++ ":").toList →
            failure.describe ≠ "") := by
  refine ⟨fun delivered incomplete => ⟨Session.not_compiles_of_isIncomplete incomplete,
    Session.refuses_of_isIncomplete delivered incomplete⟩, ?_⟩
  obtain ⟨lines, linesOf, read⟩ := lines_toUTF8 text
  have goesThrough := course_goesThrough Syntax.isIncomplete lines [] (by simp) linesOf.nonempty
    (by simp)
  refine ⟨lines, _, linesOf, goesThrough, fun isInteractive console delivered => ⟨?_, ?_, ?_⟩⟩
  · rw [repl, read]
    exact converse_eq_foldl_act _ isInteractive linesOf.nonempty console
  · intro front snippet back _
    exact (Session.refuses_or_compiles
      (isDelivered_foldl_act delivered isInteractive front) snippet).symm
  · intro held parting
    obtain ⟨front, last⟩ := moves_leftover parting
    have fits := goesThrough.partingFits
    rw [parting] at fits
    obtain ⟨failure, refuses, -, shown⟩ := Session.refuses_of_isIncomplete
      (isDelivered_foldl_act delivered isInteractive front) fits.2
    refine ⟨front, failure, last, refuses, ?_, shown⟩
    dsimp only
    rw [last, List.foldl_append]
    exact execute_of_refuses refuses

/-- A line that opens a bracket. -/
def openBracket : String := "x = (\n"

/-- It is the whole of an input, and stays held. -/
theorem course_openBracket {lines : List String} (linesOf : LinesOf openBracket lines)
    {course : Course} (goesThrough : course.GoesThrough Syntax.isIncomplete lines) :
    course = ⟨[], .leftover [openBracket], []⟩ := by
  obtain rfl : lines = [openBracket] := linesOf.eq_splitBreaks.trans (by decide)
  rw [goesThrough.eq_course linesOf.nonempty]
  decide +kernel

/-- An input of that line alone executes it in the end. -/
theorem repl_openBracket (console : Console) :
    console.repl false openBracket.toUTF8 = (none, console.execute openBracket) := by
  have linesOf : LinesOf openBracket [openBracket] := by constructor <;> decide
  have goesThrough := course_goesThrough Syntax.isIncomplete [openBracket] [] (by simp)
    linesOf.nonempty (by simp)
  rw [repl, linesOf.read, converse_eq_foldl_act _ _ linesOf.nonempty,
    course_openBracket linesOf goesThrough]
  rfl

/-- In a new session it is refused, and its message is shown when the input ends. -/
theorem held_never_runs_openBracket :
    ∃ outcome, Session.create {} "\x1b" = .ok outcome ∧ outcome.session.IsDelivered ∧
      Syntax.isIncomplete openBracket = true ∧ ¬outcome.session.Compiles openBracket ∧
      ∃ failure, outcome.session.Refuses openBracket failure ∧ failure.describe ≠ "" ∧
        ({ session := outcome.session } : Console).repl false openBracket.toUTF8 =
          (none, { session := outcome.session
                   transcript := (({} : Transcript).write failure.describe).endLine }) := by
  obtain ⟨outcome, created, fresh⟩ := Session.exists_fresh "snippet"
  have delivered : outcome.session.IsDelivered := Session.isDelivered_create created
  have incomplete : Syntax.isIncomplete openBracket = true := by decide +kernel
  have unmarked :
      ¬Failure.tracebackStart <:+: (outcome.session.shownChunkName ++ ":").toList := by
    have name : outcome.session.chunkName = "snippet" := fresh.named
    rw [Session.shownChunkName_eq (by rw [name]; decide), name]
    decide
  obtain ⟨refused, lines, course, linesOf, goesThrough, talks⟩ :=
    held_never_runs outcome.session openBracket openBracket
  obtain ⟨notCompiled, -⟩ := refused delivered incomplete
  obtain rfl := course_openBracket linesOf goesThrough
  obtain ⟨talked, -, leftover⟩ := talks false { session := outcome.session } delivered
  obtain ⟨front, failure, last, refuses, shown, notEmpty⟩ := leftover _ rfl
  have asked : front = [.ask "", .ask openBracket] :=
    List.append_cancel_right (last.symm.trans (by decide))
  subst asked
  exact ⟨outcome, created, delivered, incomplete, notCompiled, failure, refuses,
    notEmpty unmarked, talked.trans (congrArg _ shown)⟩

/-! ## A name that quotes a traceback -/

/-- A name that looks like the beginning of a traceback. -/
def tracebackName : String := "\nstack traceback:"

/-- The settings may give that name to a session. Then what is held in the end is not seen
to be wrong: nothing of the message is left, and nothing is shown. -/
theorem held_unseen :
    Settings.ofText "engine \x7b\n    chunk-name \"\\nstack traceback:\"\n\x7d\n" =
      .ok { chunkName := tracebackName } ∧
    ∃ outcome, Session.open { chunkName := tracebackName } = .ok outcome ∧
      Syntax.isIncomplete openBracket = true ∧
      ({ session := outcome.session } : Console).repl false openBracket.toUTF8 =
        (none, { session := outcome.session }) := by
  have accepted : (Settings.ofText
      "engine \x7b\n    chunk-name \"\\nstack traceback:\"\n\x7d\n").toOption =
        some { chunkName := tracebackName } := by
    decide +kernel
  obtain ⟨outcome, opened⟩ : ∃ outcome, Session.open { chunkName := tracebackName } = .ok outcome :=
    Session.exists_create rfl Bootstrap.text
  have name : outcome.session.chunkName = tracebackName := Session.chunkName_create opened
  have incomplete : Syntax.isIncomplete openBracket = true := by decide +kernel
  obtain ⟨failure, refuses, told, -⟩ := Session.refuses_of_isIncomplete
    (Session.isDelivered_create opened) incomplete
  obtain ⟨line, what, near, fails, told⟩ := told (by rw [name]; decide)
  have nothing : failure.describe = "" := by
    have computed : ((Syntax.reading openBracket).map fun _ => ()).mapError (fun trouble =>
        Failure.cutTraceback (Utf8.lossy
          (trouble.message (Syntax.shownName s!"={tracebackName}".toUTF8)))) = .error "" := by
      decide +kernel
    rw [fails] at computed
    rw [told, Session.chunk, show outcome.session.setting.chunkName = _ from name]
    exact Except.error.inj computed
  refine ⟨?_, outcome, opened, incomplete, ?_⟩
  · cases read : Settings.ofText _ with
    | error failure =>
        rw [read] at accepted
        cases accepted
    | ok settings =>
        rw [read] at accepted
        rw [Option.some.inj accepted]
  · rw [repl_openBracket, execute_of_refuses refuses, nothing]
    rfl

end LuaSession.Console
