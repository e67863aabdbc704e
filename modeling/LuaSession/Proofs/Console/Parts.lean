import LuaSession.Proofs.Console.Conversation
import LuaSession.Proofs.Prompt.Parts

/-!
# Conversations in parts

From one snippet to the next only the console is left. So two conversations, the first
about whole lines of which none is held in the end, are one conversation about both
inputs.
-/

namespace LuaSession.Console

open Prompt

/-- When nobody is asked for lines, an input can be fed in parts: the first one is whole,
its course comes to the end of its lines, and nothing is held there. The session and the
transcript are those of the undivided input. -/
theorem repl_append (isIncomplete : String → Bool) {front : String} {lines : List String}
    {course : Course} (whole : IsWhole front) (linesOf : LinesOf front lines)
    (goesThrough : course.GoesThrough isIncomplete lines) (settled : course.parting = .done)
    (back : Bytes) (console : Console) :
    (console.repl false front.toUTF8 isIncomplete).1 = none ∧
    console.repl false (front.toUTF8 ++ back) isIncomplete =
      (console.repl false front.toUTF8 isIncomplete).2.repl false back isIncomplete := by
  obtain rfl := goesThrough.eq_course linesOf.nonempty
  have goesOn (rest : List (Except ReadError String)) :
      converse isIncomplete false "" (lines.map .ok ++ rest) console =
        converse isIncomplete false "" rest
          ((progress (Prompt.course isIncomplete [] lines)).foldl (act false) console) := by
    have spelled := converse_append isIncomplete false rest lines [] console (by simp)
      linesOf.nonempty
    rw [settled] at spelled
    exact spelled
  -- At the end of the first part nobody is asked, and nothing is left to be executed.
  have first : console.repl false front.toUTF8 isIncomplete =
      (none, (progress (Prompt.course isIncomplete [] lines)).foldl (act false) console) := by
    rw [repl, linesOf.read]
    simpa [converse, ask, finish] using goesOn []
  rw [first]
  refine ⟨rfl, ?_⟩
  rw [repl, lines_append whole.bytes, linesOf.read, goesOn]
  rfl

/-- A statement and a command are fed before another statement. -/
theorem repl_append_command :
    let front := "x = 1\n:vars\n"
    let lines := ["x = 1\n", ":vars\n"]
    let course := course Syntax.isIncomplete [] lines
    let console : Console := { session := default }
    IsWhole front ∧ LinesOf front lines ∧ course.GoesThrough Syntax.isIncomplete lines ∧
    course.parting = .done ∧
    console.repl false (front.toUTF8 ++ "print(x)\n".toUTF8) =
      (console.repl false front.toUTF8).2.repl false "print(x)\n".toUTF8 := by
  intro front lines course console
  have whole : IsWhole front := by decide
  have linesOf : LinesOf front lines := by constructor <;> decide
  have goesThrough : course.GoesThrough Syntax.isIncomplete lines :=
    course_goesThrough Syntax.isIncomplete lines [] (by simp) linesOf.nonempty (by simp)
  have settled : course.parting = .done := by decide +kernel
  exact ⟨whole, linesOf, goesThrough, settled,
    (repl_append Syntax.isIncomplete whole linesOf goesThrough settled _ console).2⟩

end LuaSession.Console
