import LuaSession.Proofs.Console.Conversation
import LuaSession.Proofs.Syntax.Incomplete

/-!
# Lines that are held

A console holds lines while `isIncomplete` says of them that they stop in the middle of a
statement. That is said of texts that are wrong at their end, and one more line is enough
to have something else be wrong with them. But it is also said where a message shows a part
of the text that reads like the end of a text: then nothing that is typed changes anything.
-/

namespace LuaSession

open LuaSession.Script
open LuaSession.Syntax (isIncomplete reading Stuck Released)

namespace Prompt

/-- While no further line changes anything, all lines are held, commands too. -/
theorem course_swallows {isIncomplete : String → Bool} {held : List String}
    (begun : String.join held ≠ "")
    (forever : ∀ more, isIncomplete (String.join held ++ more) = true) (lines : List String) :
    course isIncomplete held lines = ⟨[], .leftover (held ++ lines), []⟩ := by
  induction lines generalizing held with
  | nil =>
      cases held with
      | nil => exact absurd rfl begun
      | cons first rest => simp [course]
  | cons line rest ih =>
      have joined : String.join (held ++ [line]) = String.join held ++ line := by simp
      have holds : react isIncomplete (String.join held) line =
          .hold (String.join held ++ line) := by
        simp [react, begun, forever]
      have begun' : String.join (held ++ [line]) ≠ "" := by
        rw [joined, ne_eq, String.append_eq_empty_iff]
        exact fun nothing => begun nothing.1
      have forever' (more : String) :
          isIncomplete (String.join (held ++ [line]) ++ more) = true := by
        rw [joined, String.append_assoc]
        exact forever (line ++ more)
      rw [course, holds]
      simpa using ih begun' forever'

end Prompt

namespace Console

open Prompt (course)

/-- A text that is held is either held for good, whatever is typed, or one more line has
something else be wrong with it. -/
theorem held_for_good_or_released (text : String) (held : isIncomplete (text ++ "\n") = true) :
    ∃ trouble, reading (text ++ "\n") = .error trouble ∧
      (Stuck (text ++ "\n") trouble ∧
          (∀ start lines, String.join start = text ++ "\n" →
            course isIncomplete start lines = ⟨[], .leftover (start ++ lines), []⟩) ∨
        Released (text ++ "\n") trouble) := by
  obtain ⟨-, trouble, fails, -⟩ := Syntax.isIncomplete_iff.mp held
  refine ⟨trouble, fails, ?_⟩
  obtain stuck | released := Syntax.stuck_or_released held fails
  · refine .inl ⟨stuck, fun start lines isText => ?_⟩
    refine Prompt.course_swallows ?_ ?_ lines
    · simp [isText]
    · rw [isText]
      exact stuck.incomplete
  · exact .inr released

theorem held_for_good_or_released_do :
    isIncomplete ("do" ++ "\n") = true ∧ ∃ trouble, reading ("do" ++ "\n") = .error trouble ∧
      (Stuck ("do" ++ "\n") trouble ∧
          (∀ start lines, String.join start = "do" ++ "\n" →
            course isIncomplete start lines = ⟨[], .leftover (start ++ lines), []⟩) ∨
        Released ("do" ++ "\n") trouble) := by
  have held : isIncomplete ("do" ++ "\n") = true := by decide +kernel
  exact ⟨held, held_for_good_or_released "do" held⟩

/-- A string that is not closed, and reads like the end of a text so far, is held for good:
nothing completes it, and no command is obeyed any more. -/
theorem quoted_end_held_for_good :
    isIncomplete "x = '<eof>\n" = true ∧
      (∀ (more : String) (code : Code), reading ("x = '<eof>\n" ++ more) ≠ .ok code) ∧
      ∀ lines, course isIncomplete [] ("x = '<eof>\n" :: lines) =
        ⟨[], .leftover ("x = '<eof>\n" :: lines), []⟩ := by
  have isText : "x = '<eof>" ++ "\n" = "x = '<eof>\n" := rfl
  have held : isIncomplete ("x = '<eof>" ++ "\n") = true := by decide +kernel
  have quotes : Syntax.quotesEnd ("x = '<eof>" ++ "\n") = true := by decide +kernel
  obtain ⟨trouble, fails, quotes⟩ := Syntax.quotesEnd_iff.mp quotes
  obtain stuck | released := Syntax.stuck_or_released held fails
  · rw [isText] at held stuck
    refine ⟨held, fun more code compiles => ?_, fun lines => ?_⟩
    · rw [stuck.fails more] at compiles
      contradiction
    · have noCommand : ¬Prompt.IsCommand "x = '<eof>\n" := by
        simp only [Prompt.IsCommand]
        decide +kernel
      have joined : String.join ([] ++ ["x = '<eof>\n"]) = "x = '<eof>\n" := rfl
      rw [Prompt.course_cons isIncomplete (by simp), if_neg fun quits => noCommand (.inl quits.2),
        if_neg fun asks => noCommand (.inr asks.2), if_pos (joined ▸ held)]
      refine Prompt.course_swallows ?_ (joined ▸ stuck.incomplete) lines
      simp
  · exact absurd quotes released.notQuoted

end Console

end LuaSession
