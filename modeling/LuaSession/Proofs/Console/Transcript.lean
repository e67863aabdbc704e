import Mathlib.Data.List.Infix
import LuaSession.Transcript
import LuaSession.Proofs.Console.Prompts

/-!
# The text of a transcript

What a transcript shows is what it is given, with a line break put in where a line is to
be ended that a text has left open. Whether there is such a line depends on one call only:
the last one that is not an empty write.
-/

namespace LuaSession.Transcript

/-- What a console does to its transcript. -/
inductive Call where
  | write (text : String)
  | endLine
  | prompt (text : String)
  deriving DecidableEq, Repr

/-- The transcript after one more call. -/
def perform (transcript : Transcript) : Call → Transcript
  | .write text => transcript.write text
  | .endLine => transcript.endLine
  | .prompt text => transcript.prompt text

/-- A new transcript after some calls. -/
def run (calls : List Call) : Transcript := calls.foldl perform {}

/-- A text that ends its last line. -/
def EndsLine (text : String) : Prop := ∃ line, text = line ++ "\n"

/-- Calls that leave a line open: the last text they write does not end its line, and no
call since has done anything. -/
def LeavesOpen (calls : List Call) : Prop :=
  ∃ earlier text later, calls = earlier ++ .write text :: later ∧
    text ≠ "" ∧ ¬ EndsLine text ∧ ∀ call ∈ later, call = .write ""

variable (before : List Call)

theorem run_append (after : List Call) : run (before ++ after) = after.foldl perform (run before) :=
  List.foldl_append

section LeavesOpen

/-- The last call decides, unless it is an empty write. -/
theorem leavesOpen_append (call : Call) :
    LeavesOpen (before ++ [call]) ↔
      (call = .write "" ∧ LeavesOpen before) ∨
        ∃ text, call = .write text ∧ text ≠ "" ∧ ¬ EndsLine text := by
  constructor
  · rintro ⟨earlier, text, later, split, notEmpty, unfinished, idle⟩
    rcases List.eq_nil_or_concat later with rfl | ⟨between, last, rfl⟩
    · obtain ⟨-, ends⟩ := List.append_inj' split rfl
      exact .inr ⟨text, List.singleton_inj.mp ends, notEmpty, unfinished⟩
    · have split' : before ++ [call] = (earlier ++ .write text :: between) ++ [last] := by
        simpa using split
      obtain ⟨rfl, ends⟩ := List.append_inj' split' rfl
      obtain rfl := List.singleton_inj.mp ends
      exact .inl ⟨idle call (by simp), earlier, text, between, rfl, notEmpty, unfinished,
        fun other member => idle other (by simp [member])⟩
  · rintro (⟨rfl, earlier, text, later, rfl, notEmpty, unfinished, idle⟩ |
      ⟨text, rfl, notEmpty, unfinished⟩)
    · refine ⟨earlier, text, later ++ [.write ""], by simp, notEmpty, unfinished, ?_⟩
      simpa [or_imp, forall_and] using idle
    · exact ⟨before, text, [], by simp, notEmpty, unfinished, by simp⟩

theorem not_leavesOpen_nil : ¬ LeavesOpen [] := by
  simp [LeavesOpen]

theorem endsWith_iff_endsLine {text : String} : text.endsWith "\n" = true ↔ EndsLine text := by
  rw [← String.endsWith_toSlice, String.Slice.endsWith_string_iff, String.copy_toSlice]
  constructor
  · rintro ⟨line, ends⟩
    exact ⟨String.ofList line, String.toList_injective (by simp [← ends])⟩
  · rintro ⟨line, rfl⟩
    exact ⟨line.toList, by simp⟩

/-- A transcript remembers whether its calls leave a line open. -/
theorem lineOpen_run_iff (calls : List Call) :
    (run calls).lineOpen = true ↔ LeavesOpen calls := by
  induction calls using List.reverseRecOn with
  | nil => exact iff_of_false Bool.false_ne_true not_leavesOpen_nil
  | append_singleton before call ih =>
      rw [run_append, leavesOpen_append, List.foldl_cons, List.foldl_nil]
      cases call with
      | write text =>
          by_cases empty : text = ""
          · simp [perform, write, empty, ih]
          · simp [perform, write, empty, ← endsWith_iff_endsLine]
      | endLine => simp [perform, lineOpen_endLine]
      | prompt text => simp [perform, prompt, emit, lineOpen_endLine]

instance (calls : List Call) : Decidable (LeavesOpen calls) :=
  decidable_of_iff _ (lineOpen_run_iff calls)

end LeavesOpen

/-- What a call adds to the text: what it is given, behind a line break if it ends a line
that the calls before it have left open. -/
def added (before : List Call) : Call → String
  | .write text => text
  | .endLine => if LeavesOpen before then "\n" else ""
  | .prompt text => (if LeavesOpen before then "\n" else "") ++ text

/-- What calls add one after the other, behind other calls. -/
def additions (before : List Call) : List Call → List String
  | [] => []
  | call :: rest => added before call :: additions (before ++ [call]) rest

section Text

variable (transcript : Transcript)

theorem text_emit (piece : String) : (transcript.emit piece).text = transcript.text ++ piece := by
  simp [emit, text]

theorem text_write (given : String) : (transcript.write given).text = transcript.text ++ given := by
  unfold write
  split
  next empty => simp [String.isEmpty_iff.mp empty]
  · exact transcript.text_emit given

theorem text_endLine_run :
    (run before).endLine.text = (run before).text ++ if LeavesOpen before then "\n" else "" := by
  have remembered := lineOpen_run_iff before
  by_cases isOpen : LeavesOpen before <;> simp [endLine, text, emit, remembered, isOpen]

/-- One more call adds to the text and changes none of it. -/
theorem text_run_append (call : Call) :
    (run (before ++ [call])).text = (run before).text ++ added before call := by
  rw [run_append, List.foldl_cons, List.foldl_nil]
  cases call with
  | write given => exact text_write _ given
  | endLine => exact text_endLine_run before
  | prompt given => rw [perform, prompt, text_emit, text_endLine_run, String.append_assoc, added]

theorem text_run_append_additions (after : List Call) :
    (run (before ++ after)).text = (run before).text ++ String.join (additions before after) := by
  induction after generalizing before with
  | nil => simp [additions]
  | cons call rest ih =>
      rw [← List.singleton_append, ← List.append_assoc, ih, text_run_append]
      simp [additions, String.append_assoc]

end Text

section Prompts

/-- A place where a prompt can stand: the very start, the start of a line, or the end of
another prompt. -/
def FreshAfter (calls : List Call) (shown : String) : Prop :=
  shown = "" ∨ EndsLine shown ∨
    ∃ earlier other later, calls = earlier ++ .prompt other :: later ∧
      shown = (run (earlier ++ [.prompt other])).text

variable {before}

theorem FreshAfter.append {shown : String} (fresh : FreshAfter before shown) (call : Call) :
    FreshAfter (before ++ [call]) shown := by
  obtain nothing | ended | ⟨earlier, other, later, rfl, upTo⟩ := fresh
  · exact .inl nothing
  · exact .inr (.inl ended)
  · exact .inr (.inr ⟨earlier, other, later ++ [call], by simp, upTo⟩)

theorem EndsLine.freshAfter {given : String} (ended : EndsLine given) (shown : String) :
    FreshAfter before (shown ++ given) := by
  obtain ⟨line, rfl⟩ := ended
  exact .inr (.inl ⟨shown ++ line, (String.append_assoc ..).symm⟩)

theorem endsLine_break : EndsLine "\n" := ⟨"", rfl⟩

/-- Where no line is open, a prompt can stand. -/
theorem freshAfter_run (closed : ¬ LeavesOpen before) : FreshAfter before (run before).text := by
  induction before using List.reverseRecOn with
  | nil => exact .inl rfl
  | append_singleton before call ih =>
      rw [leavesOpen_append] at closed
      push Not at closed
      rw [text_run_append]
      cases call with
      | write given =>
          by_cases empty : given = ""
          · subst empty
            simpa [added] using (ih (closed.1 rfl)).append (.write "")
          · exact (closed.2 given rfl empty).freshAfter _
      | endLine =>
          by_cases isOpen : LeavesOpen before
          · simpa [added, isOpen] using endsLine_break.freshAfter (run before).text
          · simpa [added, isOpen] using (ih isOpen).append .endLine
      | prompt given =>
          exact .inr (.inr ⟨before, given, [], rfl, (text_run_append before _).symm⟩)

/-- Once the line is ended, a prompt can stand. -/
theorem freshAfter_endLine (before : List Call) :
    FreshAfter before (run (before ++ [.endLine])).text := by
  rw [text_run_append]
  by_cases isOpen : LeavesOpen before
  · simpa [added, isOpen] using endsLine_break.freshAfter (run before).text
  · simpa [added, isOpen] using freshAfter_run isOpen

end Prompts

/-- The second of two calls that end the line adds nothing. -/
theorem text_run_endLine_twice :
    (run (before ++ [.endLine, .endLine])).text =
      (run before).text ++ if LeavesOpen before then "\n" else "" := by
  have closed : ¬ LeavesOpen (before ++ [.endLine]) := by simp [leavesOpen_append]
  rw [← List.singleton_append, ← List.append_assoc, text_run_append, text_run_append]
  simp [added, closed]

/-- The shape of a transcript. What its calls add is shown in their order and nothing else
is; a prompt stands at the very start, at the start of a line or right behind another
prompt; and ending a line twice in a row ends at most one. -/
theorem run_shape :
    (∀ calls, (run calls).text = String.join (additions [] calls)) ∧
    (∀ before given after, ∃ shown rest,
      (run (before ++ .prompt given :: after)).text = shown ++ given ++ rest ∧
        (run (before ++ [.prompt given])).text = shown ++ given ∧ FreshAfter before shown) ∧
    ∀ before, (run (before ++ [.endLine, .endLine])).text = (run before).text ∨
      (run (before ++ [.endLine, .endLine])).text = (run before).text ++ "\n" := by
  refine ⟨fun calls => text_run_append_additions [] calls, fun before given after => ?_,
    fun before => ?_⟩
  · have upTo : (run (before ++ [.prompt given])).text =
        (run (before ++ [.endLine])).text ++ given := by
      simp only [text_run_append, added, String.append_assoc]
    refine ⟨_, String.join (additions (before ++ [.prompt given]) after), ?_, upTo,
      freshAfter_endLine before⟩
    rw [← upTo, ← text_run_append_additions, List.append_assoc, List.singleton_append]
  · rw [text_run_endLine_twice]
    by_cases isOpen : LeavesOpen before <;> simp [isOpen]

end LuaSession.Transcript
