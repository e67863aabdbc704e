import Mathlib.Data.List.Infix
import LuaSession.Proofs.Failure.Description

/-!
# Tracebacks do not show

What a user is told ends at the first traceback of a text. So it does not depend on
what any traceback says, as long as each begins as those of the host's functions do:
where callbacks are nested, a sign is put into a traceback, but only behind its
beginning.

A message that quotes a traceback of its own is cut there already. Of any other, the
traceback that is appended to it is all that is cut.
-/

namespace LuaSession

namespace Text

variable {mark cs front : List Char}

/-- What stands before the first occurrence of a mark does not depend on what comes
behind it. -/
theorem before?_append (found : before? mark cs = some front) (more : List Char) :
    before? mark (cs ++ more) = some front := by
  induction cs generalizing front with
  | nil =>
      rw [before?] at found
      split at found
      next isEmpty =>
          cases found
          obtain rfl := List.isEmpty_iff.mp isEmpty
          cases more <;> rfl
      next => cases found
  | cons c rest ih =>
      rw [before?] at found
      rw [List.cons_append, before?]
      split at found
      next starts =>
          cases found
          have begins := (List.isPrefixOf_iff_prefix.mp starts).trans (List.prefix_append _ more)
          exact if_pos (List.isPrefixOf_iff_prefix.mpr begins)
      next notHere =>
          obtain ⟨later, foundLater, rfl⟩ := Option.map_eq_some_iff.mp found
          have inside : mark.length ≤ (c :: rest).length :=
            Nat.le_trans (List.suffix_append later mark).length_le
              (Nat.le_succ_of_le (prefix_of_before? foundLater).length_le)
          have notBefore : ¬mark.isPrefixOf (c :: (rest ++ more)) = true := by
            intro starts
            refine notHere (List.isPrefixOf_iff_prefix.mpr ?_)
            exact List.prefix_of_prefix_length_le (List.isPrefixOf_iff_prefix.mp starts)
              (List.prefix_append (c :: rest) more) inside
          rw [if_neg notBefore, ih foundLater]
          rfl

/-- A mark that has its first character only once does not overlap itself: behind a
text that does not hold it, it occurs first. -/
theorem before?_append_mark {c : Char} {rest : List Char} (once : c ∉ rest)
    (absent : ¬c :: rest <:+: cs) (more : List Char) :
    before? (c :: rest) (cs ++ c :: rest ++ more) = some cs := by
  apply before?_append
  induction cs with
  | nil => simp [before?]
  | cons d cs ih =>
      have notHere : ¬(c :: rest).isPrefixOf (d :: cs ++ c :: rest) = true := by
        intro starts
        obtain ⟨behind, split⟩ := List.isPrefixOf_iff_prefix.mp starts
        rcases List.append_eq_append_iff.mp split with ⟨part, whole, _⟩ | ⟨part, whole, again⟩
        · exact absent (whole ▸ (List.prefix_append _ part).isInfix)
        · cases part with
          | nil =>
              rw [List.append_nil] at whole
              exact absent (whole ▸ List.infix_rfl)
          | cons e part =>
              obtain ⟨rfl, _⟩ := List.cons_eq_cons.mp again
              obtain ⟨_, later⟩ := List.cons_eq_cons.mp whole
              exact once (later ▸ by simp)
      have absentLater : ¬c :: rest <:+: cs := fun occurs => absent (List.infix_cons occurs)
      rw [List.cons_append] at notHere ⊢
      rw [before?, if_neg notHere, ih absentLater]
      rfl

/-- Blank characters are dropped up to the last one that is not. -/
theorem dropBlankEnd_append {c : Char} (notBlank : isBlank c = false) (front rest : List Char) :
    dropBlankEnd (front ++ c :: rest) = front ++ c :: dropBlankEnd rest := by
  rw [dropBlankEnd, dropBlankEnd, List.reverse_append, List.reverse_cons, List.dropWhile_append,
    List.dropWhile_append]
  cases dropped : rest.reverse.dropWhile isBlank with
  | nil => simp [notBlank]
  | cons d later => simp

end Text

namespace Failure

/-! ## Messages that quote a traceback -/

/-- Blanks at its end apart, a text keeps the starts of tracebacks in it. -/
theorem tracebackStart_infix_trimEnd {text : String} (occurs : tracebackStart <:+: text.toList) :
    tracebackStart <:+: (Text.trimEnd text).toList := by
  obtain ⟨front, rest, split⟩ := occurs
  have ending : tracebackStart = "\nstack traceback".toList ++ [':'] := by decide
  have trimmed : Text.dropBlankEnd text.toList =
      front ++ tracebackStart ++ Text.dropBlankEnd rest := by
    rw [← split, ending, ← List.append_assoc, List.append_assoc _ [':'], List.singleton_append,
      Text.dropBlankEnd_append (by decide)]
    simp
  rw [Text.trimEnd, String.toList_ofList, trimmed]
  exact ⟨front, _, rfl⟩

/-- Where a text is cut to which a traceback is appended: at that one, unless there is
another one before it. -/
theorem cutTraceback_append (text traceback : String) :
    cutTraceback (text ++ "\n" ++ tracebackMark ++ traceback) =
      if tracebackStart <:+: text.toList then cutTraceback text else Text.trimEnd text := by
  have whole : (text ++ "\n" ++ tracebackMark ++ traceback).toList =
      text.toList ++ '\n' :: tracebackMark.toList ++ traceback.toList := by
    simp
  by_cases occurs : tracebackStart <:+: text.toList
  · obtain ⟨front, found⟩ : ∃ front, Text.before? tracebackStart text.toList = some front :=
      Option.ne_none_iff_exists'.mp fun missing => Text.before?_eq_none_iff.mp missing occurs
    have foundFirst := Text.before?_append found (tracebackStart ++ traceback.toList)
    rw [← List.append_assoc] at foundFirst
    rw [tracebackStart] at found foundFirst
    rw [if_pos occurs, cutTraceback, cutTraceback, whole, foundFirst, found]
  · have foundFirst := Text.before?_append_mark (by decide) occurs traceback.toList
    rw [if_neg occurs, cutTraceback, whole, foundFirst, Text.trimEnd]

/-- What is told of a message to which a traceback is appended. A message without a
traceback of its own is told whole, but for blanks at its end. One that quotes a
traceback is cut there, as it is without the appended one, and so never told whole. -/
theorem describe_appended (message traceback : String) :
    (runtime (message ++ "\n" ++ tracebackMark ++ traceback)).describe =
        (if tracebackStart <:+: message.toList then (runtime message).describe
          else Text.trimEnd message) ∧
      ((runtime (message ++ "\n" ++ tracebackMark ++ traceback)).describe =
          Text.trimEnd message ↔ ¬tracebackStart <:+: message.toList) := by
  have told := cutTraceback_append message traceback
  refine ⟨told, fun isWhole occurs => ?_, fun absent => told.trans (if_neg absent)⟩
  have cut : cutTraceback message = Text.trimEnd message :=
    (told.trans (if_pos occurs)).symm.trans isWhole
  exact tracebackStart_not_infix_cutTraceback message (cut ▸ tracebackStart_infix_trimEnd occurs)

/-- Of a message that goes on after a traceback that it quotes, only the first line is
told. -/
theorem describe_quoted_traceback :
    (runtime ("first\nstack traceback:\n\t[C]: in ?\nsecond" ++ "\n" ++ tracebackMark ++
        "\n\t[C]: in ?")).describe = "first" ∧
      Text.trimEnd "first\nstack traceback:\n\t[C]: in ?\nsecond" =
        "first\nstack traceback:\n\t[C]: in ?\nsecond" := by
  decide

/-! ## Tracebacks of nested callbacks -/

/-- How the traceback of a host function begins: its first line is for the function
itself, which is not written in a script. -/
def hostLine : List Char := tracebackMark.toList ++ ['\n', '\t']

/-- A traceback as calls of the host's functions have it. -/
def IsHostTraceback (traceback : String) : Prop :=
  hostLine ++ "[C]".toList <+: traceback.toList

instance : DecidablePred IsHostTraceback := fun _ => inferInstanceAs (Decidable (_ <+: _))

theorem dropMarks_of_not_prefix {cs : List Char} (absent : ¬tracebackMark.toList <+: cs)
    (fuel : Nat) : dropMarks fuel cs = cs := by
  cases fuel with
  | zero => rfl
  | succ fuel => exact if_neg fun starts => absent (List.isPrefixOf_iff_prefix.mp starts)

/-- Without its mark, the traceback of a host function begins with a bracket. -/
theorem exists_trim_dropMarks {outer : String} (isHost : IsHostTraceback outer) :
    ∃ rest, (Text.trim (String.ofList (dropMarks outer.length outer.toList))).toList =
      '[' :: rest := by
  obtain ⟨rest, split⟩ := isHost
  obtain ⟨fuel, length⟩ : ∃ fuel, outer.length = fuel + 1 := by
    refine Nat.exists_eq_succ_of_ne_zero ?_
    rw [← String.length_toList, ← split]
    simp [hostLine]
  have split : outer.toList = tracebackMark.toList ++ ("\n\t[C]".toList ++ rest) := by
    rw [← split]
    simp [hostLine]
  have dropped : dropMarks (fuel + 1) outer.toList = "\n\t[C]".toList ++ rest := by
    rw [dropMarks, split, if_pos (List.isPrefixOf_iff_prefix.mpr (List.prefix_append _ _)), List.drop_left]
    refine dropMarks_of_not_prefix (fun starts => ?_) fuel
    have heads : 's' = '\n' := (List.cons_prefix_cons.mp starts).1
    exact absurd heads (by decide)
  rw [length, dropped, Text.trim, String.toList_ofList, String.toList_ofList]
  have blanks : ("\n\t[C]".toList ++ rest).dropWhile Text.isBlank =
      [] ++ '[' :: ("C]".toList ++ rest) := by
    simp [Text.isBlank]
  rw [blanks, Text.dropBlankEnd_append (by decide)]
  exact ⟨_, rfl⟩

/-- The traceback that is shown for a callback begins as those of host functions do,
also where a sign is put into it. -/
theorem exists_shownTraceback {outer : String} {inner : Option String}
    (isHost : IsHostTraceback outer) (innerIsHost : ∀ traceback ∈ inner, IsHostTraceback traceback) :
    ∃ rest, shownTraceback outer inner = tracebackMark ++ rest := by
  -- A text that begins with the mark is the mark and something behind it.
  suffices begins : tracebackMark.toList <+: (shownTraceback outer inner).toList by
    obtain ⟨rest, split⟩ := begins
    refine ⟨String.ofList rest, String.toList_inj.mp ?_⟩
    rw [String.toList_append, String.toList_ofList, split]
  have begins_trimEnd {traceback : String} (isHost : IsHostTraceback traceback) :
      tracebackMark.toList <+: (Text.trimEnd traceback).toList := by
    obtain ⟨rest, split⟩ := isHost
    have ending : hostLine ++ "[C]".toList ++ rest = hostLine ++ "[C".toList ++ ']' :: rest := by
      simp
    rw [Text.trimEnd, String.toList_ofList, ← split, ending, Text.dropBlankEnd_append (by decide),
      hostLine]
    simp only [List.append_assoc]
    exact List.prefix_append _ _
  cases inner with
  | none => exact begins_trimEnd isHost
  | some inner =>
      have innerIsHost : IsHostTraceback inner := innerIsHost inner rfl
      obtain ⟨bracket, goesOn⟩ := exists_trim_dropMarks isHost
      unfold shownTraceback
      dsimp only
      rw [goesOn]
      split
      next front found =>
        -- The bracket is not among the first characters, so the sign is behind the mark.
        have bracketAt : front ++ ['['] <+: inner.toList := by
          refine List.IsPrefix.trans ?_ (Text.prefix_of_before? found)
          exact (List.prefix_append_right_inj front).mpr ⟨bracket, rfl⟩
        have line : hostLine <+: inner.toList := (List.prefix_append _ _).trans innerIsHost
        have lineInFront : hostLine <+: front := by
          rcases List.prefix_or_prefix_of_prefix line bracketAt with inside | outside
          · rcases List.prefix_concat_iff.mp inside with whole | inside
            · exact absurd (whole ▸ by simp : '[' ∈ hostLine) (by decide)
            · exact inside
          · exact absurd (outside.subset (by simp) : '[' ∈ hostLine) (by decide)
        rw [String.toList_ofList, List.append_assoc]
        exact ((List.prefix_append _ _).trans lineInFront).trans (List.prefix_append _ _)
      next => exact begins_trimEnd innerIsHost

/-- Two texts say the same up to the first traceback in them. -/
inductive AlikeToTraceback : String → String → Prop where
  | same (shared : String) : AlikeToTraceback shared shared
  | parting (front one other : String) :
      AlikeToTraceback (front ++ "\n" ++ tracebackMark ++ one)
        (front ++ "\n" ++ tracebackMark ++ other)

namespace AlikeToTraceback

variable {one other : String}

theorem cutTraceback_eq (alike : AlikeToTraceback one other) :
    cutTraceback one = cutTraceback other := by
  cases alike with
  | same => rfl
  | parting front one other => rw [cutTraceback_append, cutTraceback_append]

theorem append_left (front : String) (alike : AlikeToTraceback one other) :
    AlikeToTraceback (front ++ one) (front ++ other) := by
  cases alike with
  | same => exact .same _
  | parting shared one other =>
      simp only [← String.append_assoc]
      exact .parting (front ++ shared) one other

/-- Texts that are alike stay so when each has another traceback put behind it. -/
theorem append_traceback (alike : AlikeToTraceback one other) (rest more : String) :
    AlikeToTraceback (one ++ "\n" ++ (tracebackMark ++ rest) ++ "\n")
      (other ++ "\n" ++ (tracebackMark ++ more) ++ "\n") := by
  cases alike with
  | same =>
      have regroup (later : String) : one ++ "\n" ++ (tracebackMark ++ later) ++ "\n" =
          one ++ "\n" ++ tracebackMark ++ (later ++ "\n") := by
        simp only [String.append_assoc]
      rw [regroup, regroup]
      exact .parting one _ _
  | parting front one other =>
      have regroup (text later : String) :
          front ++ "\n" ++ tracebackMark ++ text ++ "\n" ++ (tracebackMark ++ later) ++ "\n" =
            front ++ "\n" ++ tracebackMark ++
              (text ++ "\n" ++ (tracebackMark ++ later) ++ "\n") := by
        simp only [String.append_assoc]
      rw [regroup, regroup]
      exact .parting front _ _

end AlikeToTraceback

theorem wording_callback (traceback : String) (cause : Failure) :
    wording false (.callback traceback cause) =
      wording true cause ++ "\n" ++ shownTraceback traceback cause.innermostTraceback? ++ "\n" := by
  rw [wording.eq_def]
  dsimp only
  exact if_neg Bool.false_ne_true

/-- Two failures that differ in the tracebacks of callbacks only, all of which are those
of host functions. The root is the same and no callback. -/
inductive Retraced : Failure → Failure → Prop where
  | root {failure : Failure}
      (notCallback : ∀ traceback cause, failure ≠ .callback traceback cause) :
      Retraced failure failure
  | callback {before after : String} {cause other : Failure} (isHost : IsHostTraceback before)
      (isHostAfter : IsHostTraceback after) (retraced : Retraced cause other) :
      Retraced (.callback before cause) (.callback after other)
  | context (text : String) {cause other : Failure} (retraced : Retraced cause other) :
      Retraced (.context text cause) (.context text other)
  | badArgument (function : Option String) (position : Nat) (name : Option String)
      {cause other : Failure} (retraced : Retraced cause other) :
      Retraced (.badArgument function position name cause)
        (.badArgument function position name other)

namespace Retraced

variable {failure other : Failure}

theorem symm (retraced : Retraced failure other) : Retraced other failure := by
  induction retraced with
  | root notCallback => exact .root notCallback
  | callback isHost isHostAfter _ ih => exact .callback isHostAfter isHost ih
  | context text _ ih => exact .context text ih
  | badArgument function position name _ ih => exact .badArgument function position name ih

theorem isHostTraceback_innermost (retraced : Retraced failure other) :
    ∀ traceback ∈ failure.innermostTraceback?, IsHostTraceback traceback := by
  induction retraced with
  | @root failure notCallback =>
      cases failure with
      | callback traceback cause => exact absurd rfl (notCallback traceback cause)
      | _ => nofun
  | @callback before _ cause _ isHost _ _ ih =>
      intro traceback isInnermost
      obtain rfl : (cause.innermostTraceback?).getD before = traceback :=
        Option.some.inj isInnermost
      cases found : cause.innermostTraceback? with
      | none => exact isHost
      | some inner => exact ih inner found
  | context => nofun
  | badArgument => nofun

theorem wording_alike (retraced : Retraced failure other) (bare : Bool) :
    AlikeToTraceback (failure.wording bare) (other.wording bare) := by
  induction retraced generalizing bare with
  | root notCallback => exact .same _
  | callback isHost isHostAfter retraced ih =>
      cases bare with
      | true => exact ih true
      | false =>
          obtain ⟨rest, shown⟩ := exists_shownTraceback isHost retraced.isHostTraceback_innermost
          obtain ⟨more, shownAfter⟩ :=
            exists_shownTraceback isHostAfter retraced.symm.isHostTraceback_innermost
          rw [wording_callback, wording_callback, shown, shownAfter]
          exact (ih true).append_traceback rest more
  | context text _ ih => exact (ih false).append_left _
  | badArgument function position name _ ih => exact (ih false).append_left _

end Retraced

/-- What a user is told does not depend on what the tracebacks of callbacks say, at
whatever depth of whatever layers the callbacks are. -/
theorem describe_retraced {failure other : Failure} (retraced : Retraced failure other) :
    failure.describe = other.describe := by
  induction retraced with
  | root _ => rfl
  | callback _ _ _ ih => exact ih
  | context text retraced _ => exact ((retraced.context text).wording_alike false).cutTraceback_eq
  | badArgument function position name retraced _ =>
      exact ((retraced.badArgument function position name).wording_alike false).cutTraceback_eq

/-- A failure of a host function that another one has called, as it reaches a third one
in an argument: the outer traceback goes on within the inner one. -/
theorem describe_retraced_nested :
    let nested (outer inner : String) : Failure :=
      .context "while saving" (.badArgument (some "save") 1 none
        (.callback outer (.callback inner (.runtime "disk full"))))
    let one := nested "stack traceback:\n\t[C]: in function 'save'"
      "stack traceback:\n\t[C]: in function 'flush'\n\t[C]: in function 'save'"
    let other := nested "stack traceback:\n\t[C]: in ?" "stack traceback:\n\t[C]"
    Retraced one other ∧ one.describe = other.describe ∧ one.text ≠ other.text ∧
      other.describe = "while saving\nbad argument #1 to `save`: runtime error: disk full" := by
  intro nested one other
  have retraced : Retraced one other :=
    .context _ (.badArgument _ _ _ (.callback (by decide) (by decide)
      (.callback (by decide) (by decide) (.root nofun))))
  exact ⟨retraced, describe_retraced retraced, by decide +kernel, by decide +kernel⟩

end Failure

end LuaSession
