import LuaSession.Failure

/-!
# What a user is told about a failure

A user is told the wording of the innermost cause up to its first traceback. The
cut is made at the first mark of a traceback and then goes back over blank
characters, so nothing that is told holds a mark, and telling it again cuts
nothing more.
-/

namespace LuaSession

namespace Text

/-- What stands before the first occurrence of a mark, with the mark after it,
begins the text. -/
theorem prefix_of_before? {mark cs front : List Char} (found : before? mark cs = some front) :
    front ++ mark <+: cs := by
  induction cs generalizing front with
  | nil =>
      rw [before?] at found
      split at found
      next isEmpty =>
          cases found
          simpa using isEmpty
      next => cases found
  | cons c rest ih =>
      rw [before?] at found
      split at found
      next starts =>
          cases found
          exact List.isPrefixOf_iff_prefix.mp starts
      next =>
          obtain ⟨later, foundLater, rfl⟩ := Option.map_eq_some_iff.mp found
          exact List.cons_prefix_cons.mpr ⟨rfl, ih foundLater⟩

/-- Before the first occurrence of a mark there is no other one. -/
theorem before?_not_infix {mark cs front : List Char} (notEmpty : mark ≠ [])
    (found : before? mark cs = some front) : ¬mark <:+: front := by
  induction cs generalizing front with
  | nil =>
      rw [before?, if_neg (by simpa using notEmpty)] at found
      cases found
  | cons c rest ih =>
      rw [before?] at found
      split at found
      next =>
          cases found
          simpa using notEmpty
      next notHere =>
          obtain ⟨later, foundLater, rfl⟩ := Option.map_eq_some_iff.mp found
          have begins : c :: later <+: c :: rest :=
            List.cons_prefix_cons.mpr
              ⟨rfl, (List.prefix_append later mark).trans (prefix_of_before? foundLater)⟩
          intro occurs
          rcases List.infix_cons_iff.mp occurs with here | there
          · exact notHere (List.isPrefixOf_iff_prefix.mpr (here.trans begins))
          · exact ih foundLater there

/-- A mark is looked for in vain exactly where there is none. -/
theorem before?_eq_none_iff {mark cs : List Char} : before? mark cs = none ↔ ¬mark <:+: cs := by
  constructor
  · intro missing
    induction cs with
    | nil =>
        rw [before?] at missing
        split at missing
        next => cases missing
        next notEmpty => simpa using notEmpty
    | cons c rest ih =>
        rw [before?] at missing
        split at missing
        next => cases missing
        next notHere =>
            intro occurs
            rcases List.infix_cons_iff.mp occurs with here | there
            · exact notHere (List.isPrefixOf_iff_prefix.mpr here)
            · exact ih (Option.map_eq_none_iff.mp missing) there
  · intro absent
    cases found : before? mark cs with
    | none => rfl
    | some front =>
        have occurs : mark <:+: cs :=
          (List.suffix_append front mark).isInfix.trans (prefix_of_before? found).isInfix
        exact absurd occurs absent

/-- Blank characters are dropped from the end only. -/
theorem dropBlankEnd_prefix (cs : List Char) : dropBlankEnd cs <+: cs := by
  have dropped : cs.reverse.dropWhile isBlank <:+ cs.reverse := List.dropWhile_suffix _
  simpa [dropBlankEnd] using List.reverse_prefix.mpr dropped

end Text

namespace Failure

/-- What starts a traceback within a text: its mark at the beginning of a line. -/
def tracebackStart : List Char := '\n' :: tracebackMark.toList

theorem cutTraceback_prefix (text : String) : (cutTraceback text).toList <+: text.toList := by
  rw [cutTraceback]
  split
  next front found =>
      rw [String.toList_ofList]
      exact (Text.dropBlankEnd_prefix front).trans
        ((List.prefix_append front _).trans (Text.prefix_of_before? found))
  next => exact List.prefix_refl _

theorem tracebackStart_not_infix_cutTraceback (text : String) :
    ¬tracebackStart <:+: (cutTraceback text).toList := by
  rw [cutTraceback]
  split
  next front found =>
      rw [String.toList_ofList]
      intro occurs
      exact Text.before?_not_infix (List.cons_ne_nil _ _) found
        (occurs.trans (Text.dropBlankEnd_prefix front).isInfix)
  next missing => exact Text.before?_eq_none_iff.mp missing

/-- A text without a traceback stays whole. -/
theorem cutTraceback_eq_self {text : String} (absent : ¬tracebackStart <:+: text.toList) :
    cutTraceback text = text := by
  have missing := Text.before?_eq_none_iff.mpr absent
  rw [tracebackStart] at missing
  rw [cutTraceback, missing]

/-- The text that a user is told of a failure that is no callback, but for a
traceback in it: the bare message of a script's failure, and the full wording of
any other. -/
def told : Failure → String
  | .malformed text _ => text
  | .runtime text => text
  | .memory text => "out of memory: " ++ text
  | failure => failure.text

theorem root_ne_callback (failure cause : Failure) (traceback : String) :
    failure.root ≠ .callback traceback cause := by
  induction failure with
  | callback _ _ ih => exact ih
  | _ => exact Failure.noConfusion

/-- A failure is its root with callbacks around it. -/
theorem exists_eq_foldr_callback_root (failure : Failure) :
    ∃ tracebacks : List String, failure = tracebacks.foldr .callback failure.root := by
  induction failure with
  | callback traceback cause ih =>
      obtain ⟨tracebacks, same⟩ := ih
      exact ⟨traceback :: tracebacks, congrArg (Failure.callback traceback) same⟩
  | _ => exact ⟨[], rfl⟩

/-- Callbacks do not change the root, whatever their tracebacks. -/
theorem root_foldr_callback (tracebacks : List String) (failure : Failure) :
    (tracebacks.foldr .callback failure).root = failure.root := by
  induction tracebacks with
  | nil => rfl
  | cons traceback tracebacks ih => exact ih

/-- What is told about a failure is what its root says up to a traceback. -/
theorem describe_eq_cutTraceback (failure : Failure) :
    failure.describe = cutTraceback failure.root.told := by
  induction failure with
  | callback traceback cause ih => exact ih
  | _ => rfl

/-- What a user is told about a failure. It is about the innermost cause that is
no callback, and the same under any callbacks with any tracebacks; it begins the
cause's text and holds no start of a traceback; and as the text of a failure it
is told unchanged. -/
theorem describe_without_traceback (failure : Failure) :
    (∀ cause traceback, failure.root ≠ .callback traceback cause) ∧
    (∃ tracebacks : List String, failure = tracebacks.foldr .callback failure.root) ∧
    (∀ tracebacks : List String,
      (tracebacks.foldr .callback failure).describe = failure.root.describe) ∧
    ¬tracebackStart <:+: failure.describe.toList ∧
    failure.describe.toList <+: failure.root.told.toList ∧
    (runtime failure.describe).describe = failure.describe := by
  have absent : ¬tracebackStart <:+: failure.describe.toList := by
    rw [describe_eq_cutTraceback]
    exact tracebackStart_not_infix_cutTraceback _
  refine ⟨failure.root_ne_callback, failure.exists_eq_foldr_callback_root, ?_, absent, ?_, ?_⟩
  · intro tracebacks
    have rootOfRoot : failure.root.root = failure.root := by
      obtain ⟨layers, same⟩ := failure.exists_eq_foldr_callback_root
      rw [← root_foldr_callback layers failure.root, ← same]
    rw [describe_eq_cutTraceback, describe_eq_cutTraceback, root_foldr_callback, rootOfRoot]
  · rw [describe_eq_cutTraceback]
    exact cutTraceback_prefix _
  · exact cutTraceback_eq_self absent

end Failure

end LuaSession
