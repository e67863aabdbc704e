import Mathlib.Data.Nat.Digits.Defs
import LuaSession.Proofs.Failure.Traceback
import LuaSession.Proofs.Syntax.Naming

/-!
# Where a failure is said to be

A message that is about a line of a script begins with the name that is shown of the
script and with the number of the line. Neither reading it as text nor cutting its
traceback takes that away, as long as the name has no traceback in it.
-/

namespace LuaSession

/-- A text begins with a name and the number of a line. -/
def Failure.NamesLine (name : String) (line : Nat) (text : String) : Prop :=
  (name ++ s!":{line}:").toList <+: text.toList

namespace Failure

/-- The number of a line between its signs. -/
theorem toList_line (line : Nat) :
    s!":{line}:".toList = ':' :: (Nat.toDigits 10 line ++ [':']) := by
  simp [toString]

theorem not_mem_line {c : Char} (notSign : c ≠ ':') (notDigit : c.isDigit = false) (line : Nat) :
    c ∉ s!":{line}:".toList := by
  rw [toList_line]
  intro member
  have digit : c ∈ Nat.toDigits 10 line := by simpa [notSign] using member
  exact absurd (Nat.isDigit_of_mem_toDigits (by decide) (by decide) digit) (by simp [notDigit])

/-- The name and the line are read from the bytes that they begin. -/
theorem namesLine_lossy (chunk : Bytes) (line : Nat) (rest : Bytes) :
    NamesLine (Utf8.lossy chunk) line (Utf8.lossy (chunk ++ s!":{line}:".toUTF8 ++ rest)) := by
  have bytes : (chunk ++ s!":{line}:".toUTF8 ++ rest).toList =
      chunk.toList ++ (Utf8.encode s!":{line}:".toList ++ rest.toList) := by
    rw [toList_append, toList_append, Utf8.toList_toUTF8, List.append_assoc]
  have split : Utf8.chars .start (chunk.toList ++ (Utf8.encode s!":{line}:".toList ++ rest.toList)) =
      Utf8.chars .start chunk.toList ++ (s!":{line}:".toList ++ Utf8.chars .start rest.toList) := by
    rw [← Utf8.chars_encode_append, toList_line]
    exact Utf8.chars_append_small (by exact trivial) _ (by decide) _
  rw [NamesLine, Utf8.lossy, Utf8.lossy, String.toList_append, String.toList_ofList,
    String.toList_ofList, bytes, split, ← List.append_assoc]
  exact List.prefix_append _ _

/-- What messages put in front of what is wrong on a line. -/
theorem toUTF8_place (line : Nat) :
    s!":{line}: ".toUTF8 = s!":{line}:".toUTF8 ++ " ".toUTF8 := by
  have ending : ": " = ":" ++ " " := rfl
  simp only [toString, ending, String.toUTF8_eq_toByteArray, String.toByteArray_append,
    ByteArray.append_assoc]

/-- A message that is about a line names it. -/
theorem namesLine_located (chunk : Bytes) (line : Nat) (what more : Bytes) :
    NamesLine (Utf8.lossy chunk) line (Utf8.lossy (Syntax.located chunk line what ++ more)) := by
  rw [Syntax.located, toUTF8_place, ← ByteArray.append_assoc, ByteArray.append_assoc,
    ByteArray.append_assoc]
  exact namesLine_lossy _ _ _

/-- Where what is wrong ends at a zero byte, the message still begins with its place. -/
theorem beforeZero_located {chunk : Bytes} (noZero : (0 : UInt8) ∉ chunk.toList) (line : Nat)
    (what : Bytes) :
    Syntax.beforeZero (Syntax.located chunk line what) =
      Syntax.located chunk line (Syntax.beforeZero what) := by
  have place : (0 : UInt8) ∉ s!":{line}: ".toUTF8.toList := by
    have blank : (0 : UInt8) ∉ " ".toUTF8.toList := by decide +kernel
    have number : (0 : UInt8) ∉ s!":{line}:".toUTF8.toList := by
      rw [Utf8.toList_toUTF8, Syntax.zero_mem_encode_iff]
      exact not_mem_line (by decide) (by decide) line
    rw [toUTF8_place, toList_append]
    exact List.not_mem_append number blank
  rw [Syntax.located, Syntax.beforeZero_append, Syntax.located]
  rw [toList_append]
  exact List.not_mem_append noZero place

/-- What starts a traceback ends with the sign that stands before the line's number. -/
theorem exists_tracebackStart_eq : ∃ most, tracebackStart = most ++ [':'] ∧ ':' ∉ most :=
  ⟨"\nstack traceback".toList, by decide, by decide⟩

/-- A traceback that starts behind a name starts behind the line's number, too, as no
line breaks are in that. -/
theorem prefix_of_starts_behind {name front text : List Char} {line : Nat}
    (begins : name ++ s!":{line}:".toList <+: text) (starts : front ++ tracebackStart <+: text)
    (behind : name <+: front) : name ++ s!":{line}:".toList <+: front := by
  obtain ⟨part, rfl⟩ := behind
  have first : name ++ part ++ ['\n'] <+: text :=
    ((List.prefix_append_right_inj _).mpr (List.prefix_append ['\n'] _)).trans starts
  rcases List.prefix_or_prefix_of_prefix begins ((List.prefix_append _ _).trans first) with
    isPrefix | inside
  · exact isPrefix
  · obtain ⟨more, split⟩ := (List.prefix_append_right_inj name).mp inside
    cases more with
    | nil => rw [← split, List.append_nil]
    | cons c more =>
        rw [← split, ← List.append_assoc] at begins
        have lineBreak : ['\n'] <+: c :: more := by
          refine (List.prefix_append_right_inj (name ++ part)).mp ?_
          exact List.prefix_of_prefix_length_le first begins (by simp)
        obtain ⟨rfl, _⟩ := List.cons_prefix_cons.mp lineBreak
        have inside : '\n' ∈ s!":{line}:".toList := split ▸ by simp
        exact absurd inside (not_mem_line (by decide) (by decide) line)

/-- No traceback begins within the line's number, nor within the name if none does there. -/
theorem prefix_of_before?_tracebackStart {name : List Char} {line : Nat} {text front : List Char}
    (unmarked : ¬tracebackStart <:+: name ++ [':']) (begins : name ++ s!":{line}:".toList <+: text)
    (found : Text.before? tracebackStart text = some front) :
    name ++ s!":{line}:".toList <+: front := by
  have starts := Text.prefix_of_before? found
  have named : name ++ [':'] <+: text := by
    refine List.IsPrefix.trans ?_ begins
    rw [toList_line]
    exact (List.prefix_append_right_inj _).mpr (List.prefix_append [':'] _)
  rcases List.prefix_or_prefix_of_prefix ((List.prefix_append _ _).trans named)
    ((List.prefix_append _ _).trans starts) with behind | ⟨part, rfl⟩
  · exact prefix_of_starts_behind begins starts behind
  · obtain ⟨most, ending, once⟩ := exists_tracebackStart_eq
    exfalso
    rcases List.prefix_or_prefix_of_prefix starts named with whole | ⟨rest, split⟩
    · exact unmarked ((List.suffix_append _ _).isInfix.trans whole.isInfix)
    · rw [ending, List.append_assoc, List.append_assoc] at split
      have inside := List.append_cancel_left split
      rcases List.eq_nil_or_concat rest with rfl | ⟨rest, last, rfl⟩
      · refine unmarked ?_
        rw [ending, ← inside, List.append_nil, List.append_assoc]
        exact (List.suffix_append _ _).isInfix
      · have whole : part ++ [':'] ++ rest ++ [last] = most ++ [':'] := by
          simpa only [List.append_assoc, List.concat_eq_append] using inside
        have isMost : part ++ [':'] ++ rest = most := (List.append_inj' whole rfl).1
        exact once (isMost ▸ by simp)

/-- A name without a traceback, and the line behind it, are not cut. -/
theorem NamesLine.cutTraceback {name text : String} {line : Nat}
    (unmarked : ¬tracebackStart <:+: (name ++ ":").toList) (names : NamesLine name line text) :
    NamesLine name line (cutTraceback text) := by
  rw [Failure.cutTraceback]
  rw [String.toList_append] at unmarked
  split
  next front found =>
    rw [NamesLine, String.toList_append, String.toList_ofList]
    obtain ⟨rest, rfl⟩ := prefix_of_before?_tracebackStart unmarked
      (by simpa only [NamesLine, String.toList_append] using names) found
    rw [toList_line, ← List.cons_append, ← List.append_assoc, List.append_assoc _ [':'],
      List.singleton_append, Text.dropBlankEnd_append (by decide)]
    exact (List.prefix_append_right_inj _).mpr (List.prefix_append [':'] _)
  next => exact names

end Failure

end LuaSession
