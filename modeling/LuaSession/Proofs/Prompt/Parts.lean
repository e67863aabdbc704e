import LuaSession.Proofs.Prompt.Lines
import Mathlib.Tactic.ByContra

/-!
# Inputs in parts

An input can be read in parts when it is parted where a line ends: the lines of the
whole are those of the parts. So an input that is no text has a first line that is
none, and what comes before that line is the text of whole lines.
-/

namespace LuaSession.Prompt

/-! ## Parting an input -/

/-- A text is whole if its last line is over, if it has one. -/
def IsWhole (text : String) : Prop := text = "" ∨ text.toList.getLast? = some '\n'

instance : DecidablePred IsWhole := fun _ => inferInstanceAs (Decidable (_ ∨ _))

/-- Bytes are whole if the last line is over, if they have one. -/
def BytesWhole (bytes : List UInt8) : Prop := bytes = [] ∨ bytes.getLast? = some 0x0A

/-- Whole bytes, with those of an open line before them, are split into lines without
regard to what follows. -/
theorem splitLines_append (front back : List UInt8) :
    ∀ current : List UInt8, BytesWhole front → (front = [] → current = []) →
      splitLines current (front ++ back) = splitLines current front ++ splitLines [] back := by
  induction front with
  | nil =>
      intro current _ closed
      rw [closed rfl]
      rfl
  | cons byte front ih =>
      intro current whole _
      have ends : (byte :: front).getLast? = some 0x0A :=
        whole.resolve_left (List.cons_ne_nil byte front)
      have later : BytesWhole front := by
        cases front with
        | nil => exact .inl rfl
        | cons next others => exact .inr (by rwa [List.getLast?_cons_cons] at ends)
      rw [List.cons_append, splitLines.eq_3, splitLines.eq_3]
      split
      next => rw [ih [] later fun _ => rfl, List.cons_append]
      next notBreak =>
        refine ih _ later ?_
        rintro rfl
        exact absurd (Option.some.inj ends) (by simpa using notBreak)

/-- The lines of an input that is parted where a line ends are those of the parts. -/
theorem lines_append {front : Bytes} (whole : BytesWhole front.toList) (back : Bytes) :
    lines (front ++ back) = lines front ++ lines back := by
  rw [lines, toList_append, splitLines_append _ _ [] whole fun _ => rfl, List.map_append]
  rfl

/-- A whole text has whole bytes. -/
theorem IsWhole.bytes {text : String} (whole : IsWhole text) : BytesWhole text.toUTF8.toList := by
  rw [Utf8.toList_toUTF8]
  rcases whole with rfl | ends
  · exact .inl rfl
  · obtain ⟨front, spelled⟩ := List.getLast?_eq_some_iff.mp ends
    refine .inr ?_
    rw [spelled, Utf8.encode_append]
    simp

/-! ## The first line that is no text -/

/-- An input breaks off: after whole lines of text it has a line that is no text, and
more only if that line is over. -/
structure BreaksOff (input : Bytes) (lines : List String) (line rest : Bytes) : Prop where
  spells : input = (String.join lines).toUTF8 ++ line ++ rest
  linesOf : LinesOf (String.join lines) lines
  whole : IsWhole (String.join lines)
  noText : Utf8.decode? line = none
  unbroken : 0x0A ∉ line.toList.dropLast
  ended : rest.toList ≠ [] → line.toList.getLast? = some 0x0A

/-- Bytes without a line break but at their end are one line. -/
theorem splitLines_line {bytes : List UInt8} (notEmpty : bytes ≠ [])
    (unbroken : 0x0A ∉ bytes.dropLast) : splitLines [] bytes = [bytes.toByteArray] := by
  have ends := List.dropLast_concat_getLast notEmpty
  have split : splitLines [] (bytes.dropLast ++ [bytes.getLast notEmpty]) =
      [(bytes.dropLast ++ [bytes.getLast notEmpty]).toByteArray] := by
    rw [splitLines_append_of_unbroken _ _ _ unbroken, splitLines.eq_3]
    split
    · simp [splitLines]
    · simp [splitLines.eq_2]
  rwa [ends] at split

/-- Bytes begin with a line. -/
theorem exists_line {bytes : List UInt8} (notEmpty : bytes ≠ []) :
    ∃ line rest, bytes = line ++ rest ∧ line ≠ [] ∧ 0x0A ∉ line.dropLast ∧
      (rest ≠ [] → line.getLast? = some 0x0A) := by
  induction bytes with
  | nil => exact absurd rfl notEmpty
  | cons byte bytes ih =>
      by_cases isBreak : byte = 0x0A
      · exact ⟨[byte], bytes, rfl, by simp, by simp, by simp [isBreak]⟩
      · cases bytes with
        | nil => exact ⟨[byte], [], rfl, by simp, by simp, by simp⟩
        | cons next others =>
            obtain ⟨line, rest, spells, lineNonempty, unbroken, ended⟩ :=
              ih (List.cons_ne_nil next others)
            refine ⟨byte :: line, rest, by rw [spells]; rfl, List.cons_ne_nil byte line, ?_, ?_⟩
            · rw [List.dropLast_cons_of_ne_nil lineNonempty]
              simpa [Ne.symm isBreak] using unbroken
            · intro more
              rw [List.getLast?_cons, ended more]
              rfl

/-- A line of bytes that is text is a line of characters. -/
theorem linesOf_line {line : String} (notEmpty : line.toUTF8.toList ≠ [])
    (unbroken : 0x0A ∉ line.toUTF8.toList.dropLast) : LinesOf line [line] := by
  obtain ⟨lines, linesOf, read⟩ := lines_toUTF8 line
  rw [Prompt.lines, splitLines_line notEmpty unbroken] at read
  obtain ⟨other, rfl⟩ : ∃ other, lines = [other] :=
    List.length_eq_one_iff.mp (by simpa using (congrArg List.length read).symm)
  obtain rfl : other = line := by simpa using linesOf.spells
  exact linesOf

/-- A text ends in a line break if its bytes do. -/
theorem ends_of_bytes {text : String} (ends : text.toUTF8.toList.getLast? = some 0x0A) :
    text.toList.getLast? = some '\n' := by
  rw [Utf8.toList_toUTF8] at ends
  cases last : text.toList.getLast? with
  | none =>
      rw [List.getLast?_eq_none_iff] at last
      simp [last] at ends
  | some c =>
      obtain ⟨front, spelled⟩ := List.getLast?_eq_some_iff.mp last
      by_contra notBreak
      rw [spelled, Utf8.encode_append, Utf8.encode_cons, Utf8.encode_nil, List.append_nil,
        List.getLast?_append, List.getLast?_eq_some_getLast String.utf8EncodeChar_ne_nil,
        Option.some_or, ← List.getLast?_eq_some_getLast] at ends
      exact Utf8.lineBreak_not_mem_encode (by simpa using notBreak) (List.mem_of_getLast? ends)

/-- A line of text before lines that a text is split into. -/
theorem LinesOf.cons {line : String} {rest : List String} (first : LinesOf line [line])
    (ends : line.toList.getLast? = some '\n') (linesOf : LinesOf (String.join rest) rest) :
    LinesOf (String.join (line :: rest)) (line :: rest) := by
  refine ⟨rfl, ?_, ?_, ?_⟩
  · intro other member
    rcases List.mem_cons.mp member with rfl | member
    · exact first.nonempty other List.mem_cons_self
    · exact linesOf.nonempty other member
  · intro other member
    rcases List.mem_cons.mp member with rfl | member
    · exact first.unbroken other List.mem_cons_self
    · exact linesOf.unbroken other member
  · intro other member
    cases rest with
    | nil => simp at member
    | cons next others =>
        rw [List.dropLast_cons_of_ne_nil (List.cons_ne_nil next others)] at member
        rcases List.mem_cons.mp member with rfl | member
        · exact ends
        · exact linesOf.ended other member

/-- A whole text stays so behind a line that is over. -/
theorem IsWhole.cons {line : String} {rest : List String} (whole : IsWhole (String.join rest))
    (ends : line.toList.getLast? = some '\n') : IsWhole (String.join (line :: rest)) := by
  refine .inr ?_
  rw [String.join_cons, String.toList_append]
  rcases whole with isEmpty | restEnds
  · rw [isEmpty, String.toList_empty, List.append_nil]
    exact ends
  · rw [List.getLast?_append, restEnds]
    rfl

/-- Bytes that are no text break off. -/
theorem exists_breaksOff_bytes (bytes : List UInt8)
    (noText : Utf8.decode? bytes.toByteArray = none) :
    ∃ lines line rest, BreaksOff bytes.toByteArray lines line rest := by
  have notEmpty : bytes ≠ [] := by
    rintro rfl
    exact absurd noText (by decide)
  obtain ⟨first, others, spells, firstNonempty, unbroken, ended⟩ := exists_line notEmpty
  rw [spells, List.toByteArray_append] at noText ⊢
  cases read : Utf8.decode? first.toByteArray with
  | none =>
      refine ⟨[], first.toByteArray, others.toByteArray, ?_, ⟨rfl, by simp, by simp, by simp⟩,
        .inl rfl, read, by simpa using unbroken, by simpa using ended⟩
      rw [String.join_nil, String.toUTF8]
      simp
  | some text =>
      have spelled : first.toByteArray = text.toUTF8 := Utf8.eq_toUTF8_of_decode? read
      have same : first = text.toUTF8.toList := by simpa using congrArg ByteArray.toList spelled
      have othersNoText : Utf8.decode? others.toByteArray = none := by
        by_contra isText
        obtain ⟨later, readLater⟩ := Option.ne_none_iff_exists'.mp isText
        rw [spelled, Utf8.eq_toUTF8_of_decode? readLater,
          show text.toUTF8 ++ later.toUTF8 = (text ++ later).toUTF8 from
            String.toByteArray_append.symm, Utf8.decode?_toUTF8] at noText
        contradiction
      have more : others ≠ [] := by
        rintro rfl
        exact absurd othersNoText (by decide)
      have ends : text.toList.getLast? = some '\n' := ends_of_bytes (same ▸ ended more)
      have shorter : others.length < bytes.length := by
        rw [spells, List.length_append]
        exact Nat.lt_add_of_pos_left (List.length_pos_iff.mpr firstNonempty)
      obtain ⟨lines, line, rest, breaks⟩ := exists_breaksOff_bytes others othersNoText
      refine ⟨text :: lines, line, rest, ?_,
        (linesOf_line (same ▸ firstNonempty) (same ▸ unbroken)).cons ends breaks.linesOf,
        breaks.whole.cons ends, breaks.noText, breaks.unbroken, breaks.ended⟩
      rw [spelled, breaks.spells, String.join_cons,
        show (text ++ String.join lines).toUTF8 = text.toUTF8 ++ (String.join lines).toUTF8 from
          String.toByteArray_append, ByteArray.append_assoc, ByteArray.append_assoc,
        ByteArray.append_assoc]
termination_by bytes.length

/-- An input that is no text breaks off. -/
theorem exists_breaksOff {input : Bytes} (noText : Utf8.decode? input = none) :
    ∃ lines line rest, BreaksOff input lines line rest := by
  have breaks := exists_breaksOff_bytes input.toList
  rw [toByteArray_toList] at breaks
  exact breaks noText

/-- An input that breaks off is read as its whole lines, a failure and what comes behind. -/
theorem BreaksOff.read {input line rest : Bytes} {lines : List String}
    (breaks : BreaksOff input lines line rest) :
    Prompt.lines input = lines.map .ok ++ .error .notText :: Prompt.lines rest := by
  have lineNonempty : line.toList ≠ [] := by
    intro isEmpty
    have noText := breaks.noText
    rw [← toByteArray_toList line, isEmpty] at noText
    exact absurd noText (by decide)
  have lineRead : Prompt.lines line = [.error .notText] := by
    rw [Prompt.lines, splitLines_line lineNonempty breaks.unbroken, toByteArray_toList,
      List.map_singleton, readLine, breaks.noText]
  have behind : Prompt.lines (line ++ rest) = .error .notText :: Prompt.lines rest := by
    by_cases more : rest.toList = []
    · obtain rfl : rest = ByteArray.empty := by rw [← toByteArray_toList rest, more]; rfl
      rw [ByteArray.append_empty, lineRead]
      simp [Prompt.lines, splitLines]
    · rw [lines_append (.inr (breaks.ended more)), lineRead]
      rfl
  rw [breaks.spells, ByteArray.append_assoc, lines_append breaks.whole.bytes, breaks.linesOf.read,
    behind]

end LuaSession.Prompt
