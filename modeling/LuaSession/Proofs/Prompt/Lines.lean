import LuaSession.Proofs.Text.Encoding
import LuaSession.Prompt

/-!
# Lines of an input

Input is split at the bytes of line breaks. When the input is the encoding of a
text, each line is the encoding of a line of the text: nothing is lost, every
line but the last ends in a line break, and no line goes on past one.
-/

namespace LuaSession.Prompt

/-- A text is split into lines: they spell it, each holds something, has a line
break nowhere but at its end, and has one there unless it is the last. -/
structure LinesOf (text : String) (lines : List String) : Prop where
  spells : String.join lines = text
  nonempty : ∀ line ∈ lines, line ≠ ""
  unbroken : ∀ line ∈ lines, '\n' ∉ line.toList.dropLast
  ended : ∀ line ∈ lines.dropLast, line.toList.getLast? = some '\n'

/-- The lines of characters, after the characters of an open line. -/
def splitBreaks : (opened : List Char) → List Char → List (List Char)
  | [], [] => []
  | opened, [] => [opened]
  | opened, c :: rest =>
      if c = '\n' then (opened ++ [c]) :: splitBreaks [] rest
      else splitBreaks (opened ++ [c]) rest

/-- Bytes that are no line break belong to the open line. -/
theorem splitLines_append_of_unbroken (bytes rest current : List UInt8)
    (unbroken : (0x0A : UInt8) ∉ bytes) :
    splitLines current (bytes ++ rest) = splitLines (bytes.reverse ++ current) rest := by
  induction bytes generalizing current with
  | nil => rfl
  | cons byte bytes ih =>
      have notBreak : byte ≠ 0x0A := by
        intro same
        exact unbroken (by simp [same])
      have others : (0x0A : UInt8) ∉ bytes := fun member => unbroken (by simp [member])
      rw [List.cons_append, splitLines.eq_3, if_neg (by simpa using notBreak), ih _ others]
      simp

theorem encode_ne_nil {cs : List Char} (notEmpty : cs ≠ []) : Utf8.encode cs ≠ [] := by
  cases cs with
  | nil => exact absurd rfl notEmpty
  | cons c rest =>
      rw [Utf8.encode_cons]
      exact List.append_ne_nil_of_left_ne_nil String.utf8EncodeChar_ne_nil _

/-- Splitting the bytes of characters gives the bytes of the lines. -/
theorem splitLines_encode (cs opened : List Char) :
    splitLines (Utf8.encode opened).reverse (Utf8.encode cs) =
      (splitBreaks opened cs).map fun line => (Utf8.encode line).toByteArray := by
  induction cs generalizing opened with
  | nil =>
      cases opened with
      | nil => rfl
      | cons c opened =>
          have notEmpty : (Utf8.encode (c :: opened)).reverse ≠ [] := by
            rw [List.reverse_ne_nil_iff]
            exact encode_ne_nil (List.cons_ne_nil c opened)
          rw [Utf8.encode_nil, splitLines.eq_2 _ notEmpty, List.reverse_reverse]
          rfl
  | cons c rest ih =>
      by_cases isBreak : c = '\n'
      · subst isBreak
        rw [Utf8.encode_cons, Utf8.encode_lineBreak, List.singleton_append, splitLines.eq_3,
          if_pos (by decide), splitBreaks, if_pos rfl, List.map_cons, ← ih []]
        simp
      · rw [Utf8.encode_cons, splitLines_append_of_unbroken _ _ _
          (Utf8.lineBreak_not_mem_encode isBreak), splitBreaks, if_neg isBreak, ← ih]
        simp

/-- The lines of characters spell them. -/
theorem flatten_splitBreaks (cs opened : List Char) :
    (splitBreaks opened cs).flatten = opened ++ cs := by
  induction cs generalizing opened with
  | nil => cases opened <;> simp [splitBreaks]
  | cons c rest ih =>
      rw [splitBreaks]
      split
      · rw [List.flatten_cons, ih, List.nil_append, List.append_assoc, List.singleton_append]
      · rw [ih, List.append_assoc, List.singleton_append]

/-- What holds of each line of characters, when the open line has no break. -/
theorem splitBreaks_spec (cs opened : List Char) (unbroken : '\n' ∉ opened) :
    (∀ line ∈ splitBreaks opened cs, line ≠ [] ∧ '\n' ∉ line.dropLast) ∧
      ∀ line ∈ (splitBreaks opened cs).dropLast, line.getLast? = some '\n' := by
  induction cs generalizing opened with
  | nil =>
      cases opened with
      | nil => simp [splitBreaks]
      | cons c opened =>
          have front : '\n' ∉ (c :: opened).dropLast :=
            fun member => unbroken (List.dropLast_subset _ member)
          simpa [splitBreaks] using front
  | cons c rest ih =>
      rw [splitBreaks]
      split
      next isBreak =>
          obtain ⟨holding, ending⟩ := ih [] (by simp)
          refine ⟨?_, ?_⟩
          · intro line member
            rcases List.mem_cons.mp member with rfl | member
            · simpa using unbroken
            · exact holding line member
          · intro line member
            cases later : splitBreaks [] rest with
            | nil => simp [later] at member
            | cons next others =>
                rw [later, List.dropLast_cons_of_ne_nil (by simp)] at member
                rcases List.mem_cons.mp member with rfl | member
                · simp [isBreak]
                · exact ending line (by rw [later]; exact member)
      next notBreak =>
          apply ih
          intro member
          rcases List.mem_append.mp member with member | member
          · exact unbroken member
          · exact notBreak (List.mem_singleton.mp member).symm

/-- The input that encodes a text is read as the lines of the text. -/
theorem lines_toUTF8 (text : String) :
    ∃ lines, LinesOf text lines ∧ Prompt.lines text.toUTF8 = lines.map .ok := by
  refine ⟨(splitBreaks [] text.toList).map String.ofList, ?_, ?_⟩
  · obtain ⟨holding, ending⟩ := splitBreaks_spec text.toList [] (by simp)
    constructor
    · rw [← String.toList_inj, String.toList_join, List.flatMap_map]
      simp [List.flatMap_id', flatten_splitBreaks]
    · simp only [List.mem_map, forall_exists_index, and_imp, forall_apply_eq_imp_iff₂]
      intro line member isEmpty
      exact (holding line member).1 (by simpa using isEmpty)
    · simp only [List.mem_map, forall_exists_index, and_imp, forall_apply_eq_imp_iff₂,
        String.toList_ofList]
      exact fun line member => (holding line member).2
    · simp only [← List.map_dropLast, List.mem_map, forall_exists_index, and_imp,
        forall_apply_eq_imp_iff₂, String.toList_ofList]
      exact ending
  · have split := splitLines_encode text.toList []
    rw [Prompt.lines, Utf8.toList_toUTF8]
    simp only [Utf8.encode_nil, List.reverse_nil] at split
    rw [split, List.map_map, List.map_map]
    apply List.map_congr_left
    intro line member
    simp [readLine, Utf8.decode?_encode]

/-! ## Only one way to split -/

/-- Characters that are no line break belong to the open line. -/
theorem splitBreaks_append_of_unbroken (cs rest opened : List Char) (unbroken : '\n' ∉ cs) :
    splitBreaks opened (cs ++ rest) = splitBreaks (opened ++ cs) rest := by
  induction cs generalizing opened with
  | nil => simp
  | cons c cs ih =>
      have notBreak : c ≠ '\n' := fun same => unbroken (by simp [same])
      have others : '\n' ∉ cs := fun member => unbroken (List.mem_cons_of_mem c member)
      rw [List.cons_append, splitBreaks, if_neg notBreak, ih _ others, List.append_assoc]
      rfl

/-- Lines that a text is split into stay so without the first. -/
theorem LinesOf.tail {text line : String} {rest : List String}
    (linesOf : LinesOf text (line :: rest)) : LinesOf (String.join rest) rest := by
  refine ⟨rfl, fun other member => linesOf.nonempty other (List.mem_cons_of_mem line member),
    fun other member => linesOf.unbroken other (List.mem_cons_of_mem line member), ?_⟩
  intro other member
  cases rest with
  | nil => simp at member
  | cons next others =>
      refine linesOf.ended other ?_
      rw [List.dropLast_cons_of_ne_nil (List.cons_ne_nil next others)]
      exact List.mem_cons_of_mem line member

/-- A text is split into lines in one way only. -/
theorem LinesOf.eq_splitBreaks {text : String} {lines : List String}
    (linesOf : LinesOf text lines) :
    lines = (splitBreaks [] text.toList).map String.ofList := by
  induction lines generalizing text with
  | nil =>
      obtain rfl : "" = text := linesOf.spells
      rfl
  | cons line rest ih =>
      have spelled : text.toList = line.toList ++ (String.join rest).toList := by
        rw [← linesOf.spells, String.join_cons, String.toList_append]
      have notEmpty : line.toList ≠ [] := by
        simpa using linesOf.nonempty line List.mem_cons_self
      have unbroken := linesOf.unbroken line List.mem_cons_self
      have split := List.dropLast_concat_getLast notEmpty
      rw [spelled, ← split, List.append_assoc, splitBreaks_append_of_unbroken _ _ _ unbroken,
        List.singleton_append, List.nil_append, splitBreaks]
      by_cases isBreak : line.toList.getLast notEmpty = '\n'
      · rw [if_pos isBreak, split, List.map_cons, String.ofList_toList, ← ih linesOf.tail]
      · have isLast : rest = [] := by
          cases rest with
          | nil => rfl
          | cons next others =>
              have ended := linesOf.ended line (by simp)
              rw [List.getLast?_eq_some_getLast notEmpty] at ended
              exact absurd (Option.some.inj ended) isBreak
        subst isLast
        rw [if_neg isBreak, split, String.join_nil, String.toList_empty, splitBreaks]
        · simp
        · exact notEmpty

/-- The input that encodes a text is read as the lines that the text is split into. -/
theorem LinesOf.read {text : String} {lines : List String} (linesOf : LinesOf text lines) :
    Prompt.lines text.toUTF8 = lines.map .ok := by
  obtain ⟨others, otherLinesOf, read⟩ := lines_toUTF8 text
  rw [read, otherLinesOf.eq_splitBreaks, ← linesOf.eq_splitBreaks]

end LuaSession.Prompt
