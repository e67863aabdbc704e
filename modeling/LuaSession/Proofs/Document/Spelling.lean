import LuaSession.Document.Reader
import Mathlib.Tactic.SplitIfs

/-!
# Spelled texts and numbers

A text can be written between quotes in many ways: most characters may stand for themselves,
some have a letter, and each can be given by its number. `Spells` has them all, and the
reader reads from each of them just the text. A number in decimal digits is read as that
number.
-/

namespace LuaSession.Document

/-! ## Digits -/

/-- The number that digits stand for which follow those of `value`. -/
def numeral? (base value : Nat) (digits : List Char) : Option Nat :=
  digits.foldlM (fun value c => (digitValue? base c).map (value * base + ·)) value

theorem numeral?_cons_eq_some {base value number : Nat} {c : Char} {digits : List Char} :
    numeral? base value (c :: digits) = some number ↔
      ∃ digit, digitValue? base c = some digit ∧
        numeral? base (value * base + digit) digits = some number := by
  cases found : digitValue? base c <;> simp [numeral?, found]

theorem digitValue?_digitChar {base digit : Nat} (small : digit < base) (known : base ≤ 16) :
    digitValue? base digit.digitChar = some digit := by
  have all : ∀ base ≤ 16, ∀ digit < base, digitValue? base digit.digitChar = some digit := by
    decide +kernel
  exact all base known digit small

/-- The digits of a number stand for it. -/
theorem numeral?_toDigits {base : Nat} (several : 1 < base) (known : base ≤ 16) (number : Nat) :
    numeral? base 0 (Nat.toDigits base number) = some number := by
  induction number using Nat.strongRecOn with
  | ind number ih =>
    rcases Nat.lt_or_ge number base with small | large
    · rw [Nat.toDigits_of_lt_base small, numeral?_cons_eq_some]
      exact ⟨number, digitValue?_digitChar small known, by simp [numeral?]⟩
    · have last := digitValue?_digitChar (Nat.mod_lt number (by omega)) known
      have others := ih (number / base) (Nat.div_lt_self (by omega) several)
      rw [numeral?] at others
      rw [Nat.toDigits_of_base_le several large, numeral?, List.foldlM_append, others]
      simp [last, Nat.mul_comm, Nat.div_add_mod]

/-- The bound on their number is all that keeps hexadecimal digits from being read. -/
theorem readCodePoint?_numeral {digits : List Char} {value number room : Nat}
    (stands : numeral? 16 value digits = some number) (fits : digits.length ≤ room)
    (rest : List Char) :
    readCodePoint? room value (digits ++ '\x7d' :: rest) = some (number, rest) := by
  induction digits generalizing value room with
  | nil => simp_all [numeral?, readCodePoint?]
  | cons c digits ih =>
      obtain ⟨digit, isDigit, stands⟩ := numeral?_cons_eq_some.mp stands
      obtain ⟨room, rfl⟩ := Nat.exists_eq_succ_of_ne_zero (n := room) (by rintro rfl; simp at fits)
      have notClosed : c ≠ '\x7d' := by
        rintro rfl
        cases isDigit
      rw [List.cons_append, readCodePoint?, isDigit]
      · exact ih stands (by simpa using fits)
      · simpa using notClosed

/-- Digits are read up to what is none. -/
theorem readDigits_numeral {base : Nat} {digits : List Char} {value number : Nat}
    (stands : numeral? base value digits = some number) {stop : Char} (noMark : stop ≠ '_')
    (ends : digitValue? base stop = none) (rest : List Char) :
    readDigits base value (digits ++ stop :: rest) = (number, stop :: rest) := by
  induction digits generalizing value with
  | nil => simp_all [numeral?, readDigits]
  | cons c digits ih =>
      obtain ⟨digit, isDigit, stands⟩ := numeral?_cons_eq_some.mp stands
      have noMark : c ≠ '_' := by
        rintro rfl
        revert isDigit
        simp [digitValue?]
      simpa [readDigits, noMark, isDigit] using ih stands

/-! ## Quoted texts -/

/-- How one character may be written between quotes. -/
inductive SpellsChar : List Char → Char → Prop where
  /-- As it is, unless it would end the text or may stand in no line. -/
  | itself {c : Char} : c ≠ '"' → c ≠ '\\' → isBreak c = false → isForbidden c = false →
      SpellsChar [c] c
  /-- By the letter that stands for it. -/
  | letter {letter c : Char} : plainEscape? letter = some c → SpellsChar ['\\', letter] c
  /-- By up to six hexadecimal digits of its number. -/
  | number {digits : List Char} {c : Char} : digits ≠ [] → digits.length ≤ 6 →
      numeral? 16 0 digits = some c.toNat →
      SpellsChar ('\\' :: 'u' :: '\x7b' :: digits ++ ['\x7d']) c

/-- How a text may be written between quotes. -/
inductive Spells : List Char → List Char → Prop where
  | nil : Spells [] []
  | cons {first rest text : List Char} {c : Char} : SpellsChar first c → Spells rest text →
      Spells (first ++ rest) (c :: text)

theorem character?_toNat (c : Char) : character? c.toNat = some c := by
  rw [character?, if_pos, Char.ofNat_toNat]
  exact c.valid

theorem unicodeEscape?_numeral {digits : List Char} {c : Char} (some : digits ≠ [])
    (few : digits.length ≤ 6) (stands : numeral? 16 0 digits = .some c.toNat)
    (rest : List Char) :
    unicodeEscape? (digits ++ '\x7d' :: rest) = .some (c, rest) := by
  have read := readCodePoint?_numeral stands few rest
  obtain ⟨first, digits, rfl⟩ := List.exists_cons_of_ne_nil some
  obtain ⟨digit, isDigit, -⟩ := numeral?_cons_eq_some.mp stands
  have notClosed : first ≠ '\x7d' := by
    rintro rfl
    cases isDigit
  rw [List.cons_append] at read ⊢
  rw [unicodeEscape?] <;> simp [notClosed, read, character?_toNat]

/-- A spelled character is read as that character. -/
theorem SpellsChar.read {written : List Char} {c : Char} (spells : SpellsChar written c)
    (fuel : Nat) (rest : List Char) :
    readQuoted? (fuel + 1) (written ++ rest) =
      (readQuoted? fuel rest).map fun (text, rest) => (c :: text, rest) := by
  cases spells with
  | itself notQuote notEscape noBreak allowed =>
      rw [List.singleton_append, readQuoted?] <;> simp_all
      cases readQuoted? fuel rest <;> rfl
  | @letter letter c stands =>
      have noNumber : letter ≠ 'u' := by
        rintro rfl
        cases stands
      rw [List.cons_append, List.singleton_append, readQuoted?] <;> simp_all
      cases readQuoted? fuel rest <;> rfl
  | number some few stands =>
      simp [readQuoted?, unicodeEscape?_numeral some few stands]
      cases readQuoted? fuel rest <;> rfl

/-- A spelled text is read as that text. -/
theorem Spells.read {written text : List Char} (spells : Spells written text)
    {fuel : Nat} (enough : written.length < fuel) (rest : List Char) :
    readQuoted? fuel (written ++ '"' :: rest) = some (text, rest) := by
  induction spells generalizing fuel with
  | nil =>
      obtain ⟨fuel, rfl⟩ := Nat.exists_eq_succ_of_ne_zero (n := fuel) (by omega)
      simp [readQuoted?]
  | @cons first written text c character others ih =>
      obtain ⟨fuel, rfl⟩ := Nat.exists_eq_succ_of_ne_zero (n := fuel) (by omega)
      have nonempty : 0 < first.length := by cases character <;> simp
      rw [List.length_append] at enough
      rw [List.append_assoc, character.read, ih (by omega)]
      rfl

/-- No spelling begins with a quote. -/
theorem Spells.head?_ne {written text : List Char} (spells : Spells written text) :
    written.head? ≠ some '"' := by
  cases spells with
  | nil => simp
  | cons character others => cases character <;> simp_all

/-- A spelled text between quotes is a string, unless a third quote follows two. -/
theorem readString?_quoted {written text rest : List Char} (spells : Spells written text)
    (noQuote : rest.head? ≠ some '"') :
    readString? ('"' :: written ++ '"' :: rest) = some (String.ofList text, rest) := by
  have body : readQuotedString? ('"' :: written ++ '"' :: rest) = some (text, rest) := by
    rw [List.cons_append, readQuotedString?]
    · exact spells.read (by rw [List.length_append]; omega) rest
    · intro more same
      cases written with
      | nil =>
          simp at same
          simp [same] at noQuote
      | cons first written =>
          rw [List.cons_append, List.cons.injEq] at same
          exact spells.head?_ne (by rw [same.1]; rfl)
  simp only [List.cons_append] at body ⊢
  simp [readString?, body]

/-! ## Escaping -/

/-- A control character: one before the blank, the one behind the last printable one of
ASCII, or one of the 32 after that. -/
def isControl (c : Char) : Bool := c.toNat < 0x20 || (0x7F ≤ c.toNat && c.toNat ≤ 0x9F)

/-- A character as it is, if it is neither a quote, a backslash, a control character nor one
that may stand in no line. -/
def escapedChar (c : Char) : List Char :=
  if c = '"' ∨ c = '\\' then ['\\', c]
  else if isControl c || isBreak c || isForbidden c then
    '\\' :: 'u' :: '\x7b' :: Nat.toDigits 16 c.toNat ++ ['\x7d']
  else [c]

/-- A text with all such characters escaped. -/
def escaped (text : List Char) : List Char := text.flatMap escapedChar

theorem spellsChar_escapedChar (c : Char) : SpellsChar (escapedChar c) c := by
  unfold escapedChar
  split_ifs with marked unseen
  · exact .letter (by rcases marked with rfl | rfl <;> rfl)
  · have small : c.toNat < 16 ^ 6 := by
      have valid : c.toNat.isValidChar := c.valid
      unfold Nat.isValidChar at valid
      omega
    exact .number Nat.toDigits_ne_nil
      ((Nat.length_toDigits_le_iff (by decide) (by decide)).mpr small)
      (numeral?_toDigits (by decide) (by decide) _)
  · simp only [Bool.or_eq_true, not_or, Bool.not_eq_true, not_or] at marked unseen
    exact .itself marked.1 marked.2 unseen.1.2 unseen.2

/-- Every text can be written between quotes. -/
theorem spells_escaped (text : List Char) : Spells (escaped text) text := by
  induction text with
  | nil => exact .nil
  | cons c text ih => exact .cons (spellsChar_escapedChar c) ih

end LuaSession.Document
