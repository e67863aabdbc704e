import LuaSession.Proofs.Document.Spelling

/-!
# Nodes on lines

What the reader makes of a node that stands on a line of its own with one argument, and of
one whose block holds such lines.
-/

namespace LuaSession.Document

/-! ## Space -/

/-- Nothing that may stand between two parts of a document begins with this character. -/
structure IsSolid (c : Char) : Prop where
  noSpace : isSpace c = false
  noBreak : isBreak c = false
  noSlash : c ≠ '/'
  noBackslash : c ≠ '\\'

theorem dropLines?_solid {blanks : List Char} (blank : ∀ c ∈ blanks, isSpace c || isBreak c)
    {next : Char} (solid : IsSolid next) {fuel : Nat} (enough : blanks.length < fuel)
    (rest : List Char) :
    dropLines? fuel (blanks ++ next :: rest) = some (next :: rest) := by
  induction blanks generalizing fuel with
  | nil =>
      obtain ⟨fuel, rfl⟩ := Nat.exists_eq_succ_of_ne_zero (n := fuel) (by rintro rfl; simp at enough)
      rw [List.nil_append, dropLines?] <;> simp [solid.noSpace, solid.noBreak, solid.noSlash]
  | cons c blanks ih =>
      obtain ⟨fuel, rfl⟩ := Nat.exists_eq_succ_of_ne_zero (n := fuel) (by rintro rfl; simp at enough)
      have isBlank : isSpace c || isBreak c := blank c (by simp)
      have noSlash : c ≠ '/' := by
        rintro rfl
        cases isBlank
      rw [List.cons_append, dropLines?, if_pos isBlank]
      · exact ih (fun c member => blank c (by simp [member])) (by simpa using enough)
      · exact fun _ same => absurd same noSlash
      · exact fun _ same => absurd same noSlash

theorem dropBlanks?_solid {next : Char} (noSpace : isSpace next = false) (noSlash : next ≠ '/')
    (fuel : Nat) (rest : List Char) :
    dropBlanks? (fuel + 1) (next :: rest) = some (next :: rest) := by
  rw [dropBlanks?] <;> simp [noSpace, noSlash]

@[simp] theorem dropNodeSpace?_break (fuel : Nat) (rest : List Char) :
    dropNodeSpace? (fuel + 1) ('\n' :: rest) = some ('\n' :: rest) := by
  have blanks : dropBlanks? (rest.length + 1) ('\n' :: rest) = some ('\n' :: rest) :=
    dropBlanks?_solid rfl (by decide) _ _
  simp [dropNodeSpace?, blanks]

theorem dropNodeSpace?_space {next : Char} (solid : IsSolid next) (fuel : Nat)
    (rest : List Char) :
    dropNodeSpace? (fuel + 1) (' ' :: next :: rest) = some (next :: rest) := by
  have blanks : dropBlanks? (rest.length + 2) (' ' :: next :: rest) = some (next :: rest) := by
    rw [dropBlanks?]
    · exact dropBlanks?_solid solid.noSpace solid.noSlash _ _
    · simp
  simp [dropNodeSpace?, blanks, solid.noBackslash]

/-! ## Words -/

/-- A word that may name a node. -/
structure IsName (word : List Char) : Prop where
  letters : ∀ c ∈ word, isWord c = true
  bare : isBareWord word = true

theorem isWord_iff {c : Char} :
    isWord c = true ↔ isSpace c = false ∧ isBreak c = false ∧ isForbidden c = false ∧
      isPunctuation c = false := by
  simp [isWord, and_assoc]

theorem isSolid_of_isWord {c : Char} (letter : isWord c = true) : IsSolid c := by
  obtain ⟨noSpace, noBreak, -, noPunctuation⟩ := isWord_iff.mp letter
  refine ⟨noSpace, noBreak, ?_, ?_⟩ <;> rintro rfl <;> cases noPunctuation

theorem readBareWord?_eq {word : List Char} (letters : ∀ c ∈ word, isWord c = true)
    {stop : Char} (ends : isWord stop = false) (rest : List Char) :
    readBareWord? (word ++ stop :: rest) =
      if isBareWord word then some (word, stop :: rest) else none := by
  have taken : (word ++ stop :: rest).takeWhile isWord = word := by
    rw [List.takeWhile_append_of_pos letters, List.takeWhile_cons_of_neg (by simp [ends]),
      List.append_nil]
  have dropped : (word ++ stop :: rest).dropWhile isWord = stop :: rest := by
    rw [List.dropWhile_append_of_pos letters, List.dropWhile_cons_of_neg (by simp [ends])]
  rw [readBareWord?, taken, dropped]

theorem readString?_word {first : Char} {word : List Char}
    (letters : ∀ c ∈ first :: word, isWord c = true) {stop : Char} (ends : isWord stop = false)
    (rest : List Char) :
    readString? (first :: word ++ stop :: rest) =
      if isBareWord (first :: word) then some (String.ofList (first :: word), stop :: rest)
      else none := by
  obtain ⟨-, -, -, noPunctuation⟩ := isWord_iff.mp (letters first (by simp))
  have noQuote : first ≠ '"' := by
    rintro rfl
    cases noPunctuation
  have noMark : first ≠ '#' := by
    rintro rfl
    cases noPunctuation
  have bare := readBareWord?_eq letters ends rest
  rw [List.cons_append] at bare ⊢
  by_cases isBare : isBareWord (first :: word) <;>
    simp [readString?, noQuote, noMark, bare, isBare]

/-! ## Arguments -/

/-- How a value is written that is an argument when the line ends after it. -/
structure IsArgument (written : List Char) (value : Scalar) : Prop where
  starts : ∃ first rest, written = first :: rest ∧ (first = '"' ∨ isWord first)
  read (rest : List Char) : readItem? (written ++ '\n' :: rest) = some (⟨none, value⟩, '\n' :: rest)

/-- A spelling between quotes. -/
def quoted (spelled : List Char) : List Char := '"' :: spelled ++ ['"']

theorem isArgument_quoted {spelled text : List Char} (spells : Spells spelled text) :
    IsArgument (quoted spelled) (.string (String.ofList text)) := by
  refine ⟨⟨'"', _, rfl, .inl rfl⟩, fun rest => ?_⟩
  have string : readString? ('"' :: spelled ++ '"' :: '\n' :: rest) = _ :=
    readString?_quoted spells (by simp)
  simp only [quoted, List.cons_append, List.append_assoc, List.nil_append] at string ⊢
  simp [readItem?, readProperty?, readValue?, readAnnotation?, readScalar?, startsNumber, isSign,
    string]

/-- The marks that a base other than ten has behind a zero. -/
def baseMarks : List Char := ['x', 'X', 'o', 'O', 'b', 'B']

theorem isWord_of_isDigit {c : Char} (digit : c.isDigit) :
    isWord c = true ∧ isSign c = false ∧ c ≠ '.' ∧ c ∉ baseMarks := by
  have all : ∀ value ≤ 9, let c := Char.ofNat (48 + value)
      isWord c = true ∧ isSign c = false ∧ c ≠ '.' ∧ c ∉ baseMarks := by
    decide +kernel
  have range : 48 ≤ c.toNat ∧ c.toNat ≤ 57 := by
    simpa [Char.isDigit, UInt32.le_iff_toNat_le] using digit
  have same : Char.ofNat (48 + (c.toNat - 48)) = c := by
    rw [Nat.add_sub_cancel' range.1, Char.ofNat_toNat]
  exact same ▸ all (c.toNat - 48) (by omega)

/-- A run of decimal digits is a number without a fraction when the line ends after it. -/
theorem readMagnitude?_digits {first : Char} {digits : List Char}
    (isDigit : ∀ c ∈ first :: digits, c.isDigit) {number : Nat}
    (stands : numeral? 10 0 (first :: digits) = some number) (small : number < integerLimit)
    (written rest : List Char) :
    readMagnitude? written false (first :: digits ++ '\n' :: rest) =
      some (.integer number, '\n' :: rest) := by
  obtain ⟨digit, isValue, stands⟩ := numeral?_cons_eq_some.mp stands
  have run : readRun? 10 (first :: digits ++ '\n' :: rest) = some (number, '\n' :: rest) := by
    have more : readDigits 10 _ (digits ++ '\n' :: rest) = _ :=
      readDigits_numeral stands (by decide) (by decide) rest
    simpa [readRun?, isValue] using more
  have unmarked : ∀ mark ∈ baseMarks, ∀ more, digits ++ '\n' :: rest ≠ mark :: more := by
    intro mark isMark more same
    cases digits with
    | nil =>
        obtain ⟨rfl, -⟩ := List.cons.inj same
        exact absurd isMark (by decide)
    | cons second digits =>
        obtain ⟨rfl, -⟩ := List.cons.inj same
        exact (isWord_of_isDigit (isDigit second (by simp))).2.2.2 isMark
  rw [List.cons_append] at run ⊢
  rw [readMagnitude?]
  · simp [run, readFraction?, readExponent?, integer?, small]
  all_goals
    intro more same
    exact unmarked _ (by decide) more (List.cons.inj same).2

/-- Digits are no word, so they are read as a number. -/
theorem isArgument_digits {number : Nat} (small : number < integerLimit) :
    IsArgument (Nat.toDigits 10 number) (.integer number) := by
  have isDigit : ∀ c ∈ Nat.toDigits 10 number, c.isDigit := fun c member =>
    Nat.isDigit_of_mem_toDigits (by decide) (by decide) member
  have stands : numeral? 10 0 (Nat.toDigits 10 number) = some number :=
    numeral?_toDigits (by decide) (by decide) number
  obtain ⟨first, digits, same⟩ :=
    List.exists_cons_of_ne_nil (Nat.toDigits_ne_nil (n := number) (b := 10))
  rw [same] at isDigit stands ⊢
  have firstIsDigit := isDigit first (by simp)
  obtain ⟨firstIsWord, noSign, noPoint, -⟩ := isWord_of_isDigit firstIsDigit
  refine ⟨⟨first, digits, rfl, .inr firstIsWord⟩, fun rest => ?_⟩
  have noWord : readString? (first :: digits ++ '\n' :: rest) = none := by
    rw [readString?_word (fun c member => (isWord_of_isDigit (isDigit c member)).1) (by decide)]
    simp [isBareWord, noSign, noPoint, firstIsDigit]
  have number : readNumber? (first :: digits ++ '\n' :: rest) =
      some (.integer number, '\n' :: rest) := by
    have magnitude := readMagnitude?_digits isDigit stands small
      (first :: digits ++ '\n' :: rest) rest
    rw [List.cons_append] at magnitude ⊢
    rw [readNumber?]
    · exact magnitude
    all_goals
      intro more same
      rw [(List.cons.inj same).1] at noSign
      cases noSign
  have noAnnotation : first ≠ '(' := by
    rintro rfl
    cases firstIsDigit
  rw [List.cons_append] at noWord number ⊢
  simp [readItem?, readProperty?, noWord, readValue?, readAnnotation?, noAnnotation, readScalar?,
    startsNumber, noSign, firstIsDigit, number]

/-! ## Nodes -/

/-- A part of a node may begin with this character, which is none of its marks. -/
structure OpensPart (c : Char) : Prop extends IsSolid c where
  noBlock : c ≠ '\x7b'
  noEnd (rest : List Char) : dropTerminator? (c :: rest) = none

theorem opensPart_of_isWord {c : Char} (letter : isWord c = true) : OpensPart c := by
  have solid := isSolid_of_isWord letter
  obtain ⟨-, noBreak, -, noPunctuation⟩ := isWord_iff.mp letter
  have noMark : ∀ mark, isPunctuation mark = true → c ≠ mark := by
    rintro mark isMark rfl
    rw [isMark] at noPunctuation
    cases noPunctuation
  refine { toIsSolid := solid, noBlock := noMark _ (by decide), noEnd := fun rest => ?_ }
  have noReturn : c ≠ '\r' := by
    rintro rfl
    cases noBreak
  rw [dropTerminator?, dropBreak?] <;>
    simp [noBreak, noReturn, solid.noSlash, noMark ';' (by decide), noMark '\x7d' (by decide)]

theorem IsArgument.opensPart {written : List Char} {value : Scalar}
    (isArgument : IsArgument written value) :
    ∃ first rest, written = first :: rest ∧ OpensPart first := by
  obtain ⟨first, rest, same, isQuote | letter⟩ := isArgument.starts
  · subst isQuote
    exact ⟨_, rest, same, ⟨rfl, rfl, by decide, by decide⟩, by decide, fun _ => rfl⟩
  · exact ⟨first, rest, same, opensPart_of_isWord letter⟩

/-- The parts of a node end with its line. -/
theorem readParts?_break (fuel : Nat) (parts : Parts) (rest : List Char) :
    readParts? (fuel + 1) parts ('\n' :: rest) = some (parts, rest) := by
  rw [readParts?]
  simp [dropTerminator?, dropBreak?, isBreak]

/-- A node with one argument ends with its line. -/
theorem readParts?_argument {written : List Char} {value : Scalar}
    (isArgument : IsArgument written value) (fuel : Nat) (rest : List Char) :
    readParts? (fuel + 2) {} (' ' :: written ++ '\n' :: rest) =
      some ({ items := [⟨none, value⟩] }, rest) := by
  have read := isArgument.read rest
  obtain ⟨first, more, rfl, opens⟩ := isArgument.opensPart
  rw [List.cons_append, List.cons_append] at *
  rw [readParts?]
  simp [dropNodeSpace?_space opens.toIsSolid, opens.noBlock, opens.noSlash, opens.noEnd, read,
    readParts?_break]

/-- A block ends its node when the line ends behind it. -/
theorem readParts?_block {body rest : List Char} {nodes : List Node} {fuel : Nat}
    (read : readNodes? fuel body = some (nodes, '\x7d' :: '\n' :: rest)) :
    readParts? (fuel + 2) {} (' ' :: '\x7b' :: body) =
      some ({ children := some nodes, closed := true }, rest) := by
  have solid : IsSolid '\x7b' := ⟨rfl, rfl, by decide, by decide⟩
  rw [readParts?]
  simp [dropNodeSpace?_space solid, readBlock?, read, readParts?_break]

theorem IsName.exists_cons {name : List Char} (isName : IsName name) :
    ∃ first letters, name = first :: letters := by
  refine List.exists_cons_of_ne_nil ?_
  rintro rfl
  cases isName.bare

theorem readNode?_name {name : List Char} (isName : IsName name) (fuel : Nat)
    (rest : List Char) :
    readNode? (fuel + 1) (name ++ ' ' :: rest) =
      (readParts? fuel {} (' ' :: rest)).map fun (parts, rest) =>
        (.mk (String.ofList name) parts.items.reverse parts.children, rest) := by
  obtain ⟨first, letters, rfl⟩ := isName.exists_cons
  have string : readString? (first :: letters ++ ' ' :: rest) = _ :=
    readString?_word isName.letters (by decide) rest
  rw [if_pos isName.bare] at string
  obtain ⟨-, -, -, noPunctuation⟩ := isWord_iff.mp (isName.letters first (by simp))
  have noAnnotation : first ≠ '(' := by
    rintro rfl
    cases noPunctuation
  rw [List.cons_append] at string ⊢
  generalize String.ofList (first :: letters) = text at string ⊢
  rw [readNode?]
  simp [readAnnotation?, noAnnotation, string]
  cases readParts? fuel {} (' ' :: rest) <;> rfl

/-- Behind blanks a name opens a node. -/
theorem readNodes?_name {blanks name : List Char} (blank : ∀ c ∈ blanks, isSpace c || isBreak c)
    (isName : IsName name) {fuel : Nat} {rest after : List Char} {parts : Parts}
    (read : readParts? fuel {} (' ' :: rest) = some (parts, after)) :
    readNodes? (fuel + 2) (blanks ++ name ++ ' ' :: rest) =
      (readNodes? (fuel + 1) after).map fun (nodes, rest) =>
        (.mk (String.ofList name) parts.items.reverse parts.children :: nodes, rest) := by
  have node := readNode?_name isName fuel rest
  obtain ⟨first, letters, rfl⟩ := isName.exists_cons
  have letter := isName.letters first (by simp)
  have opens := opensPart_of_isWord letter
  have dropped : dropLines? (blanks ++ first :: letters ++ ' ' :: rest).length _ = _ :=
    dropLines?_solid blank opens.toIsSolid (by simp) (letters ++ ' ' :: rest)
  rw [List.append_assoc, List.cons_append] at *
  generalize String.ofList (first :: letters) = text at node ⊢
  have noClosing : first ≠ '\x7d' := by
    rintro rfl
    cases letter
  rw [readNodes?, dropped]
  simp [node, read, noClosing, opens.noSlash]
  cases readNodes? (fuel + 1) after <;> rfl

theorem readNodes?_nil (fuel : Nat) : readNodes? (fuel + 1) [] = some ([], []) := by
  simp [readNodes?, dropLines?]

/-- A closing brace ends the nodes of a block. -/
theorem readNodes?_closing (fuel : Nat) (rest : List Char) :
    readNodes? (fuel + 1) ('\x7d' :: rest) = some ([], '\x7d' :: rest) := by
  have solid : IsSolid '\x7d' := ⟨rfl, rfl, by decide, by decide⟩
  have dropped : dropLines? (rest.length + 1) ([] ++ '\x7d' :: rest) = _ :=
    dropLines?_solid (by simp) solid (by simp) rest
  rw [List.nil_append] at dropped
  rw [readNodes?, List.length_cons, dropped]
  rfl

/-- Behind blanks a line with a name and an argument is one node. -/
theorem readNodes?_line {blanks name written : List Char} {value : Scalar}
    (blank : ∀ c ∈ blanks, isSpace c || isBreak c) (isName : IsName name)
    (isArgument : IsArgument written value) (fuel : Nat) (rest : List Char) :
    readNodes? (fuel + 4) (blanks ++ name ++ ' ' :: written ++ '\n' :: rest) =
      (readNodes? (fuel + 3) rest).map fun (nodes, rest) =>
        (.mk (String.ofList name) [⟨none, value⟩] none :: nodes, rest) := by
  simpa using readNodes?_name blank isName (readParts?_argument isArgument fuel rest)

/-- A text without a mark in front is a document if nothing is left of it behind its nodes. -/
theorem read?_of_readNodes? {text : String} (noMark : text.toList.head? ≠ some '\uFEFF')
    {nodes : List Node}
    (read : readNodes? (3 * text.toList.length + 3) text.toList = some (nodes, [])) :
    read? text = some nodes := by
  unfold read?
  split
  · simp_all
  · simp [read]

end LuaSession.Document
