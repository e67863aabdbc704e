import LuaSession.Syntax.Lexer

/-!
# The tokens of a longer text

Reading a token from a text of whole lines never looks past its end, unless the end
has come too early. So when more is appended to the text, the same tokens are read
from it, up to the point where the end was.
-/

namespace LuaSession.Syntax

namespace Trouble

/-- Something is wrong at the end of the text. -/
def IsAtEnd : Trouble → Prop
  | .at _ _ near => near = .eof
  | .tooDeep => False

/-- The text ends inside a string or a comment. -/
def IsOpen : Trouble → Prop
  | .at _ what near => near = .eof ∧ (what = "unfinished string".toUTF8 ∨
      ∃ (kind : String) (start : Nat),
        what = s!"unfinished long {kind} (starting at line {start})".toUTF8)
  | .tooDeep => False

end Trouble

namespace Lexer

/-- Bytes whose last one is a line feed. -/
inductive EndsLine : List UInt8 → Prop
  | lineFeed : EndsLine [0x0A]
  | cons (b : UInt8) {rest : List UInt8} : EndsLine rest → EndsLine (b :: rest)

/-- The bytes of a line of plain characters. -/
inductive IsLine : List UInt8 → Prop
  | lineFeed : IsLine [0x0A]
  | cons {b : UInt8} {rest : List UInt8} : 0x20 ≤ b → b < 0x7F → IsLine rest → IsLine (b :: rest)

/-- A line that no text goes on with: a quote that is left open. -/
def openQuote : List UInt8 := [0x22, 0x0A]

/-- The bytes do not begin with blank space, which a token that is open might take in. -/
def Fresh (bytes : List UInt8) : Prop :=
  ∃ b rest, bytes = b :: rest ∧ isBreak b = false ∧ Numeral.isSpace b = false

namespace EndsLine

variable {b : UInt8} {rest : List UInt8}

theorem ne_nil (ends : EndsLine rest) : rest ≠ [] := by
  cases ends <;> simp

theorem eq_nil_or (ends : EndsLine (b :: rest)) : (b = 0x0A ∧ rest = []) ∨ EndsLine rest := by
  cases ends with
  | lineFeed => exact .inl ⟨rfl, rfl⟩
  | cons _ later => exact .inr later

theorem tail (ends : EndsLine (b :: rest)) (other : b ≠ 0x0A) : EndsLine rest :=
  ends.eq_nil_or.resolve_left fun last => other last.1

theorem of_append (start : List UInt8) : EndsLine (start ++ [0x0A]) := by
  induction start with
  | nil => exact .lineFeed
  | cons b start ih => exact .cons b ih

end EndsLine

theorem isLine_openQuote : IsLine openQuote := .cons (by decide) (by decide) .lineFeed

/-- The results of reading in a text and in a longer one: they are related, or they
are the same failure, or the shorter text ends inside of what is read, and the longer
one goes on there. -/
inductive Agrees {α : Type} (P : α → α → Prop) (GoesOn : Result α → Prop) :
    Result α → Result α → Prop
  | ok {x y : α} : P x y → Agrees P GoesOn (.ok x) (.ok y)
  | failed {trouble : Trouble} : ¬trouble.IsAtEnd →
      Agrees P GoesOn (.error trouble) (.error trouble)
  | ended {trouble : Trouble} {longer : Result α} : trouble.IsOpen → GoesOn longer →
      Agrees P GoesOn (.error trouble) longer

/-- Nothing of the kind is left open. -/
def Never {α : Type} (_ : Result α) : Prop := False

namespace Agrees

variable {α β : Type} {P : α → α → Prop} {Q : β → β → Prop} {GoesOn : Result α → Prop}
  {GoesOn' : Result β → Prop}

theorem bind {first longer : Result α} {f g : α → Result β} (agrees : Agrees P GoesOn first longer)
    (later : ∀ x y, P x y → Agrees Q GoesOn' (f x) (g y))
    (goOn : ∀ longer, GoesOn longer → GoesOn' (longer >>= g)) :
    Agrees Q GoesOn' (first >>= f) (longer >>= g) := by
  cases agrees with
  | ok related => exact later _ _ related
  | failed inside => exact .failed inside
  | ended isOpen goesOn => exact .ended isOpen (goOn _ goesOn)

theorem bind_never {first longer : Result α} {f g : α → Result β}
    (agrees : Agrees P Never first longer) (later : ∀ x y, P x y → Agrees Q GoesOn' (f x) (g y)) :
    Agrees Q GoesOn' (first >>= f) (longer >>= g) :=
  agrees.bind later fun _ => False.elim

theorem mono {Q : α → α → Prop} {GoesOn' : Result α → Prop} {first longer : Result α}
    (agrees : Agrees P GoesOn first longer) (weaker : ∀ x y, P x y → Q x y)
    (goOn : ∀ longer, GoesOn longer → GoesOn' longer) : Agrees Q GoesOn' first longer := by
  cases agrees with
  | ok related => exact .ok (weaker _ _ related)
  | failed inside => exact .failed inside
  | ended isOpen goesOn => exact .ended isOpen (goOn _ goesOn)

theorem of_never {first longer : Result α} (agrees : Agrees P Never first longer) :
    Agrees P GoesOn first longer :=
  agrees.mono (fun _ _ => id) fun _ => False.elim

theorem failNear (line : Nat) (what : String) (buffer : List UInt8) :
    Agrees P GoesOn (failNear line what buffer) (Lexer.failNear line what buffer) :=
  .failed (by simp [Trouble.IsAtEnd])

theorem openString (line : Nat) {longer : Result α} (goesOn : GoesOn longer) :
    Agrees P GoesOn (failAtEnd line "unfinished string") longer :=
  .ended ⟨rfl, .inl rfl⟩ goesOn

theorem openLong (what : String) (line start : Nat) {longer : Result α} (goesOn : GoesOn longer) :
    Agrees P GoesOn (failAtEnd line s!"unfinished long {what} (starting at line {start})") longer :=
  .ended ⟨rfl, .inr ⟨what, start, rfl⟩⟩ goesOn

end Agrees

/-! ## Parts of tokens -/

section

variable (more : List UInt8)

/-- The bytes that are left of a text, and those left of the longer one. -/
structure Leaves (n : Nat) (rest longer : List UInt8) : Prop where
  ends : EndsLine rest
  length : rest.length ≤ n
  longer : longer = rest ++ more

/-- Nothing is left of a text, and the longer one goes on with what was added to it. -/
structure Exhausts (rest longer : List UInt8) : Prop where
  nothing : rest = []
  goesOn : Fresh more → longer = more

variable {more} {rest : List UInt8}

theorem Leaves.tail {b : UInt8} (ends : EndsLine (b :: rest)) (other : b ≠ 0x0A) :
    Leaves more rest.length rest (rest ++ more) :=
  ⟨ends.tail other, Nat.le_refl _, rfl⟩

theorem leaves_dropWhile (more : List UInt8) {p : UInt8 → Bool} (stops : p 0x0A = false)
    (ends : EndsLine rest) :
    Leaves more rest.length (rest.dropWhile p) ((rest ++ more).dropWhile p) ∧
      (rest ++ more).takeWhile p = rest.takeWhile p := by
  induction ends with
  | lineFeed =>
      simp only [List.dropWhile, List.takeWhile, List.cons_append, List.nil_append, stops]
      exact ⟨⟨.lineFeed, Nat.le_refl _, rfl⟩, trivial⟩
  | @cons b rest ends ih =>
      obtain ⟨⟨ends', length, longer⟩, taken⟩ := ih
      cases fits : p b with
      | false =>
          simp only [List.cons_append, List.dropWhile, List.takeWhile, fits]
          exact ⟨⟨.cons b ends, Nat.le_refl _, rfl⟩, trivial⟩
      | true =>
          simp only [List.cons_append, List.dropWhile, List.takeWhile, fits, taken]
          exact ⟨⟨ends', Nat.le_succ_of_le length, longer⟩, trivial⟩

theorem leaves_dropLine (more : List UInt8) (ends : EndsLine rest) :
    Leaves more rest.length (dropLine rest) (dropLine (rest ++ more)) := by
  have isDropWhile (bytes : List UInt8) :
      dropLine bytes = bytes.dropWhile fun b => !isBreak b := by
    induction bytes with
    | nil => rfl
    | cons b bytes ih => cases h : isBreak b <;> simp [dropLine, List.dropWhile, h, ih]
  rw [isDropWhile, isDropWhile]
  exact (leaves_dropWhile more rfl ends).1

theorem leaves_countMarks (more : List UInt8) (ends : EndsLine rest) :
    (countMarks (rest ++ more)).1 = (countMarks rest).1 ∧
      Leaves more rest.length (countMarks rest).2 (countMarks (rest ++ more)).2 := by
  induction ends with
  | lineFeed => exact ⟨rfl, .lineFeed, Nat.le_refl _, rfl⟩
  | @cons b rest ends ih =>
      by_cases isMark : b = 0x3D
      · subst isMark
        obtain ⟨same, ends', length, longer⟩ := ih
        exact ⟨congrArg (· + 1) same, ends', Nat.le_succ_of_le length, longer⟩
      · have noMark (bytes : List UInt8) : countMarks (b :: bytes) = (0, b :: bytes) := by
          rw [countMarks]
          exact fun _ same => isMark (List.cons.inj same).1
        rw [List.cons_append, noMark, noMark]
        exact ⟨rfl, .cons b ends, Nat.le_refl _, rfl⟩

theorem leaves_opening (more : List UInt8) (ends : EndsLine rest) :
    match Opening.ofBytes rest with
    | .long level body => ∃ longer, Opening.ofBytes (rest ++ more) = .long level longer ∧
        Leaves more rest.length body longer
    | opening => Opening.ofBytes (rest ++ more) = opening := by
  obtain ⟨same, ends', length, longer⟩ := leaves_countMarks more ends
  unfold Opening.ofBytes
  generalize countMarks (rest ++ more) = marks at same longer ⊢
  generalize countMarks rest = marks' at same ends' length longer ⊢
  obtain ⟨marks, left⟩ := marks
  obtain ⟨marks', left'⟩ := marks'
  dsimp only at same ends' length longer
  subst same longer
  cases ends' with
  | lineFeed => cases marks <;> rfl
  | @cons b left ends' =>
      by_cases isBracket : b = 0x5B
      · subst isBracket
        exact ⟨_, rfl, ends', Nat.le_of_succ_le length, rfl⟩
      · cases marks <;> simp [isBracket]

theorem leaves_closes? (more : List UInt8) (level : Nat) (ends : EndsLine rest) :
    match closes? level rest with
    | some left => ∃ longer, closes? level (rest ++ more) = some longer ∧
        Leaves more rest.length left longer
    | none => closes? level (rest ++ more) = none := by
  obtain ⟨same, ends', length, longer⟩ := leaves_countMarks more ends
  unfold closes?
  generalize countMarks (rest ++ more) = marks at same longer ⊢
  generalize countMarks rest = marks' at same ends' length longer ⊢
  obtain ⟨marks, left⟩ := marks
  obtain ⟨marks', left'⟩ := marks'
  dsimp only at same ends' length longer
  subst same longer
  cases ends' with
  | lineFeed => rfl
  | @cons b left ends' =>
      by_cases isBracket : b = 0x5D
      · subst isBracket
        by_cases isLevel : marks = level
        · simpa [isLevel] using ⟨ends', Nat.le_of_succ_le length, rfl⟩
        · simp [isLevel]
      · simp [isBracket]

theorem leaves_dropSecond (more : List UInt8) {b : UInt8} (ends : EndsLine (b :: rest)) :
    Exhausts more (dropSecond b rest) (dropSecond b (rest ++ more)) ∨
      Leaves more rest.length (dropSecond b rest) (dropSecond b (rest ++ more)) := by
  obtain ⟨_, rfl⟩ | ends := ends.eq_nil_or
  · refine .inl ⟨rfl, ?_⟩
    rintro ⟨c, more, rfl, noBreak, _⟩
    simp [dropSecond, noBreak]
  · cases rest with
    | nil => exact absurd rfl ends.ne_nil
    | cons c rest =>
        rw [List.cons_append, dropSecond, dropSecond]
        split
        · obtain ⟨_, rfl⟩ | ends := ends.eq_nil_or
          · exact .inl ⟨rfl, fun _ => rfl⟩
          · exact .inr ⟨ends, Nat.le_succ _, rfl⟩
        · exact .inr ⟨ends, Nat.le_refl _, rfl⟩

theorem leaves_dropFirstBreak (more : List UInt8) (line : Nat) (ends : EndsLine rest) :
    Exhausts more (dropFirstBreak line rest).2 (dropFirstBreak line (rest ++ more)).2 ∨
      ((dropFirstBreak line (rest ++ more)).1 = (dropFirstBreak line rest).1 ∧
        Leaves more rest.length (dropFirstBreak line rest).2
          (dropFirstBreak line (rest ++ more)).2) := by
  cases rest with
  | nil => exact absurd rfl ends.ne_nil
  | cons b rest =>
      rw [List.cons_append, dropFirstBreak, dropFirstBreak]
      split
      · obtain exhausts | ⟨ends, length, longer⟩ := leaves_dropSecond more ends
        · exact .inl exhausts
        · exact .inr ⟨rfl, ends, Nat.le_succ_of_le length, longer⟩
      · exact .inr ⟨rfl, ends, Nat.le_refl _, rfl⟩

/-! ## Long brackets -/

/-- What closes a long bracket. -/
def closing (level : Nat) : List UInt8 := 0x5D :: (List.replicate level 0x3D ++ [0x5D])

/-- A line that goes on where a long bracket is open, and then with an open quote. -/
def closingLine (level : Nat) : List UInt8 := closing level ++ openQuote

theorem isLine_closingLine (level : Nat) : IsLine (closingLine level) := by
  have marks : IsLine (List.replicate level 0x3D ++ 0x5D :: openQuote) := by
    induction level with
    | zero => exact .cons (by decide) (by decide) isLine_openQuote
    | succ level ih => exact .cons (by decide) (by decide) ih
  rw [closingLine, closing, List.cons_append, List.append_assoc, List.singleton_append]
  exact .cons (by decide) (by decide) marks

theorem fresh_closingLine (level : Nat) : Fresh (closingLine level) := ⟨_, _, rfl, rfl, rfl⟩

theorem countMarks_closing (level : Nat) (rest : List UInt8) :
    countMarks (List.replicate level 0x3D ++ 0x5D :: rest) = (level, 0x5D :: rest) := by
  induction level with
  | zero => rfl
  | succ level ih => rw [List.replicate_succ, List.cons_append, countMarks, ih]

theorem readLong_closing (what : String) (level start fuel line : Nat) (body : List UInt8) :
    readLong what level start (fuel + 1) line body (closingLine level) =
      .ok (body, line, openQuote) := by
  have closes : closes? level (List.replicate level 0x3D ++ [0x5D] ++ openQuote) =
      some openQuote := by
    rw [closes?, List.append_assoc, List.singleton_append, countMarks_closing]
    simp
  rw [closingLine, closing, List.cons_append, readLong, closes]
  rfl

/-- Nothing is left of a text in which a long bracket is open. -/
theorem readLong_nil (what : String) (level start fuel line : Nat) (body : List UInt8) :
    readLong what level start fuel line body [] =
      failAtEnd line s!"unfinished long {what} (starting at line {start})" := by
  cases fuel <;> rfl

/-- The longer text closes a long bracket. -/
def Closes (more : List UInt8) (level : Nat) (longer : Result (List UInt8 × Nat × List UInt8)) :
    Prop :=
  more = closingLine level → ∃ body line, longer = .ok (body, line, openQuote)

theorem Exhausts.closes {n : Nat} {longer : List UInt8} (exhausts : Exhausts more rest longer)
    (what : String) (level start fuel line line' : Nat) (body : List UInt8) :
    Agrees (fun x y => y.1 = x.1 ∧ y.2.1 = x.2.1 ∧ Leaves more n x.2.2 y.2.2) (Closes more level)
      (readLong what level start fuel line body rest)
      (readLong what level start (fuel + more.length) line' body longer) := by
  rw [exhausts.nothing, readLong_nil]
  refine .openLong _ _ _ fun isClosing => ?_
  rw [exhausts.goesOn (isClosing ▸ fresh_closingLine level), isClosing]
  exact ⟨_, _, readLong_closing _ _ _ _ _ _⟩

theorem agrees_readLong (what : String) (level start fuel line : Nat) (body : List UInt8)
    (ends : EndsLine rest) (enough : rest.length ≤ fuel) :
    Agrees (fun x y => y.1 = x.1 ∧ y.2.1 = x.2.1 ∧ Leaves more rest.length x.2.2 y.2.2)
      (Closes more level) (readLong what level start fuel line body rest)
      (readLong what level start (fuel + more.length) line body (rest ++ more)) := by
  induction fuel generalizing line body rest with
  | zero => exact absurd (List.length_eq_zero_iff.mp (Nat.le_zero.mp enough)) ends.ne_nil
  | succ fuel ih =>
      have goOn {rest' longer : List UInt8} {n : Nat} (line : Nat) (body : List UInt8)
          (leaves : Leaves more n rest' longer) (fits : n < rest.length) :
          Agrees (fun x y => y.1 = x.1 ∧ y.2.1 = x.2.1 ∧ Leaves more rest.length x.2.2 y.2.2)
            (Closes more level) (readLong what level start fuel line body rest')
            (readLong what level start (fuel + more.length) line body longer) := by
        obtain ⟨ends, length, rfl⟩ := leaves
        refine (ih line body ends (by omega)).mono (fun x y ⟨same, same', left⟩ => ?_) fun _ => id
        have shorter := left.length
        exact ⟨same, same', left.ends, by omega, left.longer⟩
      rw [Nat.add_right_comm]
      cases rest with
      | nil => exact absurd rfl ends.ne_nil
      | cons b rest =>
          rw [List.cons_append, readLong, readLong]
          split
          · rename_i isBracket
            have other : b ≠ 0x0A := by
              rintro rfl
              contradiction
            have closes := leaves_closes? more level (ends.tail other)
            split
            · rename_i left found
              rw [found] at closes
              obtain ⟨longer, found', ends', length, same⟩ := closes
              rw [found']
              exact .ok ⟨rfl, rfl, ends', Nat.le_succ_of_le length, same⟩
            · rename_i found
              rw [found] at closes
              rw [closes]
              exact goOn line (b :: body) (Leaves.tail ends other) (Nat.lt_succ_self _)
          · split
            · obtain exhausts | leaves := leaves_dropSecond more ends
              · exact exhausts.closes _ _ _ _ _ _ _
              · exact goOn (line + 1) (0x0A :: body) leaves (Nat.lt_succ_self _)
            · rename_i noBreak
              have other : b ≠ 0x0A := by
                rintro rfl
                contradiction
              exact goOn line (b :: body) (Leaves.tail ends other) (Nat.lt_succ_self _)

/-! ## Escapes -/

theorem agrees_failEscape {α : Type} {P : α → α → Prop} {GoesOn : Result α → Prop} (line : Nat)
    (what : String) (buffer : List UInt8) (ends : EndsLine rest) :
    Agrees P GoesOn (failEscape line what buffer rest)
      (failEscape line what buffer (rest ++ more)) := by
  cases rest with
  | nil => exact absurd rfl ends.ne_nil
  | cons b rest => exact .failNear _ _ _

theorem agrees_readHex (line : Nat) (buffer : List UInt8) (ends : EndsLine rest) :
    Agrees (fun x y => y.1 = x.1 ∧ y.2.1 = x.2.1 ∧ Leaves more rest.length x.2.2 y.2.2)
      Never (readHex line buffer rest) (readHex line buffer (rest ++ more)) := by
  cases rest with
  | nil => exact absurd rfl ends.ne_nil
  | cons b rest =>
      rw [List.cons_append, readHex, readHex]
      split
      · rename_i digit
        have other : b ≠ 0x0A := by
          rintro rfl
          contradiction
        exact .ok ⟨rfl, rfl, ends.tail other, Nat.le_succ _, rfl⟩
      · exact agrees_failEscape line _ buffer ends

theorem agrees_readCodePoint (line value : Nat) (buffer : List UInt8) (ends : EndsLine rest) :
    Agrees (fun x y => y.1 = x.1 ∧ Leaves more rest.length x.2 y.2) Never
      (readCodePoint line value buffer rest)
      (readCodePoint line value buffer (rest ++ more)) := by
  induction rest generalizing value buffer with
  | nil => exact absurd rfl ends.ne_nil
  | cons b rest ih =>
      rw [List.cons_append, readCodePoint, readCodePoint]
      split
      · rename_i digit
        have other : b ≠ 0x0A := by
          rintro rfl
          contradiction
        split
        · refine (ih _ _ (ends.tail other)).mono (fun x y ⟨same, left⟩ => ?_) fun _ => id
          exact ⟨same, left.ends, Nat.le_succ_of_le left.length, left.longer⟩
        · exact agrees_failEscape line _ buffer ends
      · split
        · rename_i isClosing
          have other : b ≠ 0x0A := by
            rintro rfl
            contradiction
          exact .ok ⟨rfl, ends.tail other, Nat.le_succ _, rfl⟩
        · exact agrees_failEscape line _ buffer ends

theorem agrees_readUnicode (line : Nat) (buffer : List UInt8) (ends : EndsLine rest) :
    Agrees (fun x y => y.1 = x.1 ∧ Leaves more rest.length x.2 y.2)
      Never (readUnicode line buffer rest) (readUnicode line buffer (rest ++ more)) := by
  cases rest with
  | nil => exact absurd rfl ends.ne_nil
  | cons b rest =>
      by_cases isOpening : b = 0x7B
      · subst isOpening
        refine (agrees_readHex line _ (ends.tail (by decide))).bind_never ?_
        rintro ⟨first, shown, left⟩ ⟨_, _, longer⟩ ⟨rfl, rfl, ends', length, same⟩
        dsimp only at ends' length same ⊢
        subst same
        refine (agrees_readCodePoint line _ _ ends').mono (fun x y ⟨same, left⟩ => ?_) fun _ => id
        exact ⟨same, left.ends, Nat.le_succ_of_le (Nat.le_trans left.length length), left.longer⟩
      · simpa [readUnicode, isOpening] using agrees_failEscape line _ buffer ends

theorem leaves_readDecimal (more : List UInt8) (room value : Nat) (buffer : List UInt8)
    (ends : EndsLine rest) :
    ∃ value' buffer' left longer, readDecimal room value buffer rest = (value', buffer', left) ∧
      readDecimal room value buffer (rest ++ more) = (value', buffer', longer) ∧
      Leaves more rest.length left longer := by
  induction room generalizing value buffer rest with
  | zero => exact ⟨_, _, _, _, rfl, rfl, ends, Nat.le_refl _, rfl⟩
  | succ room ih =>
      cases rest with
      | nil => exact absurd rfl ends.ne_nil
      | cons b rest =>
          rw [List.cons_append, readDecimal, readDecimal]
          split
          · rename_i digit
            have other : b ≠ 0x0A := by
              rintro rfl
              contradiction
            obtain ⟨value', buffer', left, longer, short, long, ends', length, same⟩ :=
              ih (value * 10 + (b.toNat - 0x30)) (b :: buffer) (ends.tail other)
            exact ⟨_, _, _, _, short, long, ends', Nat.le_succ_of_le length, same⟩
          · exact ⟨_, _, _, _, rfl, rfl, ends, Nat.le_refl _, rfl⟩

/-- Blank space is skipped up to what was added. -/
theorem Exhausts.dropSpace {longer : List UInt8} (exhausts : Exhausts more rest longer)
    (fuel line line' : Nat) :
    Exhausts more (dropSpace fuel line rest).2 (dropSpace (fuel + more.length) line' longer).2 := by
  obtain ⟨rfl, goesOn⟩ := exhausts
  refine ⟨by cases fuel <;> rfl, fun fresh => ?_⟩
  rw [goesOn fresh]
  obtain ⟨b, more, rfl, noBreak, noSpace⟩ := fresh
  rw [List.length_cons, ← Nat.add_assoc, Lexer.dropSpace, if_neg, if_neg]
  · simp [noSpace]
  · simp [noBreak]

theorem leaves_dropSpace (more : List UInt8) (fuel line : Nat) (ends : EndsLine rest)
    (enough : rest.length ≤ fuel) :
    Exhausts more (dropSpace fuel line rest).2
        (dropSpace (fuel + more.length) line (rest ++ more)).2 ∨
      ((dropSpace (fuel + more.length) line (rest ++ more)).1 = (dropSpace fuel line rest).1 ∧
        Leaves more rest.length (dropSpace fuel line rest).2
          (dropSpace (fuel + more.length) line (rest ++ more)).2) := by
  induction fuel generalizing line rest with
  | zero => exact absurd (List.length_eq_zero_iff.mp (Nat.le_zero.mp enough)) ends.ne_nil
  | succ fuel ih =>
      have goOn {rest' longer : List UInt8} {n : Nat} (line : Nat) (fits : n < rest.length)
          (leaves : Leaves more n rest' longer) :
          Exhausts more (dropSpace fuel line rest').2
              (dropSpace (fuel + more.length) line longer).2 ∨
            ((dropSpace (fuel + more.length) line longer).1 = (dropSpace fuel line rest').1 ∧
              Leaves more rest.length (dropSpace fuel line rest').2
                (dropSpace (fuel + more.length) line longer).2) := by
        obtain ⟨ends, length, rfl⟩ := leaves
        obtain exhausts | ⟨same, ends', length', longer⟩ := ih line ends (by omega)
        · exact .inl exhausts
        · exact .inr ⟨same, ends', by omega, longer⟩
      rw [Nat.add_right_comm]
      cases rest with
      | nil => exact absurd rfl ends.ne_nil
      | cons b rest =>
          rw [List.cons_append, dropSpace, dropSpace]
          split
          · obtain exhausts | leaves := leaves_dropSecond more ends
            · exact .inl (exhausts.dropSpace fuel (line + 1) (line + 1))
            · exact goOn (line + 1) (Nat.lt_succ_self _) leaves
          · rename_i noBreak
            have other : b ≠ 0x0A := by
              rintro rfl
              contradiction
            split
            · exact goOn line (Nat.lt_succ_self _) (Leaves.tail ends other)
            · exact .inr ⟨rfl, ends, Nat.le_refl _, rfl⟩

/-- An escape that has been read: the end of the text may have come with it. -/
theorem agrees_readEscape (fuel line : Nat) (buffer : List UInt8) (ends : EndsLine rest)
    (enough : rest.length ≤ fuel) :
    Agrees (fun x y => Exhausts more x.rest y.rest ∨ (y.added = x.added ∧ y.line = x.line ∧
        Leaves more rest.length x.rest y.rest)) Never
      (readEscape fuel line buffer rest)
      (readEscape (fuel + more.length) line buffer (rest ++ more)) := by
  cases rest with
  | nil => exact absurd rfl ends.ne_nil
  | cons b rest =>
      rw [List.cons_append, readEscape, readEscape]
      split
      · rename_i c isPlain
        have other : b ≠ 0x0A := by
          rintro rfl
          contradiction
        exact .ok (.inr ⟨rfl, rfl, ends.tail other, Nat.le_succ _, rfl⟩)
      · split
        · rename_i isHex
          have other : b ≠ 0x0A := by
            rintro rfl
            contradiction
          refine (agrees_readHex line _ (ends.tail other)).bind_never ?_
          rintro ⟨high, shown, left⟩ ⟨_, _, longer⟩ ⟨rfl, rfl, ends', length, same⟩
          dsimp only at ends' length same ⊢
          subst same
          refine (agrees_readHex line _ ends').bind_never ?_
          rintro ⟨low, shown, left⟩ ⟨_, _, longer⟩ ⟨rfl, rfl, ends'', length', same⟩
          exact .ok (.inr ⟨rfl, rfl, ends'',
            Nat.le_succ_of_le (Nat.le_trans length' length), same⟩)
        · split
          · rename_i isUnicode
            have other : b ≠ 0x0A := by
              rintro rfl
              contradiction
            refine (agrees_readUnicode line _ (ends.tail other)).bind_never ?_
            rintro ⟨value, left⟩ ⟨_, longer⟩ ⟨rfl, ends', length, same⟩
            exact .ok (.inr ⟨rfl, rfl, ends', Nat.le_succ_of_le length, same⟩)
          · split
            · obtain exhausts | ⟨ends', length, longer⟩ := leaves_dropSecond more ends
              · exact .ok (.inl exhausts)
              · exact .ok (.inr ⟨rfl, rfl, ends', Nat.le_succ_of_le length, longer⟩)
            · split
              · rename_i isSkip
                have other : b ≠ 0x0A := by
                  rintro rfl
                  contradiction
                obtain exhausts | ⟨same, ends', length, longer⟩ :=
                  leaves_dropSpace more fuel line (ends.tail other)
                    (Nat.le_of_succ_le enough)
                · exact .ok (.inl exhausts)
                · exact .ok (.inr ⟨rfl, same, ends', Nat.le_succ_of_le length, longer⟩)
              · split
                · obtain ⟨value, shown, left, longer, short, long, left'⟩ :=
                    leaves_readDecimal more 3 0 (0x5C :: buffer) ends
                  rw [List.cons_append] at long
                  rw [short, long]
                  dsimp only
                  split
                  · exact .ok (.inr ⟨rfl, rfl, left'⟩)
                  · rw [left'.longer]
                    exact agrees_failEscape line _ shown left'.ends
                · exact .failNear _ _ _

/-! ## Tokens -/

variable (more) in
/-- A token of a text, and what was read from the longer one. -/
structure Lexed.Recurs (n : Nat) (lexed longer : Lexed) : Prop where
  isToken : lexed.token ≠ .eof
  ends : EndsLine lexed.rest
  length : lexed.rest.length ≤ n
  longer : longer = { lexed with rest := lexed.rest ++ more }

theorem Leaves.recurs {n : Nat} {left longer : List UInt8} (leaves : Leaves more n left longer)
    {token : Token} (isToken : token ≠ .eof) (buffer : Bytes) (line : Nat) :
    Lexed.Recurs more n ⟨token, buffer, line, left⟩ ⟨token, buffer, line, longer⟩ :=
  ⟨isToken, leaves.ends, leaves.length, by rw [leaves.longer]⟩

theorem agrees_plain {n : Nat} {left longer : List UInt8} (leaves : Leaves more n left longer)
    {token : Token} (isToken : token ≠ .eof) (line : Nat) :
    Agrees (Lexed.Recurs more n) Never (plain token line left) (plain token line longer) :=
  .ok (leaves.recurs isToken _ _)

/-- A line that goes on where a quoted string is open, and leaves it open. -/
def letterLine : List UInt8 := [0x61, 0x0A]

theorem isLine_letterLine : IsLine letterLine := .cons (by decide) (by decide) .lineFeed

theorem fresh_letterLine : Fresh letterLine := ⟨_, _, rfl, rfl, rfl⟩

/-- The longer text fails, but not at its end. -/
def Breaks (more : List UInt8) (longer : Result Lexed) : Prop :=
  more = letterLine → ∃ trouble, longer = .error trouble ∧ ¬trouble.IsAtEnd

theorem Exhausts.breaks {n : Nat} {longer : List UInt8} (exhausts : Exhausts more rest longer)
    {quote : UInt8} (isQuote : quote = 0x22 ∨ quote = 0x27) (fuel line line' : Nat)
    (buffer buffer' : List UInt8) :
    Agrees (Lexed.Recurs more n) (Breaks more) (readQuoted quote fuel line buffer rest)
      (readQuoted quote (fuel + more.length) line' buffer' longer) := by
  have isOpen : readQuoted quote fuel line buffer [] = failAtEnd line "unfinished string" := by
    cases fuel <;> rfl
  rw [exhausts.nothing, isOpen]
  refine .openString _ fun isLetter => ?_
  rw [exhausts.goesOn (isLetter ▸ fresh_letterLine), isLetter]
  refine ⟨.at line' "unfinished string".toUTF8 (.text (beforeZero (reversed (0x61 :: buffer')))),
    ?_, by simp [Trouble.IsAtEnd]⟩
  obtain rfl | rfl := isQuote <;> rfl

theorem agrees_readQuoted {quote : UInt8} (isQuote : quote = 0x22 ∨ quote = 0x27) (fuel line : Nat)
    (buffer : List UInt8) (ends : EndsLine rest) (enough : rest.length ≤ fuel) :
    Agrees (Lexed.Recurs more rest.length) (Breaks more) (readQuoted quote fuel line buffer rest)
      (readQuoted quote (fuel + more.length) line buffer (rest ++ more)) := by
  induction fuel generalizing line buffer rest with
  | zero => exact absurd (List.length_eq_zero_iff.mp (Nat.le_zero.mp enough)) ends.ne_nil
  | succ fuel ih =>
      have goOn {rest' longer : List UInt8} {n : Nat} (line : Nat) (buffer : List UInt8)
          (fits : n < rest.length) (leaves : Leaves more n rest' longer) :
          Agrees (Lexed.Recurs more rest.length) (Breaks more)
            (readQuoted quote fuel line buffer rest')
            (readQuoted quote (fuel + more.length) line buffer longer) := by
        obtain ⟨ends, length, rfl⟩ := leaves
        refine (ih line buffer ends (by omega)).mono (fun x y recurs => ?_) fun _ => id
        have shorter := recurs.length
        exact ⟨recurs.isToken, recurs.ends, by omega, recurs.longer⟩
      rw [Nat.add_right_comm]
      cases rest with
      | nil => exact absurd rfl ends.ne_nil
      | cons b rest =>
          rw [List.cons_append, readQuoted, readQuoted]
          split
          · rename_i isClosing
            have other : b ≠ 0x0A := by
              rintro rfl
              obtain rfl | rfl := isQuote <;> contradiction
            have leaves : Leaves more (b :: rest).length rest (rest ++ more) :=
              ⟨ends.tail other, Nat.le_succ _, rfl⟩
            exact .ok (leaves.recurs (by simp) _ _)
          · split
            · exact .failNear _ _ _
            · rename_i noBreak
              have other : b ≠ 0x0A := by
                rintro rfl
                contradiction
              split
              · refine (agrees_readEscape fuel line buffer (ends.tail other)
                  (Nat.le_of_succ_le_succ enough)).bind_never ?_
                rintro x ⟨added, line, longer⟩ (exhausts | ⟨rfl, rfl, leaves⟩)
                · exact exhausts.breaks isQuote _ _ _ _ _
                · exact goOn _ _ (Nat.lt_succ_self _) leaves
              · exact goOn line (b :: buffer) (Nat.lt_succ_self _) (Leaves.tail ends other)

end

end Lexer

end LuaSession.Syntax
