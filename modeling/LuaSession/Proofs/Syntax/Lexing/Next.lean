import LuaSession.Proofs.Syntax.Lexing.Parts

/-!
# The next token of a longer text

The next token of a text of whole lines is that of the longer text, too, as long as the
end of the text is not reached. At the end of the text the longer one goes on. If the
text ends inside a token, some line leads out of it.
-/

namespace LuaSession.Syntax.Lexer

section

variable {more rest : List UInt8}

/-! ## Numerals -/

theorem leaves_readNumeralText (more : List UInt8) (exponent : UInt8) (isLetter : exponent ≠ 0x2A)
    (afterExponent : Bool) (text : List UInt8) (ends : EndsLine rest) :
    ∃ text' left longer, readNumeralText exponent afterExponent text rest = (text', left) ∧
      readNumeralText exponent afterExponent text (rest ++ more) = (text', longer) ∧
      Leaves more rest.length left longer := by
  induction rest generalizing afterExponent text with
  | nil => exact absurd rfl ends.ne_nil
  | cons b rest ih =>
      by_cases other : b = 0x0A
      · subst other
        have stops (bytes : List UInt8) : readNumeralText exponent afterExponent text
            (0x0A :: bytes) = (text, 0x0A :: bytes) := by
          have noExponent : ((0x0A : UInt8) ||| 0x20 == exponent) = false :=
            beq_eq_false_iff_ne.mpr isLetter.symm
          rw [readNumeralText, noExponent]
          cases afterExponent <;> rfl
        exact ⟨_, _, _, stops rest, stops (rest ++ more), ends, Nat.le_refl _, rfl⟩
      · have goOn (afterExponent : Bool) := ih afterExponent (b :: text) (ends.tail other)
        rw [List.cons_append, readNumeralText, readNumeralText]
        split
        · obtain ⟨text', left, longer, short, long, ends', length, same⟩ := goOn false
          exact ⟨_, _, _, short, long, ends', Nat.le_succ_of_le length, same⟩
        · split
          · obtain ⟨text', left, longer, short, long, ends', length, same⟩ := goOn true
            exact ⟨_, _, _, short, long, ends', Nat.le_succ_of_le length, same⟩
          · split
            · obtain ⟨text', left, longer, short, long, ends', length, same⟩ := goOn false
              exact ⟨_, _, _, short, long, ends', Nat.le_succ_of_le length, same⟩
            · exact ⟨_, _, _, rfl, rfl, ends, Nat.le_refl _, rfl⟩

/-- Read a numeral whose exponent a letter announces. -/
def readDigits (exponent : UInt8) (line : Nat) (text bytes : List UInt8) : Result Lexed :=
  let (text, rest) := readNumeralText exponent false text bytes
  let (text, rest) :=
    match rest with
    | b :: more => if isLetter b then (b :: text, more) else (text, rest)
    | [] => (text, rest)
  match Numeral.read? text.reverse with
  | some n => .ok ⟨.number n, reversed text, line, rest⟩
  | none => failNear line "malformed number" text

theorem readNumeral_cons (line : Nat) (text : List UInt8) (b : UInt8) (rest : List UInt8) :
    readNumeral line text (b :: rest) =
      if text = [0x30] ∧ (b == 0x78 || b == 0x58) then readDigits 0x70 line (b :: text) rest
      else readDigits 0x65 line text (b :: rest) := by
  split
  · rename_i isHex
    obtain ⟨rfl, isLetter⟩ := isHex
    simp only [readNumeral, isLetter, reduceIte]
    rfl
  · rename_i noHex
    unfold readNumeral
    split
    rename_i exponent text' bytes start
    change readDigits exponent line text' bytes = _
    split at start
    · rename_i c rest' same
      obtain ⟨rfl, rfl⟩ := List.cons.inj same
      have noLetter : (b == 0x78 || b == 0x58) = false := by simpa using noHex
      rw [noLetter] at start
      cases start
      rfl
    · cases start
      rfl

theorem agrees_readDigits {exponent : UInt8} (isLetter : exponent ≠ 0x2A) (line : Nat)
    (text : List UInt8) (ends : EndsLine rest) :
    Agrees (Lexed.Recurs more rest.length) Never (readDigits exponent line text rest)
      (readDigits exponent line text (rest ++ more)) := by
  obtain ⟨text, left, _, short, long, ends, length, rfl⟩ :=
    leaves_readNumeralText more exponent isLetter false text ends
  have finish {left longer : List UInt8} (text : List UInt8)
      (leaves : Leaves more rest.length left longer) :
      Agrees (Lexed.Recurs more rest.length) Never
        (match Numeral.read? text.reverse with
          | some n => .ok ⟨.number n, reversed text, line, left⟩
          | none => failNear line "malformed number" text)
        (match Numeral.read? text.reverse with
          | some n => .ok ⟨.number n, reversed text, line, longer⟩
          | none => failNear line "malformed number" text) := by
    split
    · exact .ok (leaves.recurs (by simp) _ _)
    · exact .failNear _ _ _
  unfold readDigits
  rw [short, long]
  cases left with
  | nil => exact absurd rfl ends.ne_nil
  | cons b left =>
      dsimp only [List.cons_append]
      cases letter : Lexer.isLetter b with
      | false => exact finish text ⟨ends, length, rfl⟩
      | true =>
          have other : b ≠ 0x0A := by
            rintro rfl
            contradiction
          exact finish (b :: text) ⟨ends.tail other, Nat.le_of_succ_le length, rfl⟩

theorem agrees_readNumeral (line : Nat) (text : List UInt8) (ends : EndsLine rest) :
    Agrees (Lexed.Recurs more rest.length) Never (readNumeral line text rest)
      (readNumeral line text (rest ++ more)) := by
  cases rest with
  | nil => exact absurd rfl ends.ne_nil
  | cons b rest =>
      rw [List.cons_append, readNumeral_cons, readNumeral_cons]
      split
      · rename_i isHex
        have other : b ≠ 0x0A := by
          rintro rfl
          simp at isHex
        refine (agrees_readDigits (by decide) line _ (ends.tail other)).mono
          (fun x y recurs => ?_) fun _ => id
        exact ⟨recurs.isToken, recurs.ends, Nat.le_succ_of_le recurs.length, recurs.longer⟩
      · exact agrees_readDigits (by decide) line text ends

/-! ## Marks -/

/-- What a byte and a certain second one are. -/
def readEither (b second : UInt8) (word : Keyword) (line : Nat) (rest : List UInt8) :
    Result Lexed :=
  match rest with
  | c :: rest' =>
      if c == second then plain (.keyword word) line rest' else plain (.symbol b) line rest
  | [] => plain (.symbol b) line rest

theorem agrees_readEither (b : UInt8) {second : UInt8} (isSecond : second ≠ 0x0A) (word : Keyword)
    (line : Nat) (ends : EndsLine rest) :
    Agrees (Lexed.Recurs more rest.length) Never (readEither b second word line rest)
      (readEither b second word line (rest ++ more)) := by
  cases rest with
  | nil => exact absurd rfl ends.ne_nil
  | cons c rest =>
      rw [List.cons_append, readEither, readEither]
      split
      · rename_i same
        have other : c ≠ 0x0A := by simpa [eq_of_beq same] using isSecond
        exact agrees_plain ⟨ends.tail other, Nat.le_succ _, rfl⟩ (by simp) _
      · exact agrees_plain ⟨ends, Nat.le_refl _, rfl⟩ (by simp) _

/-- What an angle is that an equals sign or a second angle may follow. -/
def readAngle (b : UInt8) (orEqual shift : Keyword) (line : Nat) (rest : List UInt8) :
    Result Lexed :=
  match rest with
  | c :: rest' =>
      if c = 0x3D then plain (.keyword orEqual) line rest'
      else if c = b then plain (.keyword shift) line rest'
      else plain (.symbol b) line rest
  | [] => plain (.symbol b) line rest

theorem agrees_readAngle {b : UInt8} (isAngle : b ≠ 0x0A) (orEqual shift : Keyword) (line : Nat)
    (ends : EndsLine rest) :
    Agrees (Lexed.Recurs more rest.length) Never (readAngle b orEqual shift line rest)
      (readAngle b orEqual shift line (rest ++ more)) := by
  cases rest with
  | nil => exact absurd rfl ends.ne_nil
  | cons c rest =>
      rw [List.cons_append, readAngle, readAngle]
      split
      · rename_i same
        have other : c ≠ 0x0A := by simp [same]
        exact agrees_plain ⟨ends.tail other, Nat.le_succ _, rfl⟩ (by simp) _
      · split
        · rename_i same
          have other : c ≠ 0x0A := by simpa [same] using isAngle
          exact agrees_plain ⟨ends.tail other, Nat.le_succ _, rfl⟩ (by simp) _
        · exact agrees_plain ⟨ends, Nat.le_refl _, rfl⟩ (by simp) _

theorem readAngle_less (line : Nat) (rest : List UInt8) :
    readAngle 0x3C .le .shl line rest =
      match rest with
      | 0x3D :: rest => plain (.keyword .le) line rest
      | 0x3C :: rest => plain (.keyword .shl) line rest
      | _ => plain (.symbol 0x3C) line rest := by
  unfold readAngle
  split
  · split
    · simp_all
    · split <;> simp_all
  · rfl

theorem readAngle_greater (line : Nat) (rest : List UInt8) :
    readAngle 0x3E .ge .shr line rest =
      match rest with
      | 0x3D :: rest => plain (.keyword .ge) line rest
      | 0x3E :: rest => plain (.keyword .shr) line rest
      | _ => plain (.symbol 0x3E) line rest := by
  unfold readAngle
  split
  · split
    · simp_all
    · split <;> simp_all
  · rfl

/-- What a dot begins. -/
def readDot (line : Nat) (rest : List UInt8) : Result Lexed :=
  match rest with
  | 0x2E :: 0x2E :: rest => plain (.keyword .dots) line rest
  | 0x2E :: rest => plain (.keyword .concat) line rest
  | c :: _ =>
      if Numeral.isDigit c then readNumeral line [0x2E] rest else plain (.symbol 0x2E) line rest
  | [] => plain (.symbol 0x2E) line rest

theorem agrees_readDot (line : Nat) (ends : EndsLine rest) :
    Agrees (Lexed.Recurs more rest.length) Never (readDot line rest)
      (readDot line (rest ++ more)) := by
  cases rest with
  | nil => exact absurd rfl ends.ne_nil
  | cons c rest =>
      by_cases isDot : c = 0x2E
      · subst isDot
        have ends' := ends.tail (by decide)
        cases rest with
        | nil => exact absurd rfl ends'.ne_nil
        | cons d rest =>
            by_cases isDots : d = 0x2E
            · subst isDots
              exact agrees_plain ⟨ends'.tail (by decide), by simp +arith, rfl⟩ (by simp) _
            · have isConcat (bytes : List UInt8) : readDot line (0x2E :: d :: bytes) =
                  plain (.keyword .concat) line (d :: bytes) := by
                simp [readDot, isDots]
              rw [List.cons_append, List.cons_append, isConcat, isConcat]
              exact agrees_plain ⟨ends', Nat.le_succ _, rfl⟩ (by simp) _
      · have noDot (bytes : List UInt8) : readDot line (c :: bytes) =
            if Numeral.isDigit c then readNumeral line [0x2E] (c :: bytes)
            else plain (.symbol 0x2E) line (c :: bytes) := by
          simp [readDot, isDot]
        rw [List.cons_append, noDot, noDot]
        split
        · exact agrees_readNumeral line _ ends
        · exact agrees_plain ⟨ends, Nat.le_refl _, rfl⟩ (by simp) _

/-! ## Long brackets and comments -/

/-- A long bracket, from its second bracket on. -/
theorem agrees_long (more : List UInt8) (what : String) (level start line whole : Nat)
    (ends : EndsLine rest) (enough : rest.length ≤ whole) :
    Agrees (fun x y => y.1 = x.1 ∧ y.2.1 = x.2.1 ∧ Leaves more rest.length x.2.2 y.2.2)
      (Closes more level)
      (readLong what level start whole (dropFirstBreak line rest).1 []
        (dropFirstBreak line rest).2)
      (readLong what level start (whole + more.length) (dropFirstBreak line (rest ++ more)).1 []
        (dropFirstBreak line (rest ++ more)).2) := by
  obtain exhausts | ⟨same, ends', length, longer⟩ := leaves_dropFirstBreak more line ends
  · exact exhausts.closes _ _ _ _ _ _ _
  · rw [same, longer]
    refine (agrees_readLong what level start whole _ [] ends' (Nat.le_trans length enough)).mono
      (fun x y related => ?_) fun _ => id
    obtain ⟨same, same', leaves⟩ := related
    exact ⟨same, same', leaves.ends, Nat.le_trans leaves.length length, leaves.longer⟩

/-- A longer text gets out of a token: an open quote follows the token, or the longer
text fails, but not at its end. -/
def GetsOut : Result Lexed → Prop
  | .ok lexed => lexed.token ≠ .eof ∧ lexed.rest = openQuote
  | .error trouble => ¬trouble.IsAtEnd

/-- What a bracket begins. -/
def readBracket (whole line : Nat) (rest : List UInt8) : Result Lexed :=
  match Opening.ofBytes rest with
  | .long level body => do
      let (text, line, rest) ← readLong "string" level line whole (dropFirstBreak line body).1 []
        (dropFirstBreak line body).2
      let text := text.reverse
      let marks := List.replicate level (0x3D : UInt8)
      let shown := 0x5B :: marks ++ 0x5B :: text ++ 0x5D :: marks ++ [0x5D]
      .ok ⟨.string text.toByteArray, shown.toByteArray, line, rest⟩
  | .single => plain (.symbol 0x5B) line rest
  | .broken marks =>
      failNear line "invalid long string delimiter" (List.replicate marks 0x3D ++ [0x5B])

/-- A line leads out of what a bracket begins. -/
theorem agrees_readBracket (whole line : Nat) (ends : EndsLine rest)
    (enough : rest.length ≤ whole) :
    ∃ out, IsLine out ∧ ∀ more, Agrees (Lexed.Recurs more rest.length)
      (fun longer => more = out → GetsOut longer) (readBracket whole line rest)
      (readBracket (whole + more.length) line (rest ++ more)) := by
  have opening (more : List UInt8) := leaves_opening more ends
  cases found : Opening.ofBytes rest with
  | single =>
      rw [found] at opening
      refine ⟨_, isLine_openQuote, fun more => ?_⟩
      rw [readBracket, readBracket, found, opening]
      exact (agrees_plain ⟨ends, Nat.le_refl _, rfl⟩ (by simp) _).of_never
  | broken marks =>
      rw [found] at opening
      refine ⟨_, isLine_openQuote, fun more => ?_⟩
      rw [readBracket, readBracket, found, opening]
      exact .failNear _ _ _
  | long level body =>
      rw [found] at opening
      refine ⟨_, isLine_closingLine level, fun more => ?_⟩
      obtain ⟨_, found', ends', length, rfl⟩ := opening more
      rw [readBracket, readBracket, found, found']
      refine (agrees_long more "string" level line line whole ends'
        (Nat.le_trans length enough)).bind ?_ fun longer closes isOut => ?_
      · rintro ⟨text, line, left⟩ ⟨_, _, longer⟩ ⟨rfl, rfl, leaves⟩
        exact .ok (Leaves.recurs ⟨leaves.ends, Nat.le_trans leaves.length length, leaves.longer⟩
          (by simp) _ _)
      · obtain ⟨text, line, rfl⟩ := closes isOut
        exact ⟨by simp, rfl⟩

/-! ## The next token -/

/-- What is read next from a text and from the longer one: the same token, or the end
of the text, where the longer one goes on. -/
inductive NextRecurs (out more : List UInt8) (n : Nat) : Result Lexed → Result Lexed → Prop
  | token {first longer : Result Lexed} :
      Agrees (Lexed.Recurs more n) (fun longer => more = out → GetsOut longer) first longer →
      NextRecurs out more n first longer
  | finish {line : Nat} {longer : Result Lexed} :
      (more = openQuote → ∃ line, longer = failNear line "unfinished string" [0x22]) →
      NextRecurs out more n (plain .eof line []) longer

/-- What is read next from a text and from all longer ones. Some line leads out of a token
inside which the text may end. -/
def Recurs (n : Nat) (first : Result Lexed) (longer : List UInt8 → Result Lexed) : Prop :=
  ∃ out, IsLine out ∧ ∀ more, NextRecurs out more n first (longer more)

theorem Recurs.mono {n m : Nat} {first : Result Lexed} {longer : List UInt8 → Result Lexed}
    (recurs : Recurs n first longer) (fits : n ≤ m) : Recurs m first longer := by
  obtain ⟨out, ends, recurs⟩ := recurs
  refine ⟨out, ends, fun more => ?_⟩
  cases recurs more with
  | token agrees =>
      refine .token (agrees.mono (fun x y recurs => ?_) fun _ => id)
      exact ⟨recurs.isToken, recurs.ends, Nat.le_trans recurs.length fits, recurs.longer⟩
  | finish goesOn => exact .finish goesOn

theorem recurs_of_never {n : Nat} {first : Result Lexed} {longer : List UInt8 → Result Lexed}
    (agrees : ∀ more, Agrees (Lexed.Recurs more n) Never first (longer more)) :
    Recurs n first longer :=
  ⟨_, isLine_openQuote, fun more => .token (agrees more).of_never⟩

theorem next_openQuote (whole fuel line : Nat) :
    next (whole + 1) (fuel + 1) line openQuote = failNear line "unfinished string" [0x22] := rfl

/-- At the end of the text the longer one goes on. -/
theorem recurs_exhausts (n whole fuel line line' : Nat) {longer : List UInt8 → List UInt8}
    (exhausts : ∀ more, Exhausts more rest (longer more)) :
    Recurs n (next whole fuel line rest)
      (fun more => next (whole + more.length) (fuel + more.length) line' (longer more)) := by
  refine ⟨_, isLine_openQuote, fun more => ?_⟩
  have isEnd : next whole fuel line [] = plain .eof line [] := by cases fuel <;> rfl
  rw [(exhausts more).nothing, isEnd]
  refine .finish ?_
  rintro rfl
  dsimp only
  rw [(exhausts openQuote).goesOn ⟨_, _, rfl, rfl, rfl⟩]
  exact ⟨line', rfl⟩

/-- So much of a text may be left, and the next token is that of the longer text. -/
def ReadsOn (n whole fuel : Nat) : Prop :=
  ∀ (rest : List UInt8) (line : Nat), EndsLine rest → rest.length ≤ n →
    Recurs n (next whole fuel line rest)
      fun more => next (whole + more.length) (fuel + more.length) line (rest ++ more)

/-- The next token after something has been skipped. -/
theorem ReadsOn.leaves {n m whole fuel : Nat} (goOn : ReadsOn n whole fuel) (line : Nat)
    {longer : List UInt8 → List UInt8} (leaves : ∀ more, Leaves more m rest (longer more))
    (fits : m ≤ n) :
    Recurs n (next whole fuel line rest)
      fun more => next (whole + more.length) (fuel + more.length) line (longer more) := by
  have isLonger : longer = fun more => rest ++ more := funext fun more => (leaves more).longer
  rw [isLonger]
  exact goOn rest line (leaves []).ends (Nat.le_trans (leaves []).length fits)

/-- What a minus sign begins: a comment, or it is a token itself. -/
def readMinus (whole fuel line : Nat) (rest : List UInt8) : Result Lexed :=
  match rest with
  | 0x2D :: rest =>
      match rest with
      | 0x5B :: inner =>
          match Opening.ofBytes inner with
          | .long level body => do
              let (_, line, rest) ← readLong "comment" level line whole
                (dropFirstBreak line body).1 [] (dropFirstBreak line body).2
              next whole fuel line rest
          | _ => next whole fuel line (dropLine rest)
      | _ => next whole fuel line (dropLine rest)
  | _ => plain (.symbol 0x2D) line rest

/-- What comes after a long comment. -/
theorem recurs_afterComment {n whole fuel : Nat} (level : Nat)
    {first : Result (List UInt8 × Nat × List UInt8)}
    {longer : List UInt8 → Result (List UInt8 × Nat × List UInt8)}
    (goOn : ReadsOn n whole fuel)
    (agrees : ∀ more, Agrees (fun x y => y.1 = x.1 ∧ y.2.1 = x.2.1 ∧ Leaves more n x.2.2 y.2.2)
      (Closes more level) first (longer more)) :
    Recurs n (first >>= fun result => next whole fuel result.2.1 result.2.2) fun more =>
      longer more >>= fun result =>
        next (whole + more.length) (fuel + more.length) result.2.1 result.2.2 := by
  cases first with
  | ok result =>
      have same (more : List UInt8) : ∃ body, longer more =
          .ok (body, result.2.1, result.2.2 ++ more) ∧ EndsLine result.2.2 ∧
            result.2.2.length ≤ n := by
        have agrees := agrees more
        generalize longer more = longer at agrees ⊢
        cases agrees with
        | @ok _ y related =>
            obtain ⟨_, sameLine, ends, length, sameRest⟩ := related
            exact ⟨y.1, by rw [← sameLine, ← sameRest], ends, length⟩
      obtain ⟨_, _, ends, length⟩ := same []
      obtain ⟨out, isLine, recurs⟩ := goOn result.2.2 result.2.1 ends length
      refine ⟨out, isLine, fun more => ?_⟩
      obtain ⟨body, isLonger, _⟩ := same more
      dsimp only
      rw [isLonger]
      exact recurs more
  | error trouble =>
      refine ⟨_, isLine_closingLine level, fun more => .token ?_⟩
      have agrees := agrees more
      dsimp only
      generalize longer more = longer at agrees ⊢
      cases agrees with
      | failed inside => exact .failed inside
      | ended isOpen closes =>
          refine .ended isOpen fun isOut => ?_
          obtain ⟨body, line, rfl⟩ := closes isOut
          obtain ⟨n, length⟩ : ∃ n, more.length = n + 1 := by
            rw [isOut]
            exact ⟨_, List.length_cons⟩
          change GetsOut (next (whole + more.length) (fuel + more.length) line openQuote)
          rw [length, ← Nat.add_assoc, ← Nat.add_assoc, next_openQuote]
          simp [GetsOut, failNear, Trouble.IsAtEnd]

theorem recurs_readMinus (whole fuel line : Nat) (enough : rest.length ≤ whole)
    (goOn : ReadsOn rest.length whole fuel)
    (ends : EndsLine rest) :
    Recurs rest.length (readMinus whole fuel line rest)
      fun more => readMinus (whole + more.length) (fuel + more.length) line (rest ++ more) := by
  cases rest with
  | nil => exact absurd rfl ends.ne_nil
  | cons b rest =>
      by_cases isMinus : b = 0x2D
      · subst isMinus
        have ends' := ends.tail (by decide)
        have skipLine : Recurs (rest.length + 1) (next whole fuel line (dropLine rest)) fun more =>
            next (whole + more.length) (fuel + more.length) line (dropLine (rest ++ more)) :=
          goOn.leaves line (fun more => leaves_dropLine more ends') (Nat.le_succ _)
        cases rest with
        | nil => exact absurd rfl ends'.ne_nil
        | cons c inner =>
            by_cases isBracket : c = 0x5B
            · subst isBracket
              have opening (more : List UInt8) := leaves_opening more (ends'.tail (by decide))
              simp only [List.cons_append, readMinus] at skipLine ⊢
              cases found : Opening.ofBytes inner with
              | single =>
                  rw [found] at opening
                  simp only [opening]
                  exact skipLine
              | broken marks =>
                  rw [found] at opening
                  simp only [opening]
                  exact skipLine
              | long level body =>
                  rw [found] at opening
                  obtain ⟨_, _, ends'', length, _⟩ := opening []
                  have isLonger (more : List UInt8) :
                      Opening.ofBytes (inner ++ more) = .long level (body ++ more) := by
                    obtain ⟨longer, found', leaves⟩ := opening more
                    rw [found', leaves.longer]
                  simp only [isLonger]
                  refine recurs_afterComment level goOn fun more => ?_
                  have room := Nat.le_trans length (Nat.le_of_succ_le (Nat.le_of_succ_le enough))
                  refine (agrees_long more "comment" level line line whole ends'' room).mono
                    (fun x y ⟨same, same', leaves⟩ => ?_) fun _ => id
                  have shorter := Nat.le_trans leaves.length length
                  exact ⟨same, same', leaves.ends, Nat.le_succ_of_le (Nat.le_succ_of_le shorter),
                    leaves.longer⟩
            · simpa [readMinus, isBracket] using skipLine
      · have noComment (whole fuel : Nat) (bytes : List UInt8) :
            readMinus whole fuel line (b :: bytes) = plain (.symbol 0x2D) line (b :: bytes) := by
          simp [readMinus, isMinus]
        refine recurs_of_never fun more => ?_
        rw [List.cons_append, noComment, noComment]
        exact agrees_plain ⟨ends, Nat.le_refl _, rfl⟩ (by simp) _

/-- What a byte begins that is neither blank nor a letter nor a digit. -/
def readMark (whole fuel line : Nat) (b : UInt8) (rest : List UInt8) : Result Lexed :=
  match b with
  | 0x2D => readMinus whole fuel line rest
  | 0x5B => readBracket whole line rest
  | 0x3D => readEither 0x3D 0x3D .eq line rest
  | 0x3C => readAngle 0x3C .le .shl line rest
  | 0x3E => readAngle 0x3E .ge .shr line rest
  | 0x2F => readEither 0x2F 0x2F .idiv line rest
  | 0x7E => readEither 0x7E 0x3D .ne line rest
  | 0x3A => readEither 0x3A 0x3A .dbcolon line rest
  | 0x22 | 0x27 => readQuoted b whole line [b] rest
  | 0x2E => readDot line rest
  | _ => plain (.symbol b) line rest

theorem recurs_readMark {whole fuel : Nat} (line : Nat) {b : UInt8} (enough : rest.length ≤ whole)
    (goOn : ReadsOn rest.length whole fuel)
    (ends : EndsLine rest) :
    Recurs rest.length (readMark whole fuel line b rest)
      fun more => readMark (whole + more.length) (fuel + more.length) line b (rest ++ more) := by
  by_cases isMinus : b = 0x2D
  · subst isMinus
    exact recurs_readMinus whole fuel line enough goOn ends
  by_cases isBracket : b = 0x5B
  · subst isBracket
    obtain ⟨out, isLine, agrees⟩ := agrees_readBracket whole line ends enough
    exact ⟨out, isLine, fun more => .token (agrees more)⟩
  by_cases isQuote : b = 0x22 ∨ b = 0x27
  · refine ⟨_, isLine_letterLine, fun more => .token ?_⟩
    have agrees : Agrees (Lexed.Recurs more rest.length)
        (fun longer => more = letterLine → GetsOut longer) (readQuoted b whole line [b] rest)
        (readQuoted b (whole + more.length) line [b] (rest ++ more)) := by
      refine (agrees_readQuoted isQuote whole line [b] ends enough).mono (fun _ _ => id) ?_
      intro longer breaks isOut
      obtain ⟨trouble, rfl, inside⟩ := breaks isOut
      exact inside
    obtain rfl | rfl := isQuote <;> exact agrees
  refine recurs_of_never fun more => ?_
  unfold readMark
  split
  · exact absurd rfl isMinus
  · exact absurd rfl isBracket
  · exact agrees_readEither _ (by decide) _ _ ends
  · exact agrees_readAngle (by decide) _ _ _ ends
  · exact agrees_readAngle (by decide) _ _ _ ends
  · exact agrees_readEither _ (by decide) _ _ ends
  · exact agrees_readEither _ (by decide) _ _ ends
  · exact agrees_readEither _ (by decide) _ _ ends
  · exact absurd (.inl rfl) isQuote
  · exact absurd (.inr rfl) isQuote
  · exact agrees_readDot line ends
  · exact agrees_plain ⟨ends, Nat.le_refl _, rfl⟩ (by simp) _

/-- What a letter begins. -/
def readName (line : Nat) (b : UInt8) (rest : List UInt8) : Result Lexed :=
  let name := (b :: rest.takeWhile isLetterOrDigit).toByteArray
  let rest := rest.dropWhile isLetterOrDigit
  match Keyword.ofName? name with
  | some word => plain (.keyword word) line rest
  | none => .ok ⟨.name name, name, line, rest⟩

theorem agrees_readName (line : Nat) (b : UInt8) (ends : EndsLine rest) :
    Agrees (Lexed.Recurs more rest.length) Never (readName line b rest)
      (readName line b (rest ++ more)) := by
  obtain ⟨leaves, taken⟩ := leaves_dropWhile more (p := isLetterOrDigit) rfl ends
  unfold readName
  rw [taken]
  dsimp only
  split
  · exact agrees_plain leaves (by simp) _
  · exact .ok (leaves.recurs (by simp) _ _)

theorem next_cons (whole fuel line : Nat) (b : UInt8) (rest : List UInt8) :
    next whole (fuel + 1) line (b :: rest) =
      if isBreak b then next whole fuel (line + 1) (dropSecond b rest)
      else if Numeral.isSpace b then next whole fuel line rest
      else if isLetter b then readName line b rest
      else if Numeral.isDigit b then readNumeral line [b] rest
      else readMark whole fuel line b rest := by
  conv => lhs; unfold next
  dsimp only
  split
  · rfl
  · split
    · rfl
    · split
      · rfl
      · split
        · rfl
        · split
          · rfl
          · rfl
          · rfl
          · exact (readAngle_less line rest).symm
          · exact (readAngle_greater line rest).symm
          · rfl
          · rfl
          · rfl
          · rfl
          · rfl
          · rfl
          · rw [readMark] <;> assumption

theorem recurs_next (whole fuel line : Nat) (ends : EndsLine rest) (enough : rest.length < fuel)
    (room : rest.length ≤ whole) :
    Recurs (rest.length - 1) (next whole fuel line rest)
      fun more => next (whole + more.length) (fuel + more.length) line (rest ++ more) := by
  induction fuel generalizing line rest with
  | zero => exact absurd enough (Nat.not_lt_zero _)
  | succ fuel ih =>
      cases rest with
      | nil => exact absurd rfl ends.ne_nil
      | cons b rest =>
          have goOn : ReadsOn rest.length whole fuel := by
            intro rest' line ends length
            simp only [List.length_cons] at enough room
            exact (ih line ends (by omega) (by omega)).mono (by omega)
          simp only [List.cons_append, Nat.add_right_comm fuel 1, next_cons]
          by_cases isBlank : isBreak b
          · simp only [isBlank, reduceIte]
            by_cases nothing : dropSecond b rest = []
            · refine recurs_exhausts _ _ _ _ _ fun more => ?_
              refine (leaves_dropSecond more ends).resolve_right fun leaves => ?_
              exact leaves.ends.ne_nil nothing
            · refine goOn.leaves _ (fun more => ?_) (Nat.le_refl _)
              refine (leaves_dropSecond more ends).resolve_left fun exhausts => ?_
              exact nothing exhausts.nothing
          have other : b ≠ 0x0A := by
            rintro rfl
            exact isBlank rfl
          have ends' := ends.tail other
          have room' := Nat.le_of_succ_le room
          by_cases isSpace : Numeral.isSpace b
          · simp only [isBlank, isSpace, reduceIte]
            exact goOn rest line ends' (Nat.le_refl _)
          by_cases letter : isLetter b
          · simp only [isBlank, isSpace, letter, reduceIte]
            exact recurs_of_never fun more => agrees_readName line b ends'
          by_cases digit : Numeral.isDigit b
          · simp only [isBlank, isSpace, letter, digit, reduceIte]
            exact recurs_of_never fun more => agrees_readNumeral line [b] ends'
          simp only [isBlank, isSpace, letter, digit]
          exact recurs_readMark line room' goOn ends'

end

end LuaSession.Syntax.Lexer
