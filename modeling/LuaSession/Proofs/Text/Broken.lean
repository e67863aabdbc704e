import LuaSession.Proofs.Text.Encoding
import Mathlib.Order.Basic

/-!
# Bytes that are cut or broken

A reading of broken bytes says by its replacement characters that they are broken: where it
has none, the bytes are those of the text. Two byte strings are read one after the other as
they are read together, unless the cut between them goes through a character, or through a
broken part that counts as one; then more characters are read, and they are replacements.
-/

namespace LuaSession.Utf8

/-- The bytes that open a character of several bytes, and what they owe. -/
theorem opens_cases {b : UInt8} {state : State} (opens : Opening.ofByte b = .opens state) :
    (0xC2 ≤ b.toNat ∧ b.toNat < 0xE0 ∧ state = .inside 0 0x80 0xBF (b.toNat - 0xC0)) ∨
    (0xE0 ≤ b.toNat ∧ b.toNat < 0xF0 ∧ ∃ low high, state = .inside 1 low high (b.toNat - 0xE0) ∧
      0x80 ≤ low.toNat ∧ high.toNat ≤ 0xBF ∧ (b.toNat = 0xE0 → 0xA0 ≤ low.toNat) ∧
      (b.toNat = 0xED → high.toNat ≤ 0x9F)) ∨
    (0xF0 ≤ b.toNat ∧ b.toNat ≤ 0xF4 ∧ ∃ low high, state = .inside 2 low high (b.toNat - 0xF0) ∧
      0x80 ≤ low.toNat ∧ high.toNat ≤ 0xBF ∧ (b.toNat = 0xF0 → 0x90 ≤ low.toNat) ∧
      (b.toNat = 0xF4 → high.toNat ≤ 0x8F)) := by
  have bytes := ofByte_ofNat b.toNat_lt
  rw [UInt8.ofNat_toNat, opens] at bytes
  generalize b.toNat = n at bytes ⊢
  split_ifs at bytes
  all_goals obtain rfl := Opening.opens.inj bytes
  · exact .inl ⟨by omega, by omega, rfl⟩
  · subst n
    exact .inr (.inl ⟨by decide, by decide, _, _, rfl, by decide⟩)
  · subst n
    exact .inr (.inl ⟨by decide, by decide, _, _, rfl, by decide⟩)
  · refine .inr (.inl ⟨by omega, by omega, _, _, rfl, by decide, by decide, ?_, ?_⟩) <;>
      exact fun same => by omega
  · subst n
    exact .inr (.inr ⟨by decide, by decide, _, _, rfl, by decide⟩)
  · refine .inr (.inr ⟨by omega, by omega, _, _, rfl, by decide, by decide, ?_, ?_⟩) <;>
      exact fun same => by omega
  · subst n
    exact .inr (.inr ⟨by decide, by decide, _, _, rfl, by decide⟩)

/-! ## What is read without a replacement -/

/-- The bytes that have been read of a character. -/
inductive Pending : List UInt8 → State → Prop where
  | opened {b : UInt8} {state : State} (opens : Opening.ofByte b = .opens state) :
      Pending [b] state
  | further {front : List UInt8} {owed value : Nat} {low high b : UInt8}
      (pending : Pending front (.inside (owed + 1) low high value)) (fits : low ≤ b ∧ b ≤ high) :
      Pending (front ++ [b]) (.inside owed 0x80 0xBF (State.shift value b))

theorem utf8EncodeChar_ofNat {n : Nat} (valid : n < 0xD800 ∨ 0xDFFF < n ∧ n < 0x110000) :
    String.utf8EncodeChar (Char.ofNat n) =
      if n ≤ 0x7F then [UInt8.ofNat n]
      else if n ≤ 0x7FF then [UInt8.ofNat (n / 64 % 32 + 192), UInt8.ofNat (n % 64 + 128)]
      else if n ≤ 0xFFFF then
        [UInt8.ofNat (n / 4096 % 16 + 224), UInt8.ofNat (n / 64 % 64 + 128),
          UInt8.ofNat (n % 64 + 128)]
      else
        [UInt8.ofNat (n / 262144 % 8 + 240), UInt8.ofNat (n / 4096 % 64 + 128),
          UInt8.ofNat (n / 64 % 64 + 128), UInt8.ofNat (n % 64 + 128)] := by
  have number : (Char.ofNat n).val.toNat = n := by
    rw [Char.ofNat, dif_pos valid]
    rfl
  simp only [String.utf8EncodeChar, number]

theorem ofNat_eq {n : Nat} {b : UInt8} (same : n = b.toNat) : UInt8.ofNat n = b := by
  rw [same, UInt8.ofNat_toNat]

theorem Pending.length_pos {front : List UInt8} {state : State} (pending : Pending front state) :
    0 < front.length := by
  cases pending <;> simp

/-- Three bytes at most are owed behind the first one. -/
theorem Pending.owed_le {front : List UInt8} {owed value : Nat} {low high : UInt8}
    (pending : Pending front (.inside owed low high value)) : owed + front.length ≤ 3 := by
  generalize isState : State.inside owed low high value = state at pending
  induction pending generalizing owed low high value with
  | opened opens =>
      subst isState
      obtain ⟨_, _, is⟩ | ⟨_, _, _, _, is, _⟩ | ⟨_, _, _, _, is, _⟩ := opens_cases opens
      all_goals
        have isOwed := (State.inside.inj is).1
        rw [List.length_singleton]
        omega
  | further pending fits ih =>
      have bound := ih rfl
      rw [(State.inside.inj isState).1, List.length_append, List.length_singleton]
      omega

/-- The byte that ends a character: the character is encoded as what has been read. -/
theorem Pending.ends {front : List UInt8} {value : Nat} {low high b : UInt8}
    (pending : Pending front (.inside 0 low high value)) (fits : low ≤ b ∧ b ≤ high) :
    String.utf8EncodeChar (Char.ofNat (State.shift value b)) = front ++ [b] := by
  have number : State.shift value b = value * 64 + (b.toNat - 0x80) := rfl
  generalize State.shift value b = n at number ⊢
  simp only [UInt8.le_iff_toNat_le] at fits
  cases pending with
  | @opened first _ opens =>
      obtain ⟨least, most, is⟩ | ⟨_, _, _, _, is, _⟩ | ⟨_, _, _, _, is, _⟩ := opens_cases opens
      · obtain ⟨_, rfl, rfl, isValue⟩ := State.inside.inj is
        simp only [UInt8.reduceToNat] at fits
        rw [utf8EncodeChar_ofNat (n := n) (by omega), if_neg (by omega), if_pos (by omega)]
        simp only [List.cons_append, List.nil_append, List.cons.injEq, and_true]
        exact ⟨ofNat_eq (by omega), ofNat_eq (by omega)⟩
      · simp at is
      · simp at is
  | @further front _ value low' high' second pending fits' =>
      have number' : State.shift value second = value * 64 + (second.toNat - 0x80) := rfl
      simp only [UInt8.le_iff_toNat_le, UInt8.reduceToNat] at fits fits'
      cases pending with
      | @opened first _ opens =>
          obtain ⟨_, _, is⟩ | ⟨least, most, _, _, is, bounds⟩ | ⟨_, _, _, _, is, _⟩ :=
            opens_cases opens
          · simp at is
          · obtain ⟨_, rfl, rfl, isValue⟩ := State.inside.inj is
            rw [utf8EncodeChar_ofNat (n := n) (by omega), if_neg (by omega), if_neg (by omega),
              if_pos (by omega)]
            simp only [List.cons_append, List.nil_append, List.cons.injEq, and_true]
            exact ⟨ofNat_eq (by omega), ofNat_eq (by omega), ofNat_eq (by omega)⟩
          · simp at is
      | @further front _ value low'' high'' third pending fits'' =>
          have number'' : State.shift value third = value * 64 + (third.toNat - 0x80) := rfl
          simp only [UInt8.le_iff_toNat_le, UInt8.reduceToNat] at fits' fits''
          cases pending with
          | @opened first _ opens =>
              obtain ⟨_, _, is⟩ | ⟨_, _, _, _, is, _⟩ | ⟨least, most, _, _, is, bounds⟩ :=
                opens_cases opens
              · simp at is
              · simp at is
              · obtain ⟨_, rfl, rfl, isValue⟩ := State.inside.inj is
                rw [utf8EncodeChar_ofNat (n := n) (by omega), if_neg (by omega),
                  if_neg (by omega), if_neg (by omega)]
                simp only [List.cons_append, List.nil_append, List.cons.injEq, and_true]
                exact ⟨ofNat_eq (by omega), ofNat_eq (by omega), ofNat_eq (by omega),
                  ofNat_eq (by omega)⟩
          | @further front _ _ _ _ _ pending _ =>
              have bound := pending.owed_le
              have nonempty := pending.length_pos
              omega

/-- Where a reading stands after some bytes. -/
def readTo : State → List UInt8 → State
  | state, [] => state
  | .start, b :: rest =>
      match Opening.ofByte b with
      | .opens state => readTo state rest
      | _ => readTo .start rest
  | .inside owed low high value, b :: rest =>
      if low ≤ b ∧ b ≤ high then
        match owed with
        | 0 => readTo .start rest
        | n + 1 => readTo (.inside n 0x80 0xBF (State.shift value b)) rest
      else
        match Opening.ofByte b with
        | .opens state => readTo state rest
        | _ => readTo .start rest

/-- A byte goes on with the character that is being read. -/
def State.Takes : State → UInt8 → Prop
  | .start, _ => False
  | .inside _ low high _, b => low ≤ b ∧ b ≤ high

/-- A cut between two byte strings goes through a character, or through a broken part that
counts as one. -/
def Splits (front back : List UInt8) : Prop := ∃ b ∈ back.head?, (readTo .start front).Takes b

/-- What is owed is owed in bytes that no character begins with. -/
def State.IsProper : State → Prop
  | .start => True
  | .inside _ low high _ => 0x80 ≤ low ∧ high ≤ 0xBF

theorem isProper_of_opens {b : UInt8} {state : State} (opens : Opening.ofByte b = .opens state) :
    state.IsProper := by
  obtain ⟨_, _, rfl⟩ | ⟨_, _, low, high, rfl, bounds⟩ | ⟨_, _, low, high, rfl, bounds⟩ :=
    opens_cases opens
  · exact ⟨by decide, by decide⟩
  · exact ⟨UInt8.le_iff_toNat_le.mpr bounds.1, UInt8.le_iff_toNat_le.mpr bounds.2.1⟩
  · exact ⟨UInt8.le_iff_toNat_le.mpr bounds.1, UInt8.le_iff_toNat_le.mpr bounds.2.1⟩

theorem readTo_start (b : UInt8) (rest : List UInt8) :
    readTo .start (b :: rest) = match Opening.ofByte b with
      | .opens state => readTo state rest
      | _ => readTo .start rest := rfl

theorem readTo_inside (owed : Nat) (low high : UInt8) (value : Nat) (b : UInt8)
    (rest : List UInt8) :
    readTo (.inside owed low high value) (b :: rest) =
      if low ≤ b ∧ b ≤ high then
        match owed with
        | 0 => readTo .start rest
        | n + 1 => readTo (.inside n 0x80 0xBF (State.shift value b)) rest
      else readTo .start (b :: rest) := by
  rw [readTo_start]
  cases owed <;> rfl

/-- A byte that a character goes on with is broken by itself. -/
theorem chars_start_of_takes {state : State} (isProper : state.IsProper) {b : UInt8}
    (takes : state.Takes b) (rest : List UInt8) :
    chars .start (b :: rest) = replacement :: chars .start rest := by
  cases state with
  | start => exact takes.elim
  | inside owed low high value =>
      have least : 128 ≤ b.toNat := UInt8.le_iff_toNat_le.mp (UInt8.le_trans isProper.1 takes.1)
      have most : b.toNat ≤ 191 := UInt8.le_iff_toNat_le.mp (UInt8.le_trans takes.2 isProper.2)
      have broken := ofByte_ofNat b.toNat_lt
      rw [UInt8.ofNat_toNat, if_neg (by omega), if_pos (by omega)] at broken
      rw [chars_start, broken]

/-- A character that is being read counts as one at most. -/
theorem length_chars_le {state : State} (isProper : state.IsProper) (bytes : List UInt8) :
    (chars state bytes).length ≤ (chars .start bytes).length + 1 := by
  induction bytes generalizing state with
  | nil => cases state <;> simp [chars]
  | cons b bytes ih =>
      cases state with
      | start => omega
      | inside owed low high value =>
          rw [chars_inside]
          split
          next fits =>
            rw [chars_start_of_takes isProper (b := b) fits, List.length_cons]
            cases owed with
            | zero =>
                rw [List.length_cons]
                omega
            | succ owed =>
                have proper : (State.inside owed 0x80 0xBF (State.shift value b)).IsProper :=
                  ⟨UInt8.le_refl _, UInt8.le_refl _⟩
                have bound := ih proper
                dsimp only
                omega
          next => exact Nat.le_of_eq List.length_cons

/-- A byte that goes on with a character is read as less than by itself. -/
theorem length_chars_lt {state : State} (isProper : state.IsProper) {b : UInt8}
    (takes : state.Takes b) (rest : List UInt8) :
    (chars state (b :: rest)).length < (chars .start (b :: rest)).length + 1 := by
  rw [chars_start_of_takes isProper takes, List.length_cons]
  cases state with
  | start => exact takes.elim
  | inside owed low high value =>
      rw [chars_inside, if_pos (by exact takes)]
      cases owed with
      | zero =>
          rw [List.length_cons]
          omega
      | succ owed =>
          have proper : (State.inside owed 0x80 0xBF (State.shift value b)).IsProper :=
            ⟨UInt8.le_refl _, UInt8.le_refl _⟩
          have bound := length_chars_le proper rest
          dsimp only
          omega

theorem isProper_readTo {state : State} (isProper : state.IsProper) (bytes : List UInt8) :
    (readTo state bytes).IsProper := by
  induction bytes generalizing state with
  | nil => exact isProper
  | cons b bytes ih =>
      have start : (readTo .start (b :: bytes)).IsProper := by
        rw [readTo_start]
        cases opening : Opening.ofByte b with
        | opens state => exact ih (isProper_of_opens opening)
        | _ => exact ih trivial
      cases state with
      | start => exact start
      | inside owed low high value =>
          rw [readTo_inside]
          split
          · cases owed with
            | zero => exact ih trivial
            | succ owed => exact ih ⟨UInt8.le_refl _, UInt8.le_refl _⟩
          · exact start

theorem readTo_append (state : State) (front back : List UInt8) :
    readTo state (front ++ back) = readTo (readTo state front) back := by
  induction front generalizing state with
  | nil => rfl
  | cons b front ih =>
      have start : readTo .start (b :: front ++ back) =
          readTo (readTo .start (b :: front)) back := by
        rw [List.cons_append, readTo_start, readTo_start]
        cases Opening.ofByte b <;> exact ih _
      cases state with
      | start => exact start
      | inside owed low high value =>
          rw [List.cons_append, readTo_inside, readTo_inside]
          split
          · cases owed <;> exact ih _
          · exact start

/-- A byte that does not go on with a character begins anew. -/
theorem readTo_of_not_takes {state : State} {b : UInt8} (begins : ¬state.Takes b)
    (rest : List UInt8) : readTo state (b :: rest) = readTo .start (b :: rest) := by
  cases state with
  | start => rfl
  | inside owed low high value => rw [readTo_inside, if_neg (by exact begins)]

/-- A reading goes on from where it stands, whatever comes. -/
theorem exists_chars_append (state : State) (front : List UInt8) :
    ∃ read, ∀ back, chars state (front ++ back) = read ++ chars (readTo state front) back := by
  induction front generalizing state with
  | nil => exact ⟨[], fun back => rfl⟩
  | cons b front ih =>
      have start : ∃ read, ∀ back, chars .start (b :: front ++ back) =
          read ++ chars (readTo .start (b :: front)) back := by
        simp only [List.cons_append, chars_start, readTo_start]
        cases opening : Opening.ofByte b with
        | single c =>
            obtain ⟨read, goesOn⟩ := ih .start
            exact ⟨c :: read, fun back => congrArg (c :: ·) (goesOn back)⟩
        | opens state => exact ih state
        | broken =>
            obtain ⟨read, goesOn⟩ := ih .start
            exact ⟨replacement :: read, fun back => congrArg (replacement :: ·) (goesOn back)⟩
      cases state with
      | start => exact start
      | inside owed low high value =>
          simp only [List.cons_append, chars_inside, readTo_inside]
          split
          · cases owed with
            | zero =>
                obtain ⟨read, goesOn⟩ := ih .start
                exact ⟨Char.ofNat (State.shift value b) :: read,
                  fun back => congrArg (Char.ofNat (State.shift value b) :: ·) (goesOn back)⟩
            | succ owed => exact ih _
          · obtain ⟨read, goesOn⟩ := start
            exact ⟨replacement :: read, fun back => congrArg (replacement :: ·) (goesOn back)⟩

variable {front back : List UInt8}

/-- Byte strings are read one after the other as they are read together, if the cut between
them splits nothing. -/
theorem chars_append (whole : ¬Splits front back) :
    chars .start (front ++ back) = chars .start front ++ chars .start back := by
  obtain ⟨read, goesOn⟩ := exists_chars_append .start front
  have alone := goesOn []
  rw [List.append_nil] at alone
  rw [goesOn, alone, List.append_assoc]
  refine congrArg (read ++ ·) ?_
  cases stands : readTo .start front with
  | start => rfl
  | inside owed low high value =>
      cases back with
      | nil => rfl
      | cons b back =>
          have notTaken : ¬(low ≤ b ∧ b ≤ high) := fun takes =>
            whole ⟨b, rfl, by rw [stands]; exact takes⟩
          rw [chars_inside, if_neg notTaken]
          rfl

/-- Otherwise more characters are read. -/
theorem length_chars_append_lt (splits : Splits front back) :
    (chars .start (front ++ back)).length <
      (chars .start front ++ chars .start back).length := by
  obtain ⟨b, isNext, takes⟩ := splits
  obtain ⟨rest, rfl⟩ := List.head?_eq_some_iff.mp isNext
  obtain ⟨read, goesOn⟩ := exists_chars_append .start front
  have alone := goesOn []
  rw [List.append_nil] at alone
  have starts : State.start.IsProper := trivial
  have isProper := isProper_readTo starts front
  have fewer := length_chars_lt isProper takes rest
  have one : (chars (readTo .start front) []).length = 1 := by
    cases stands : readTo .start front with
    | start =>
        rw [stands] at takes
        exact takes.elim
    | inside owed low high value => rfl
  rw [goesOn, alone, List.append_assoc, List.length_append, List.length_append,
    List.length_append, one]
  omega

theorem chars_append_iff :
    chars .start (front ++ back) = chars .start front ++ chars .start back ↔
      ¬Splits front back := by
  refine ⟨fun same splits => ?_, chars_append⟩
  have fewer := length_chars_append_lt splits
  rw [same] at fewer
  exact Nat.lt_irrefl _ fewer

/-- A cut splits the same in what comes behind a cut that splits nothing. -/
theorem Splits.append_left {piece : List UInt8} {before after : List (List UInt8)}
    (splits : Splits before.flatten after.flatten)
    (whole : ¬Splits piece (before ++ after).flatten) :
    Splits (piece :: before).flatten after.flatten := by
  obtain ⟨b, isNext, takes⟩ := splits
  refine ⟨b, isNext, ?_⟩
  rw [List.flatten_cons, readTo_append]
  cases bytes : before.flatten with
  | nil =>
      rw [bytes] at takes
      exact takes.elim
  | cons c rest =>
      have begins : ¬(readTo .start piece).Takes c := fun takes =>
        whole ⟨c, by rw [List.flatten_append, bytes]; rfl, takes⟩
      rw [readTo_of_not_takes begins, ← bytes]
      exact takes

/-! ## Several cuts -/

/-- Some of the cuts between pieces of a byte string splits a character. -/
def SplitsSome (pieces : List (List UInt8)) : Prop :=
  ∃ before after, pieces = before ++ after ∧ Splits before.flatten after.flatten

/-- No more characters are read from the whole than from its pieces. -/
theorem length_chars_flatten_le (pieces : List (List UInt8)) :
    (chars .start pieces.flatten).length ≤ (pieces.flatMap (chars .start)).length := by
  induction pieces with
  | nil => exact Nat.le_refl _
  | cons piece pieces ih =>
      have bound : (chars .start (piece ++ pieces.flatten)).length ≤
          (chars .start piece ++ chars .start pieces.flatten).length := by
        by_cases splits : Splits piece pieces.flatten
        · exact Nat.le_of_lt (length_chars_append_lt splits)
        · exact Nat.le_of_eq (congrArg List.length (chars_append splits))
      rw [List.flatten_cons, List.flatMap_cons, List.length_append]
      rw [List.length_append] at bound
      omega

/-- Pieces are read as the whole that they make, if and only if no cut between them splits
anything. -/
theorem chars_flatten_iff (pieces : List (List UInt8)) :
    pieces.flatMap (chars .start) = chars .start pieces.flatten ↔ ¬SplitsSome pieces := by
  constructor
  · rintro same ⟨before, after, rfl, splits⟩
    have fewer := length_chars_append_lt splits
    have first := length_chars_flatten_le before
    have second := length_chars_flatten_le after
    rw [← List.flatten_append, ← same, List.flatMap_append, List.length_append,
      List.length_append] at fewer
    omega
  · intro whole
    induction pieces with
    | nil => rfl
    | cons piece pieces ih =>
        have first : ¬Splits piece pieces.flatten := fun splits =>
          whole ⟨[piece], pieces, rfl, by simpa using splits⟩
        have rest : ¬SplitsSome pieces := by
          rintro ⟨before, after, rfl, splits⟩
          exact whole ⟨piece :: before, after, rfl, splits.append_left first⟩
        rw [List.flatMap_cons, ih rest, List.flatten_cons, chars_append first]

end LuaSession.Utf8
