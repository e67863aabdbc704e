import LuaSession.Text.Utf8
import Mathlib.Tactic.SplitIfs

/-!
# Texts as bytes

The bytes of a text are those of its characters, one after the other, and
reading them gives the text back. A byte below 128 stands for the character with
its number, and never for a part of another one.
-/

namespace LuaSession

/-- What is left to be listed from a place on comes after what has been listed. -/
theorem toList_loop (bytes : Bytes) (count : Nat) :
    ∀ (place : Nat) (listed : List UInt8), place + count = bytes.size →
      ByteArray.toList.loop bytes place listed =
        listed.reverse ++ bytes.data.toList.drop place := by
  induction count with
  | zero =>
      intro place listed atEnd
      rw [ByteArray.toList.loop, if_neg (by omega)]
      have nothing : bytes.data.toList.drop place = [] := by
        apply List.drop_eq_nil_of_le
        rw [Array.length_toList]
        exact Nat.le_of_eq atEnd.symm
      rw [nothing, List.append_nil]
  | succ count ih =>
      intro place listed inside
      have bound : place < bytes.data.toList.length := by
        rw [Array.length_toList]
        exact (by omega : place < bytes.size)
      have current : bytes.get! place = bytes.data.toList[place] := by
        rw [Array.getElem_toList]
        exact getElem!_pos bytes.data place (by simpa using bound)
      rw [ByteArray.toList.loop, if_pos (by omega), ih (place + 1) _ (by omega), current,
        List.drop_eq_getElem_cons bound]
      simp only [List.reverse_cons, List.append_assoc, List.singleton_append]

@[simp] theorem toList_eq_data (bytes : Bytes) : bytes.toList = bytes.data.toList := by
  rw [ByteArray.toList, toList_loop bytes bytes.size 0 [] (by omega)]
  rfl

theorem toByteArray_toList (bytes : Bytes) : bytes.toList.toByteArray = bytes := by
  ext : 1
  rw [← Array.toList_inj, List.toList_data_toByteArray, toList_eq_data]

theorem toList_append (front back : Bytes) :
    (front ++ back).toList = front.toList ++ back.toList := by
  simp

namespace Utf8

/-- The bytes of characters. -/
def encode (cs : List Char) : List UInt8 := cs.flatMap String.utf8EncodeChar

@[simp] theorem encode_nil : encode [] = [] := rfl

@[simp] theorem encode_cons (c : Char) (cs : List Char) :
    encode (c :: cs) = String.utf8EncodeChar c ++ encode cs := rfl

@[simp] theorem encode_append (front back : List Char) :
    encode (front ++ back) = encode front ++ encode back := by
  simp [encode]

theorem toUTF8_eq_encode (text : String) : text.toUTF8 = (encode text.toList).toByteArray := by
  change text.toByteArray = text.toList.utf8Encode
  rw [String.utf8Encode_toList]

@[simp] theorem toList_toUTF8 (text : String) : text.toUTF8.toList = encode text.toList := by
  rw [toUTF8_eq_encode, toList_eq_data, List.toList_data_toByteArray]

/-- Reading what characters are encoded as gives their text. -/
theorem decode?_encode (cs : List Char) :
    decode? (encode cs).toByteArray = some (String.ofList cs) := by
  have valid : (encode cs).toByteArray.IsValidUTF8 := ByteArray.isValidUTF8_utf8Encode
  simp only [decode?, String.fromUTF8?, dif_pos valid, Option.some.injEq]
  rw [← String.toByteArray_inj, String.toByteArray_ofList]
  rfl

@[simp] theorem decode?_toUTF8 (text : String) : decode? text.toUTF8 = some text := by
  rw [toUTF8_eq_encode, decode?_encode, String.ofList_toList]

/-- Only the bytes of a text are read as it. -/
theorem eq_toUTF8_of_decode? {bytes : Bytes} {text : String} (read : decode? bytes = some text) :
    bytes = text.toUTF8 := by
  unfold decode? String.fromUTF8? at read
  split at read
  next valid =>
    obtain rfl := Option.some.inj read
    rfl
  next => contradiction

/-- A byte of a character's encoding is the character's number, or it is not
below 128. -/
theorem encode_byte {c : Char} {byte : UInt8} (member : byte ∈ String.utf8EncodeChar c) :
    byte.toNat = c.toNat ∨ 128 ≤ byte.toNat := by
  have number : c.val.toNat = c.toNat := rfl
  simp only [String.utf8EncodeChar] at member
  split_ifs at member <;>
    simp only [List.mem_cons, List.not_mem_nil, or_false] at member
  · left
    rw [member, UInt8.toNat_ofNat']
    omega
  · right
    rcases member with rfl | rfl <;> rw [UInt8.toNat_ofNat'] <;> omega
  · right
    rcases member with rfl | rfl | rfl <;> rw [UInt8.toNat_ofNat'] <;> omega
  · right
    rcases member with rfl | rfl | rfl | rfl <;> rw [UInt8.toNat_ofNat'] <;> omega

/-- Only a line break has the byte of a line break in its encoding. -/
theorem lineBreak_not_mem_encode {c : Char} (notBreak : c ≠ '\n') :
    (0x0A : UInt8) ∉ String.utf8EncodeChar c := by
  intro member
  rcases encode_byte member with same | large
  · exact notBreak (Char.toNat_inj.mp same.symm)
  · exact absurd large (by decide)

@[simp] theorem encode_lineBreak : String.utf8EncodeChar '\n' = [0x0A] := rfl

/-- What characters are encoded as begins with a byte that is a character by itself,
or with one from 192 on. -/
theorem encode_head {cs : List Char} {byte : UInt8} {rest : List UInt8}
    (encoded : encode cs = byte :: rest) :
    (byte.toNat < 128 ∧ ∃ later, encode later = rest) ∨ 192 ≤ byte.toNat := by
  cases cs with
  | nil => contradiction
  | cons c cs =>
      rw [encode_cons] at encoded
      simp only [String.utf8EncodeChar] at encoded
      split_ifs at encoded <;>
        obtain ⟨rfl, rfl⟩ := List.cons.inj encoded <;> rw [UInt8.toNat_ofNat']
      · exact .inl ⟨by omega, cs, rfl⟩
      all_goals exact .inr (by omega)

/-- Behind bytes below 128 comes what further characters are encoded as. -/
theorem encode_append_small {front : List UInt8} (small : ∀ byte ∈ front, byte.toNat < 128)
    {cs : List Char} {rest : List UInt8} (encoded : encode cs = front ++ rest) :
    ∃ later, encode later = rest := by
  induction front generalizing cs with
  | nil => exact ⟨cs, encoded⟩
  | cons byte front ih =>
      obtain ⟨_, later, encoded⟩ | large := encode_head encoded
      · exact ih (fun byte member => small byte (List.mem_cons_of_mem _ member)) encoded
      · have isSmall := small byte List.mem_cons_self
        omega

/-! ## Bytes that may be broken -/

/-- What a character still owes is owed in bytes from 128 on. -/
def State.Owes : State → Prop
  | .start => True
  | .inside _ low _ _ => 0x80 ≤ low

theorem owes_of_opens {b : UInt8} {state : State} (opens : Opening.ofByte b = .opens state) :
    state.Owes := by
  unfold Opening.ofByte at opens
  split_ifs at opens <;> obtain rfl := Opening.opens.inj opens <;> rw [State.Owes] <;> decide

theorem chars_start (b : UInt8) (rest : List UInt8) :
    chars .start (b :: rest) = match Opening.ofByte b with
      | .single c => c :: chars .start rest
      | .opens state => chars state rest
      | .broken => replacement :: chars .start rest := rfl

theorem chars_inside (owed : Nat) (low high : UInt8) (value : Nat) (b : UInt8)
    (rest : List UInt8) :
    chars (.inside owed low high value) (b :: rest) =
      if low ≤ b ∧ b ≤ high then
        match owed with
        | 0 => Char.ofNat (State.shift value b) :: chars .start rest
        | n + 1 => chars (.inside n 0x80 0xBF (State.shift value b)) rest
      else replacement :: chars .start (b :: rest) := by
  rw [chars_start]
  cases owed <;> cases opening : Opening.ofByte b <;> simp only [chars, opening]

/-- A byte below 128 is read by itself, whatever has been read before it. -/
theorem chars_append_small {state : State} (owes : state.Owes) (front : List UInt8) {b : UInt8}
    (small : b < 0x80) (rest : List UInt8) :
    chars state (front ++ b :: rest) = chars state front ++ chars .start (b :: rest) := by
  induction front generalizing state with
  | nil =>
      cases state with
      | start => rfl
      | inside owed low high value =>
          have notOwed : ¬(low ≤ b ∧ b ≤ high) := fun fits =>
            absurd (UInt8.le_trans owes fits.1) (UInt8.not_le.mpr small)
          rw [List.nil_append, chars_inside, if_neg notOwed]
          rfl
  | cons c front ih =>
      have begun : chars .start (front ++ b :: rest) =
          chars .start front ++ chars .start (b :: rest) := ih trivial
      have start : chars .start (c :: front ++ b :: rest) =
          chars .start (c :: front) ++ chars .start (b :: rest) := by
        rw [List.cons_append, chars_start c, chars_start c]
        cases opening : Opening.ofByte c with
        | single d => exact congrArg (d :: ·) begun
        | opens state => exact ih (owes_of_opens opening)
        | broken => exact congrArg (replacement :: ·) begun
      cases state with
      | start => exact start
      | inside owed low high value =>
          rw [List.cons_append, chars_inside, chars_inside]
          split
          · cases owed with
            | zero =>
                dsimp only
                rw [begun, List.cons_append]
            | succ owed =>
                dsimp only
                rw [ih (UInt8.le_refl _)]
          · rw [← List.cons_append, start, List.cons_append]

/-! ## Reading texts back -/

/-- The numbers of the bytes that may open a character. -/
theorem ofByte_ofNat {n : Nat} (small : n < 256) :
    Opening.ofByte (UInt8.ofNat n) =
      if n < 0x80 then .single (Char.ofNat n)
      else if n < 0xC2 then .broken
      else if n < 0xE0 then .opens (.inside 0 0x80 0xBF (n - 0xC0))
      else if n = 0xE0 then .opens (.inside 1 0xA0 0xBF 0)
      else if n = 0xED then .opens (.inside 1 0x80 0x9F (n - 0xE0))
      else if n < 0xF0 then .opens (.inside 1 0x80 0xBF (n - 0xE0))
      else if n = 0xF0 then .opens (.inside 2 0x90 0xBF 0)
      else if n < 0xF4 then .opens (.inside 2 0x80 0xBF (n - 0xF0))
      else if n = 0xF4 then .opens (.inside 2 0x80 0x8F (n - 0xF0))
      else .broken := by
  have number : (UInt8.ofNat n).toNat = n := UInt8.toNat_ofNat_of_lt' small
  simp only [Opening.ofByte, UInt8.lt_iff_toNat_lt, beq_iff_eq, ← UInt8.toNat_inj, number,
    UInt8.reduceToNat]

/-- A byte that goes on with a character. -/
theorem chars_goes_on {low high : UInt8} {n : Nat} (fits : low.toNat ≤ n ∧ n ≤ high.toNat)
    (owed value : Nat) (rest : List UInt8) :
    chars (.inside owed low high value) (UInt8.ofNat n :: rest) =
      match owed with
      | 0 => Char.ofNat (value * 64 + (n - 0x80)) :: chars .start rest
      | owed + 1 => chars (.inside owed 0x80 0xBF (value * 64 + (n - 0x80))) rest := by
  have number : (UInt8.ofNat n).toNat = n :=
    UInt8.toNat_ofNat_of_lt' (Nat.lt_of_le_of_lt fits.2 high.toNat_lt)
  have isNext : low ≤ UInt8.ofNat n ∧ UInt8.ofNat n ≤ high := by
    simpa only [UInt8.le_iff_toNat_le, number] using fits
  have shifted : State.shift value (UInt8.ofNat n) = value * 64 + (n - 0x80) :=
    congrArg (fun byte => value * 64 + (byte - 0x80)) number
  rw [chars_inside, if_pos isNext, ← shifted]

/-- A character is read from what it is encoded as. -/
theorem chars_encodeChar (c : Char) (rest : List UInt8) :
    chars .start (String.utf8EncodeChar c ++ rest) = c :: chars .start rest := by
  have valid := c.valid
  have number {n : Nat} (same : n = c.val.toNat) : Char.ofNat n = c :=
    same ▸ Char.ofNat_toNat c
  simp only [UInt32.isValidChar, Nat.isValidChar] at valid
  simp only [String.utf8EncodeChar]
  generalize c.val.toNat = v at valid number ⊢
  split_ifs with one two three <;>
    simp only [List.cons_append, List.nil_append] <;>
    rw [chars_start, ofByte_ofNat (by omega)]
  · rw [if_pos (by omega), number rfl]
  · rw [if_neg (by omega), if_neg (by omega), if_pos (by omega)]
    dsimp only
    rw [chars_goes_on (by simp only [UInt8.reduceToNat]; omega), number (by omega)]
  · rw [if_neg (by omega), if_neg (by omega), if_neg (by omega)]
    split_ifs <;> dsimp only <;> try omega
    all_goals
      rw [chars_goes_on (by simp only [UInt8.reduceToNat]; omega)]
      dsimp only
      rw [chars_goes_on (by simp only [UInt8.reduceToNat]; omega), number (by omega)]
  · rw [if_neg (by omega), if_neg (by omega), if_neg (by omega), if_neg (by omega),
      if_neg (by omega), if_neg (by omega)]
    split_ifs <;> dsimp only <;> try omega
    all_goals
      rw [chars_goes_on (by simp only [UInt8.reduceToNat]; omega)]
      dsimp only
      rw [chars_goes_on (by simp only [UInt8.reduceToNat]; omega)]
      dsimp only
      rw [chars_goes_on (by simp only [UInt8.reduceToNat]; omega), number (by omega)]

/-- Characters are read from what they are encoded as, whatever comes behind. -/
theorem chars_encode_append (cs : List Char) (rest : List UInt8) :
    chars .start (encode cs ++ rest) = cs ++ chars .start rest := by
  induction cs with
  | nil => rfl
  | cons c cs ih =>
      rw [encode_cons, List.append_assoc, chars_encodeChar, ih, List.cons_append]

theorem chars_encode (cs : List Char) : chars .start (encode cs) = cs := by
  simpa using (chars_encode_append cs []).trans (List.append_nil cs)

/-- A text is read back from its bytes. -/
theorem lossy_toUTF8 (text : String) : lossy text.toUTF8 = text := by
  rw [lossy, toList_toUTF8, chars_encode, String.ofList_toList]

end Utf8

end LuaSession
