import Mathlib.Algebra.Group.Nat.Defs
import LuaSession.Proofs.Script.Table

/-!
# Tables that are filled from the front

A table to which values are given one after the other, at the keys from one on, has them
in its array, whenever it is laid out anew on the way. Its length is their number.
-/

namespace LuaSession.Script.Table

/-- A table that has values at the keys from one on, with room for more in its array. -/
def listing (values : List Value) (room : Nat) : Table where
  array := (values ++ List.replicate room Value.nil).toArray

/-- A table has been filled with values. Not more than half of its array is free. -/
structure Fills (values : List Value) (t : Table) : Prop where
  present : ∀ value ∈ values, value ≠ .nil
  listed : ∃ room ≤ values.length, t = listing values room

theorem fills_empty : Fills [] {} := ⟨by simp, 0, Nat.le_refl 0, rfl⟩

/-! ## Counting keys -/

/-- How many keys there are in the bins before the one of a number. -/
def inBins (bins : Array Nat) : Nat → Nat
  | 0 => 0
  | b + 1 => inBins bins b + bins.getD b 0

/-- The bins in which the keys from one on have been counted. -/
def counted : Nat → Array Nat
  | 0 => Array.replicate 65 0
  | n + 1 => countKey (counted n) (n + 1)

theorem size_counted (n : Nat) : (counted n).size = 65 := by
  induction n with
  | zero => simp [counted]
  | succ n ih => rw [counted, countKey, Array.size_modify, ih]

theorem inBins_modify (bins : Array Nat) (bin b : Nat) (inside : b ≤ bins.size) :
    inBins (bins.modify bin (· + 1)) b = inBins bins b + if bin < b then 1 else 0 := by
  induction b with
  | zero => simp [inBins]
  | succ b ih =>
      rw [inBins, inBins, ih (Nat.le_of_succ_le inside), Array.getD_eq_getD_getElem?,
        Array.getD_eq_getD_getElem?, Array.getElem?_modify, Array.getElem?_eq_getElem inside]
      by_cases same : bin = b
      · simp [same, Nat.add_assoc]
      · rw [if_neg same]
        by_cases before : bin < b
        · rw [if_pos before, if_pos (Nat.lt_succ_of_lt before)]
          omega
        · rw [if_neg before, if_neg (by omega), Nat.add_zero, Nat.add_zero]

/-- The bin of a key lies before another one if the key is at most its power of two. -/
theorem inBins_countKey (bins : Array Nat) {n b : Nat} (inside : b < bins.size) :
    inBins (countKey bins n) (b + 1) = inBins bins (b + 1) + if n ≤ 2 ^ b then 1 else 0 := by
  rw [countKey, inBins_modify _ _ _ inside]
  congr 2
  refine propext ?_
  by_cases one : n ≤ 1
  · have least : 1 ≤ 2 ^ b := Nat.one_le_two_pow
    rw [if_pos one]
    omega
  · have log := Nat.log2_lt (n := n - 1) (k := b) (by omega)
    rw [if_neg one]
    omega

theorem inBins_counted (n : Nat) {b : Nat} (inside : b < 65) :
    inBins (counted n) (b + 1) = min n (2 ^ b) := by
  induction n with
  | zero =>
      have none (b : Nat) : inBins (counted 0) b = 0 := by
        induction b with
        | zero => rfl
        | succ b ih =>
            rw [inBins, ih, counted, Array.getD_eq_getD_getElem?, Array.getElem?_replicate]
            split <;> rfl
      rw [none, Nat.zero_min]
  | succ n ih =>
      rw [counted, inBins_countKey _ (size_counted n ▸ inside), ih]
      split <;> omega

/-- The best size for keys from one on is the next power of two. -/
theorem bestSize_counted {n : Nat} (few : n < 2 ^ 62) (fuel b : Nat) (all : b + fuel = 63)
    (more : 2 ^ b < 2 * n) :
    ∃ e < 64, bestSize (counted n) n fuel (b + 1) (min n (2 ^ b)) (2 ^ b) = 2 ^ e ∧ n ≤ 2 ^ e ∧
      2 ^ e < 2 * n := by
  induction fuel generalizing b with
  | zero =>
      obtain rfl : b = 63 := all
      omega
  | succ fuel ih =>
      have half : 1 <<< (b + 1) / 2 = 2 ^ b := by
        rw [Nat.one_shiftLeft, Nat.pow_succ, Nat.mul_div_cancel _ Nat.two_pos]
      unfold bestSize
      rw [half]
      split
      next enough => exact ⟨b, by omega, rfl, enough, more⟩
      next less =>
        have below : min n (2 ^ b) + (counted n).getD (b + 1) 0 = min n (2 ^ (b + 1)) := by
          have before := inBins_counted n (b := b) (by omega)
          have after := inBins_counted n (b := b + 1) (by omega)
          rw [← before, ← after]
          rfl
        have fits : 2 ^ b < min n (2 ^ (b + 1)) := by
          have positive := Nat.two_pow_pos b
          rw [Nat.pow_succ]
          omega
        dsimp only
        rw [below, if_pos fits, Nat.one_shiftLeft]
        exact ih (b + 1) (by omega) (by rw [Nat.pow_succ]; omega)

/-- Keys from one on are counted one by one. -/
theorem foldl_counted (values : List Value) (present : ∀ value ∈ values, value ≠ .nil) (n : Nat) :
    values.foldl (fun (acc : Array Nat × Nat × Nat) value =>
      if value.isNil then (acc.1, acc.2.1, acc.2.2 + 1)
      else (countKey acc.1 acc.2.2, acc.2.1 + 1, acc.2.2 + 1)) (counted n, n, n + 1) =
        (counted (n + values.length), n + values.length, n + values.length + 1) := by
  induction values generalizing n with
  | nil => rfl
  | cons value rest ih =>
      obtain ⟨isPresent, others⟩ := List.forall_mem_cons.mp present
      have notNil : ¬value.isNil := fun isNil => isPresent (eq_nil_of_isNil isNil)
      rw [List.foldl_cons]
      dsimp only
      rw [if_neg notNil]
      refine (ih others (n + 1)).trans ?_
      rw [List.length_cons, Nat.add_right_comm, Nat.add_assoc]

/-! ## Laying a full table out anew -/

/-- All bins up to that of a size are in the array. -/
theorem foldl_inArray (bins : Array Nat) {e : Nat} (m : Nat) :
    (List.range m).foldl
      (fun acc b => if 1 <<< b ≤ 2 ^ e then acc + bins.getD b 0 else acc) 0 =
        inBins bins (min m (e + 1)) := by
  induction m with
  | zero => rw [Nat.zero_min]; rfl
  | succ m ih =>
      have within : 2 ^ m ≤ 2 ^ e ↔ m ≤ e := Nat.pow_le_pow_iff_right (by decide)
      rw [List.range_succ, List.foldl_append, ih, List.foldl_cons, List.foldl_nil, Nat.one_shiftLeft]
      by_cases inside : m ≤ e
      · rw [if_pos (within.mpr inside), Nat.min_eq_left (by omega), Nat.min_eq_left (by omega)]
        rfl
      · rw [if_neg (mt within.mp inside), Nat.min_eq_right (by omega), Nat.min_eq_right (by omega)]

theorem arrayKey?_ofNat {n : Nat} (positive : 0 < n) (small : n < 2 ^ 62) :
    arrayKey? (.ofNat n) = some n := by
  have toInt : (Int64.ofNat n).toInt = n := Int64.toInt_ofNat_of_lt (by omega)
  have least : (1 : Int64) ≤ Int64.ofNat n := by
    rw [Int64.le_iff_toInt_le, toInt]
    exact Int.ofNat_le.mpr positive
  rw [Value.ofNat, arrayKey?, if_pos least, toInt, Int.toNat_natCast]

/-- Without other pairs, a table that is laid out anew with a larger array has the same values. -/
theorem resize_listing (values : List Value) {size : Nat} (larger : values.length ≤ size) :
    (listing values 0).resize size 0 = listing values (size - values.length) := by
  have array : (listing values 0).array = values.toArray := by simp [listing]
  have pairs : (listing values 0).pairs = #[] := rfl
  have kept : values.toArray.extract 0 size = values.toArray := by
    simp [List.take_of_length_le larger]
  have spilled : values.toArray.extract size values.toArray.size = #[] := by
    simp [larger]
  unfold resize
  dsimp only
  rw [array, pairs, kept, spilled]
  simp [listing, roomFor]

/-- A full table is laid out anew with room for as many values again. -/
theorem rehash_listing {values : List Value} (present : ∀ value ∈ values, value ≠ .nil)
    (few : values.length + 1 < 2 ^ 62) :
    ∃ room ≤ values.length + 1,
      0 < room ∧ (listing values 0).rehash (.ofNat (values.length + 1)) = listing values room := by
  obtain ⟨e, inside, best, enough, more⟩ : ∃ e < 64,
      bestSize (counted (values.length + 1)) (values.length + 1) 64 0 0 0 = 2 ^ e ∧
        values.length + 1 ≤ 2 ^ e ∧ 2 ^ e < 2 * (values.length + 1) := by
    have first : 0 + (counted (values.length + 1)).getD 0 0 = min (values.length + 1) (2 ^ 0) :=
      inBins_counted (values.length + 1) (b := 0) (by decide)
    unfold bestSize
    dsimp only
    rw [if_neg (by simp), first, if_pos (by simp), Nat.one_shiftLeft]
    exact bestSize_counted few 63 0 rfl (by omega)
  have array : (listing values 0).array = values.toArray := by simp [listing]
  have pairs : (listing values 0).pairs = #[] := rfl
  have count := foldl_counted values present 0
  have all : (List.range 65).foldl (fun acc b =>
      if 1 <<< b ≤ 2 ^ e then acc + (counted (values.length + 1)).getD b 0 else acc) 0 =
        values.length + 1 := by
    rw [foldl_inArray, Nat.min_eq_right (by omega), inBins_counted _ (by omega),
      Nat.min_eq_left enough]
  refine ⟨2 ^ e - values.length, by omega, by omega, ?_⟩
  rw [← resize_listing values (by omega)]
  unfold rehash
  rw [array, pairs, arrayKey?_ofNat (by omega) few]
  dsimp only
  rw [← Array.foldl_toList, ← Array.foldl_toList]
  rw [Nat.zero_add, Nat.zero_add] at count
  change List.foldl _ (Array.replicate 65 0, 0, 1) values = _ at count
  rw [count]
  dsimp only [List.foldl_nil]
  change (listing values 0).resize
    (bestSize (counted (values.length + 1)) (values.length + 1) 64 0 0 0) _ = _
  rw [← best] at all ⊢
  congr 1
  exact Nat.sub_eq_zero_of_le (Nat.le_of_eq all.symm)

/-! ## Putting and taking values -/

/-- The place of a key in the array. -/
theorem arrayPlace?_ofNat (t : Table) {n : Nat} (small : n < 2 ^ 62)
    (fits : t.array.size < 2 ^ 64) :
    t.arrayPlace? (Int64.ofNat n) = if 1 ≤ n ∧ n ≤ t.array.size then some (n - 1) else none := by
  have key : (Int64.ofNat n).toUInt64.toNat = n := by
    simp
    omega
  have size : t.array.size.toUInt64.toNat = t.array.size := by
    simp
    omega
  unfold arrayPlace?
  simp only [ge_iff_le, UInt64.le_iff_toNat_le, key, size]
  simp

theorem isNil_eq_false {value : Value} (present : value ≠ .nil) : value.isNil = false :=
  Bool.eq_false_iff.mpr fun isNil => present (eq_nil_of_isNil isNil)

variable {values : List Value} {t : Table}

section Listing

variable (values : List Value) (room : Nat)

theorem size_listing : (listing values room).array.size = values.length + room := by simp [listing]

/-- A value takes the first free place. -/
theorem set_listing (value : Value) :
    (listing values (room + 1)).array.setIfInBounds values.length value =
      (listing (values ++ [value]) room).array := by
  simp [listing, List.replicate_succ]

/-- The place of the first key after those that have values. -/
theorem arrayPlace?_listing (few : values.length + 1 < 2 ^ 62) (free : room ≤ values.length + 1) :
    (listing values room).arrayPlace? (Int64.ofNat (values.length + 1)) =
      if 0 < room then some values.length else none := by
  have size := size_listing values room
  rw [arrayPlace?_ofNat _ few (by omega), size]
  by_cases isFree : 0 < room
  · rw [if_pos isFree, if_pos (by omega), Nat.add_sub_cancel]
  · rw [if_neg isFree, if_neg (by omega)]

end Listing

/-- A table that is filled gets one more value. -/
theorem Fills.set (fills : Fills values t) (few : values.length + 1 < 2 ^ 62) {value : Value}
    (present : value ≠ .nil) :
    Fills (values ++ [value]) (t.set (.ofNat (values.length + 1)) value) := by
  obtain ⟨arePresent, room, free, rfl⟩ := fills
  refine ⟨by simpa [or_imp, forall_and] using ⟨arePresent, present⟩, ?_⟩
  have place := arrayPlace?_listing values room few (by omega)
  cases room with
  | succ room =>
      refine ⟨room, by simp; omega, ?_⟩
      rw [if_pos (Nat.succ_pos room)] at place
      unfold Table.set
      dsimp only [Value.ofNat]
      rw [place]
      dsimp only
      rw [set_listing]
      rfl
  | zero =>
      obtain ⟨room, enough, isFree, rehashed⟩ := rehash_listing arePresent few
      obtain ⟨room, rfl⟩ : ∃ less, room = less + 1 := ⟨room - 1, by omega⟩
      have later := arrayPlace?_listing values (room + 1) few enough
      rw [if_pos isFree] at later
      rw [if_neg (Nat.lt_irrefl 0)] at place
      refine ⟨room, by simp; omega, ?_⟩
      unfold Table.set
      dsimp only [Value.ofNat] at rehashed ⊢
      rw [place]
      dsimp only
      have absent : (listing values 0).index[Value.int (Int64.ofNat (values.length + 1))]? = none :=
        Std.HashMap.getElem?_empty
      rw [absent]
      dsimp only
      rw [isNil_eq_false present, if_neg Bool.false_ne_true,
        if_neg (show ¬(listing values 0).pairs.size < (listing values 0).capacity from
          Nat.lt_irrefl 0), rehashed]
      unfold Table.place
      dsimp only
      rw [later]
      dsimp only
      rw [set_listing]
      rfl

/-- A filled table has its values at the keys from one on. -/
theorem Fills.get (fills : Fills values t) (few : values.length < 2 ^ 62) {n : Nat}
    (inside : n < values.length) : t.get (.ofNat (n + 1)) = values[n] := by
  obtain ⟨_, room, free, rfl⟩ := fills
  have size := size_listing values room
  have place : (listing values room).arrayPlace? (Int64.ofNat (n + 1)) = some n := by
    rw [arrayPlace?_ofNat _ (by omega) (by omega), if_pos (by omega), Nat.add_sub_cancel]
  change (listing values room).getInt (Int64.ofNat (n + 1)) = values[n]
  rw [getInt, place]
  dsimp only
  rw [Array.getD_eq_getD_getElem?, listing, List.getElem?_toArray, List.getElem?_append_left inside,
    List.getElem?_eq_getElem inside, Option.getD_some]

theorem Fills.metatable (fills : Fills values t) : t.metatable = none := by
  obtain ⟨room, _, rfl⟩ := fills.listed
  rfl

/-- Searching between a present key and an absent one finds the last present one. -/
theorem bisect_eq {present : Nat → Bool} {length : Nat}
    (isPresent : ∀ n, 0 < n → (present n = true ↔ n ≤ length)) (fuel low high : Nat)
    (least : low ≤ length) (greatest : length < high) (fits : high - low ≤ 2 ^ fuel) :
    bisect present fuel low high = length := by
  induction fuel generalizing low high with
  | zero =>
      rw [bisect]
      omega
  | succ fuel ih =>
      rw [Nat.pow_succ] at fits
      rw [bisect]
      split
      · omega
      next wide =>
        dsimp only
        have found := isPresent ((low + high) / 2) (by omega)
        split
        next isPresent => exact ih _ _ (found.mp isPresent) greatest (by omega)
        next isAbsent => exact ih _ _ least (Nat.lt_of_not_le (mt found.mpr isAbsent)) (by omega)

/-- The length of a filled table is the number of its values. -/
theorem Fills.border (fills : Fills values t) (few : values.length < 2 ^ 62) :
    t.border = values.length := by
  obtain ⟨arePresent, room, free, rfl⟩ := fills
  have size := size_listing values room
  have isPresent (n : Nat) (positive : 0 < n) :
      (!((listing values room).array.getD (n - 1) .nil).isNil) = true ↔ n ≤ values.length := by
    rw [Array.getD_eq_getD_getElem?, listing, List.getElem?_toArray]
    by_cases inside : n - 1 < values.length
    · rw [List.getElem?_append_left inside, List.getElem?_eq_getElem inside, Option.getD_some,
        isNil_eq_false (arePresent _ (List.getElem_mem inside))]
      exact iff_of_true rfl (by omega)
    · rw [List.getElem?_append_right (by omega), List.getElem?_replicate]
      refine iff_of_false ?_ (by omega)
      split <;> simp [Value.isNil]
  unfold border
  dsimp only
  rw [size]
  by_cases isFree : 0 < room
  · have absent := mt (isPresent (values.length + room) (by omega)).mp (by omega)
    rw [if_pos (Bool.and_eq_true_iff.mpr ⟨decide_eq_true (by omega), by simpa using absent⟩)]
    split
    next two =>
      obtain ⟨wide, found⟩ := Bool.and_eq_true_iff.mp two
      have before := (isPresent (values.length + room - 1) (by simp at wide; omega)).mp found
      omega
    next => exact bisect_eq isPresent 64 0 _ (Nat.zero_le _) (by omega) (by omega)
  · have full : room = 0 := by omega
    rw [if_neg ?_, if_pos (by simp [listing]), full, Nat.add_zero]
    rw [Bool.and_eq_true_iff]
    rintro ⟨some, absent⟩
    have found := (isPresent (values.length + room) (by simpa using some)).mpr (by omega)
    rw [found] at absent
    cases absent

end LuaSession.Script.Table
