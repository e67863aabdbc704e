import LuaSession.Script.Evaluate

/-!
# Names in tables

A table is sound when its index says of every key where the key's pair stands,
and has all pairs whose keys are strings. In a sound table a name has the value
that was put for it last, however the table has been laid out in between.
-/

namespace LuaSession.Script.Table

variable {t : Table} {key value : Value} {name : Bytes}

/-- The index of a table is right for every key that it has, and complete for
keys that are strings. -/
structure Sound (t : Table) : Prop where
  indexed : ∀ (key : Value) (place : Nat), t.index[key]? = some place →
    ∃ value, t.pairs[place]? = some ⟨key, value⟩
  named : ∀ (place : Nat) (name : Bytes) (value : Value),
    t.pairs[place]? = some ⟨.str name, value⟩ → t.index[Value.str name]? = some place

theorem sound_empty : ({} : Table).Sound where
  indexed := by simp
  named := by simp

@[simp] theorem get_str (t : Table) (name : Bytes) : t.get (.str name) = t.getPair (.str name) :=
  rfl

theorem eq_nil_of_isNil (isNil : value.isNil = true) : value = .nil := by
  cases value with
  | nil => rfl
  | _ => cases isNil

/-- The value of a key whose place is known. -/
theorem getPair_of_index {place : Nat} (found : t.index[key]? = some place)
    (stands : t.pairs[place]? = some ⟨key, value⟩) : t.getPair key = value := by
  rw [getPair, found]
  simp [Array.getD_eq_getD_getElem?, stands]

theorem getPair_of_index_none (absent : t.index[key]? = none) : t.getPair key = .nil := by
  rw [getPair, absent]

namespace Sound

/-- Only the pairs and the index count. -/
theorem congr {other : Table} (sound : t.Sound) (pairs : other.pairs = t.pairs)
    (index : other.index = t.index) : other.Sound where
  indexed := by
    rw [index, pairs]
    exact sound.indexed
  named := by
    rw [index, pairs]
    exact sound.named

/-- A key that is found stands inside. -/
theorem place_lt (sound : t.Sound) {place : Nat} (found : t.index[key]? = some place) :
    place < t.pairs.size := by
  obtain ⟨value, stands⟩ := sound.indexed key place found
  exact (Array.getElem?_eq_some_iff.mp stands).1

/-- A name has the value of its pair. -/
theorem get_of_mem (sound : t.Sound) {name : Bytes}
    (isMember : ⟨.str name, value⟩ ∈ t.pairs.toList) : t.get (.str name) = value := by
  obtain ⟨place, stands⟩ := Array.getElem?_of_mem (Array.mem_toList_iff.mp isMember)
  exact getPair_of_index (sound.named place name value stands) stands

/-- A name that has a value has a pair. -/
theorem mem_of_get (sound : t.Sound) {name : Bytes} (present : t.get (.str name) ≠ .nil) :
    ⟨.str name, t.get (.str name)⟩ ∈ t.pairs.toList := by
  rw [get_str] at present ⊢
  cases found : t.index[Value.str name]? with
  | none => exact absurd (getPair_of_index_none found) present
  | some place =>
      obtain ⟨value, stands⟩ := sound.indexed _ place found
      rw [getPair_of_index found stands]
      exact Array.mem_toList_iff.mpr (Array.mem_of_getElem? stands)

end Sound

/-! ## Further pairs -/

theorem index_pushPair (t : Table) (key value other : Value) :
    (t.pushPair key value).index[other]? =
      if key = other then some t.pairs.size else t.index[other]? := by
  simp only [pushPair, Std.HashMap.getElem?_insert, beq_iff_eq]

theorem pairs_pushPair (t : Table) (key value : Value) :
    (t.pushPair key value).pairs = t.pairs.push ⟨key, value⟩ := rfl

/-- A pair stays where it is when another one comes. -/
theorem getElem?_pairs_pushPair {place : Nat} (inside : place < t.pairs.size) (key value : Value) :
    (t.pushPair key value).pairs[place]? = t.pairs[place]? := by
  rw [pairs_pushPair, Array.getElem?_push, if_neg (Nat.ne_of_lt inside)]

theorem Sound.pushPair (sound : t.Sound)
    (isNew : ∀ name, key = .str name → t.index[key]? = none) (value : Value) :
    (t.pushPair key value).Sound where
  indexed := by
    intro other place found
    rw [index_pushPair] at found
    split at found
    next same =>
      subst same
      obtain rfl := Option.some.inj found
      exact ⟨value, Array.getElem?_push_size⟩
    next =>
      rw [getElem?_pairs_pushPair (sound.place_lt found)]
      exact sound.indexed other place found
  named := by
    intro place name stored stands
    rw [index_pushPair]
    rw [pairs_pushPair, Array.getElem?_push] at stands
    split at stands
    next here =>
      obtain ⟨rfl, rfl⟩ := Pair.mk.inj (Option.some.inj stands)
      rw [if_pos rfl, here]
    next =>
      have found := sound.named place name stored stands
      rw [if_neg]
      · exact found
      · intro same
        have absent := isNew name same
        rw [same, found] at absent
        cases absent

theorem getPair_pushPair (sound : t.Sound) (key value other : Value) :
    (t.pushPair key value).getPair other = if key = other then value else t.getPair other := by
  split
  next same =>
    subst same
    exact getPair_of_index ((index_pushPair t key value key).trans (if_pos rfl))
      Array.getElem?_push_size
  next different =>
    have index : (t.pushPair key value).index[other]? = t.index[other]? :=
      (index_pushPair t key value other).trans (if_neg different)
    cases found : t.index[other]? with
    | none => rw [getPair_of_index_none found, getPair_of_index_none (index.trans found)]
    | some place =>
        obtain ⟨stored, stands⟩ := sound.indexed other place found
        rw [getPair_of_index found stands]
        refine getPair_of_index (index.trans found) ?_
        rw [getElem?_pairs_pushPair (sound.place_lt found)]
        exact stands

/-- A value for a key goes into the array, or the pair comes last. -/
theorem place_cases (t : Table) (key value : Value) :
    (∃ array i, key = .int i ∧ t.place key value = { t with array }) ∨
      t.place key value = t.pushPair key value := by
  cases key with
  | int i =>
      rw [place]
      cases t.arrayPlace? i with
      | some n => exact .inl ⟨_, i, rfl, rfl⟩
      | none => exact .inr rfl
  | _ => exact .inr rfl

/-! ## Laying a table out anew -/

/-- A table has those of some pairs whose keys are strings and whose values are
not `nil`. -/
structure Holds (t : Table) (pairs : List Pair) : Prop where
  sound : t.Sound
  isFrom : ∀ (name : Bytes) (place : Nat), t.index[Value.str name]? = some place →
    ∃ value, value.isNil = false ∧ ⟨.str name, value⟩ ∈ pairs
  has : ∀ (name : Bytes) (value : Value), ⟨.str name, value⟩ ∈ pairs → value.isNil = false →
    t.getPair (.str name) = value

namespace Holds

/-- A pair that is no name's changes nothing about names. -/
theorem pushPair_other {pairs : List Pair} (holds : t.Holds pairs)
    (noName : ∀ name, key ≠ .str name) (value : Value) : (t.pushPair key value).Holds pairs where
  sound := holds.sound.pushPair (fun name same => absurd same (noName name)) value
  isFrom := by
    intro name place found
    rw [index_pushPair, if_neg (noName name)] at found
    exact holds.isFrom name place found
  has := by
    intro name stored member present
    rw [getPair_pushPair holds.sound, if_neg (noName name)]
    exact holds.has name stored member present

theorem mono {pairs : List Pair} (holds : t.Holds pairs) {pair : Pair}
    (irrelevant : ∀ name, pair.key = .str name → pair.value.isNil = true) :
    t.Holds (pairs ++ [pair]) where
  sound := holds.sound
  isFrom := by
    intro name place found
    obtain ⟨value, present, member⟩ := holds.isFrom name place found
    exact ⟨value, present, List.mem_append_left _ member⟩
  has := by
    intro name stored member present
    rcases List.mem_append.mp member with member | member
    · exact holds.has name stored member present
    · obtain rfl := List.mem_singleton.mp member
      rw [irrelevant name rfl] at present
      cases present

/-- A further pair of a name that the table does not have. -/
theorem pushPair_name {pairs : List Pair} (holds : t.Holds pairs) {stored : Value}
    (isNew : ∀ value, ⟨.str name, value⟩ ∉ pairs) (present : stored.isNil = false) :
    (t.pushPair (.str name) stored).Holds (pairs ++ [⟨.str name, stored⟩]) where
  sound := by
    refine holds.sound.pushPair (fun other _ => ?_) stored
    cases found : t.index[Value.str name]? with
    | none => rfl
    | some place =>
        obtain ⟨value, _, member⟩ := holds.isFrom name place found
        exact absurd member (isNew value)
  isFrom := by
    intro other place found
    rw [index_pushPair] at found
    split at found
    next same =>
      exact ⟨stored, present, List.mem_append_right _ (by simp [same])⟩
    next =>
      obtain ⟨value, isPresent, member⟩ := holds.isFrom other place found
      exact ⟨value, isPresent, List.mem_append_left _ member⟩
  has := by
    intro other value member isPresent
    rw [getPair_pushPair holds.sound]
    rcases List.mem_append.mp member with member | member
    · rw [if_neg]
      · exact holds.has other value member isPresent
      · intro same
        exact isNew value (same ▸ member)
    · have same := List.mem_singleton.mp member
      simp only [Pair.mk.injEq] at same
      rw [if_pos same.1.symm, same.2]

/-- Putting a further pair: a name must not be there already. -/
theorem place {pairs : List Pair} (holds : t.Holds pairs) {pair : Pair}
    (isNew : ∀ name, pair.key = .str name → ∀ value, ⟨.str name, value⟩ ∉ pairs)
    (present : pair.value.isNil = false) :
    (t.place pair.key pair.value).Holds (pairs ++ [pair]) := by
  obtain ⟨key, stored⟩ := pair
  by_cases isName : ∃ name, key = .str name
  · obtain ⟨name, rfl⟩ := isName
    exact holds.pushPair_name (isNew name rfl) present
  · have noName : ∀ name, key ≠ .str name := fun name same => isName ⟨name, same⟩
    have irrelevant : ∀ name, key = .str name → stored.isNil = true :=
      fun name same => absurd same (noName name)
    obtain ⟨array, i, _, placed⟩ | placed := place_cases t key stored
    · rw [placed]
      have kept : Holds { t with array } pairs :=
        ⟨holds.sound.congr rfl rfl, holds.isFrom, holds.has⟩
      exact kept.mono irrelevant
    · rw [placed]
      exact (holds.pushPair_other noName stored).mono irrelevant

end Holds

/-- Putting the pairs of a sound table into another one, in their order. -/
theorem Sound.holds_foldl (sound : t.Sound) (rest : List Pair) :
    ∀ (front : List Pair) (made : Table), t.pairs.toList = front ++ rest → made.Holds front →
      (rest.foldl (fun made pair =>
        if pair.value.isNil then made else made.place pair.key pair.value) made).Holds
          (front ++ rest) := by
  induction rest with
  | nil =>
      intro front made _ holds
      rw [List.append_nil]
      exact holds
  | cons pair rest ih =>
      intro front made split holds
      rw [List.append_cons] at split ⊢
      refine ih (front ++ [pair]) _ split ?_
      dsimp only
      split
      next absent => exact holds.mono fun _ _ => absent
      next present =>
        refine holds.place ?_ (by simpa using present)
        -- Otherwise the index would have the name at two places.
        intro name isName value member
        obtain ⟨place, inside, stands⟩ := List.getElem_of_mem member
        have first : t.pairs[place]? = some ⟨.str name, value⟩ := by
          rw [← Array.getElem?_toList, split, List.append_assoc, List.getElem?_append_left inside,
            List.getElem?_eq_getElem inside, stands]
        have second : t.pairs[front.length]? = some ⟨.str name, pair.value⟩ := by
          rw [← Array.getElem?_toList, split, List.append_assoc, ← isName]
          simp
        have same := sound.named place name value first
        rw [sound.named front.length name pair.value second, Option.some.injEq] at same
        exact Nat.lt_irrefl _ (same ▸ inside)

/-- The values that leave the array get keys that are integers. -/
theorem holds_spilled (values : List Value) :
    ∀ (made : Table) (size : Nat), made.Holds [] →
      (values.foldl (fun (acc : Table × Nat) value =>
        (if value.isNil then acc.1 else acc.1.pushPair (.ofNat (acc.2 + 1)) value, acc.2 + 1))
        (made, size)).1.Holds [] := by
  induction values with
  | nil => exact fun made size holds => holds
  | cons value values ih =>
      intro made size holds
      rw [List.foldl_cons]
      apply ih
      split
      · exact holds
      · exact holds.pushPair_other (by simp [Value.ofNat]) value

theorem Sound.holds_resize (sound : t.Sound) (size room : Nat) :
    (t.resize size room).Holds t.pairs.toList := by
  simp only [resize, ← Array.foldl_toList]
  refine sound.holds_foldl t.pairs.toList [] _ rfl (holds_spilled _ _ _ ?_)
  exact ⟨sound_empty.congr rfl rfl, by simp, by simp⟩

/-- Laid out anew, a sound table has the same names with the same values. -/
theorem getPair_resize (sound : t.Sound) (size room : Nat) (name : Bytes) :
    (t.resize size room).getPair (.str name) = t.getPair (.str name) := by
  have holds := sound.holds_resize size room
  cases found : (t.resize size room).index[Value.str name]? with
  | some place =>
      obtain ⟨value, present, member⟩ := holds.isFrom name place found
      obtain ⟨old, inside, stands⟩ := List.getElem_of_mem member
      have stood : t.pairs[old]? = some ⟨.str name, value⟩ := by
        rw [← Array.getElem?_toList, List.getElem?_eq_getElem inside, stands]
      rw [holds.has name value member present,
        getPair_of_index (sound.named old name value stood) stood]
  | none =>
      rw [getPair_of_index_none found]
      cases before : t.index[Value.str name]? with
      | none => rw [getPair_of_index_none before]
      | some place =>
          obtain ⟨value, stood⟩ := sound.indexed _ place before
          rw [getPair_of_index before stood]
          cases present : value.isNil with
          | true => exact (eq_nil_of_isNil present).symm
          | false =>
              have member : ⟨.str name, value⟩ ∈ t.pairs.toList :=
                Array.mem_toList_iff.mpr (Array.mem_of_getElem? stood)
              rw [← holds.has name value member present, getPair_of_index_none found]

theorem Sound.resize (sound : t.Sound) (size room : Nat) : (t.resize size room).Sound :=
  (sound.holds_resize size room).sound

/-- A name that a table does not have it does not have when laid out anew. -/
theorem index_resize_none (sound : t.Sound) (size room : Nat)
    (absent : t.index[Value.str name]? = none) :
    (t.resize size room).index[Value.str name]? = none := by
  cases found : (t.resize size room).index[Value.str name]? with
  | none => rfl
  | some place =>
      obtain ⟨value, _, member⟩ := (sound.holds_resize size room).isFrom name place found
      obtain ⟨old, inside, stands⟩ := List.getElem_of_mem member
      have stood : t.pairs[old]? = some ⟨.str name, value⟩ := by
        rw [← Array.getElem?_toList, List.getElem?_eq_getElem inside, stands]
      rw [sound.named old name value stood] at absent
      cases absent

theorem exists_rehash_eq (t : Table) (key : Value) :
    ∃ size room, t.rehash key = t.resize size room :=
  ⟨_, _, rfl⟩

/-! ## Putting values -/

/-- What putting a value for a key comes to. -/
theorem set_cases (t : Table) (key value : Value) :
    (∃ array i, key = .int i ∧ t.set key value = { t with array }) ∨
    (∃ place, t.index[key]? = some place ∧
      t.set key value = { t with pairs := t.pairs.setIfInBounds place ⟨key, value⟩ }) ∨
    (t.index[key]? = none ∧ value = .nil ∧ t.set key value = t) ∨
    (t.index[key]? = none ∧ t.set key value = t.pushPair key value) ∨
    ∃ size room, t.index[key]? = none ∧ t.set key value = (t.resize size room).place key value := by
  rw [set.eq_def]
  split
  next n found =>
    cases key with
    | int i => exact .inl ⟨_, i, rfl, rfl⟩
    | _ => cases found
  next =>
    right
    split
    next place found => exact .inl ⟨place, found, rfl⟩
    next absent =>
      right
      split
      next isNil => exact .inl ⟨absent, eq_nil_of_isNil isNil, rfl⟩
      next =>
        right
        split
        · exact .inl ⟨absent, rfl⟩
        · obtain ⟨size, room, rehashed⟩ := t.exists_rehash_eq key
          exact .inr ⟨size, room, absent, congrArg (·.place key value) rehashed⟩

theorem Sound.replace (sound : t.Sound) {place : Nat} (found : t.index[key]? = some place)
    (value : Value) :
    Sound { t with pairs := t.pairs.setIfInBounds place ⟨key, value⟩ } where
  indexed := by
    intro other there foundThere
    rw [Array.getElem?_setIfInBounds]
    split
    next same =>
      subst same
      obtain ⟨first, stands⟩ := sound.indexed key place found
      obtain ⟨second, standsToo⟩ := sound.indexed other place foundThere
      rw [if_pos (sound.place_lt found)]
      rw [stands, Option.some.injEq, Pair.mk.injEq] at standsToo
      exact ⟨value, by rw [standsToo.1]⟩
    next => exact sound.indexed other there foundThere
  named := by
    intro there name stored stands
    rw [Array.getElem?_setIfInBounds] at stands
    split at stands
    next same =>
      rw [if_pos (sound.place_lt found), Option.some.injEq, Pair.mk.injEq] at stands
      rw [← stands.1, ← same]
      exact found
    next => exact sound.named there name stored stands

theorem getPair_replace (sound : t.Sound) {place : Nat} (found : t.index[key]? = some place)
    (value other : Value) :
    getPair { t with pairs := t.pairs.setIfInBounds place ⟨key, value⟩ } other =
      if key = other then value else t.getPair other := by
  split
  next same =>
    subst same
    refine getPair_of_index found ?_
    rw [Array.getElem?_setIfInBounds, if_pos rfl, if_pos (sound.place_lt found)]
  next different =>
    cases there : t.index[other]? with
    | none => rw [getPair_of_index_none there]; exact getPair_of_index_none there
    | some spot =>
        obtain ⟨stored, stands⟩ := sound.indexed other spot there
        rw [getPair_of_index there stands]
        refine getPair_of_index there ?_
        rw [Array.getElem?_setIfInBounds, if_neg]
        · exact stands
        · rintro rfl
          obtain ⟨first, standsToo⟩ := sound.indexed key place found
          rw [stands, Option.some.injEq, Pair.mk.injEq] at standsToo
          exact different standsToo.1.symm

theorem Sound.place (sound : t.Sound) (isNew : ∀ name, key = .str name → t.index[key]? = none)
    (value : Value) : (t.place key value).Sound := by
  obtain ⟨array, i, _, placed⟩ | placed := place_cases t key value
  · rw [placed]
    exact sound.congr rfl rfl
  · rw [placed]
    exact sound.pushPair isNew value

theorem getPair_place (sound : t.Sound) (key value : Value) (name : Bytes) :
    (t.place key value).getPair (.str name) =
      if key = .str name then value else t.getPair (.str name) := by
  obtain ⟨array, i, rfl, placed⟩ | placed := place_cases t key value
  · rw [placed, if_neg (by simp)]
    rfl
  · rw [placed, getPair_pushPair sound]

theorem Sound.set (sound : t.Sound) (key value : Value) : (t.set key value).Sound := by
  obtain ⟨array, i, _, put⟩ | ⟨place, found, put⟩ | ⟨_, _, put⟩ | ⟨absent, put⟩ |
    ⟨size, room, absent, put⟩ := set_cases t key value <;> rw [put]
  · exact sound.congr rfl rfl
  · exact sound.replace found value
  · exact sound
  · exact sound.pushPair (fun _ _ => absent) value
  · refine (sound.resize size room).place ?_ value
    rintro name rfl
    exact index_resize_none sound size room absent

/-- What a name stands for after a value has been put for some key. -/
theorem get_set (sound : t.Sound) (key value : Value) (name : Bytes) :
    (t.set key value).get (.str name) =
      if key = .str name then value else t.get (.str name) := by
  rw [get_str, get_str]
  obtain ⟨array, i, rfl, put⟩ | ⟨place, found, put⟩ | ⟨absent, rfl, put⟩ | ⟨absent, put⟩ |
    ⟨size, room, absent, put⟩ := set_cases t key value <;> rw [put]
  · rw [if_neg (by simp)]
    rfl
  · exact getPair_replace sound found value _
  · split
    next same =>
      subst same
      exact getPair_of_index_none absent
    next => rfl
  · exact getPair_pushPair sound key value _
  · rw [getPair_place (sound.resize size room), getPair_resize sound]

theorem metatable_place (t : Table) (key value : Value) :
    (t.place key value).metatable = t.metatable := by
  obtain ⟨array, i, _, placed⟩ | placed := place_cases t key value
  · rw [placed]
  · rw [placed]
    rfl

theorem metatable_resize (t : Table) (size room : Nat) :
    (t.resize size room).metatable = t.metatable := by
  have places (pairs : List Pair) (made : Table) : (pairs.foldl (fun made pair =>
      if pair.value.isNil then made else made.place pair.key pair.value) made).metatable =
        made.metatable := by
    induction pairs generalizing made with
    | nil => rfl
    | cons pair pairs ih =>
        rw [List.foldl_cons, ih]
        split
        · rfl
        · exact metatable_place _ _ _
  have spills (values : List Value) (made : Table) (size : Nat) :
      (values.foldl (fun (acc : Table × Nat) value =>
        (if value.isNil then acc.1 else acc.1.pushPair (.ofNat (acc.2 + 1)) value, acc.2 + 1))
        (made, size)).1.metatable = made.metatable := by
    induction values generalizing made size with
    | nil => rfl
    | cons value values ih =>
        rw [List.foldl_cons, ih]
        split <;> rfl
  simp only [resize, ← Array.foldl_toList]
  exact (places _ _).trans (spills _ _ _)

theorem metatable_set (t : Table) (key value : Value) :
    (t.set key value).metatable = t.metatable := by
  obtain ⟨array, i, _, put⟩ | ⟨place, found, put⟩ | ⟨_, _, put⟩ | ⟨absent, put⟩ |
    ⟨size, room, absent, put⟩ := set_cases t key value <;> rw [put]
  · rfl
  · rw [metatable_place, metatable_resize]

/-! ## Filling and clearing -/

theorem Sound.fill (sound : t.Sound) (values : Array Value) : (t.fill values).Sound := by
  rw [Table.fill]
  split
  · exact sound
  · split
    · exact sound.congr rfl rfl
    · dsimp only
      split
      · exact (sound.resize _ _).congr rfl rfl
      · exact sound.congr rfl rfl

theorem get_fill (sound : t.Sound) (values : Array Value) (name : Bytes) :
    (t.fill values).get (.str name) = t.get (.str name) := by
  rw [get_str, get_str, Table.fill]
  split
  · rfl
  · split
    · rfl
    · dsimp only
      split
      · exact getPair_resize sound _ _ _
      · rfl

/-- The pair of a key that stays only if a test allows it. -/
theorem pairs_keep (t : Table) (test : Value → Value → Bool) (place : Nat) :
    (t.keep test).pairs[place]? = (t.pairs[place]?).map fun pair =>
      if test pair.key pair.value then pair else { pair with value := .nil } := by
  rw [keep, Array.getElem?_map]

theorem Sound.keep (sound : t.Sound) (test : Value → Value → Bool) : (t.keep test).Sound where
  indexed := by
    intro key place found
    obtain ⟨value, stands⟩ := sound.indexed key place found
    rw [pairs_keep, stands, Option.map_some]
    split
    · exact ⟨value, rfl⟩
    · exact ⟨.nil, rfl⟩
  named := by
    intro place name value stands
    rw [pairs_keep, Option.map_eq_some_iff] at stands
    obtain ⟨⟨key, stored⟩, stood, same⟩ := stands
    have isName : key = .str name := by
      split at same
      · exact (Pair.mk.inj same).1
      · exact (Pair.mk.inj same).1
    subst isName
    exact sound.named place name stored stood

theorem get_keep (sound : t.Sound) (test : Value → Value → Bool) (name : Bytes) :
    (t.keep test).get (.str name) =
      if test (.str name) (t.get (.str name)) then t.get (.str name) else .nil := by
  rw [get_str, get_str]
  cases found : t.index[Value.str name]? with
  | none =>
      rw [getPair_of_index_none found, getPair_of_index_none (t := t.keep test) found, ite_self]
  | some place =>
      obtain ⟨value, stands⟩ := sound.indexed _ place found
      rw [getPair_of_index found stands]
      refine getPair_of_index (t := t.keep test) found ?_
      rw [pairs_keep, stands, Option.map_some]
      split <;> rfl

end LuaSession.Script.Table
