import LuaSession.Proofs.Script.Table
import Mathlib.Data.List.Nodup
import Mathlib.Tactic.SplitIfs

/-!
# The names in a table

A traversal of a sound table comes by each name that has a value, and by each once.
Putting a value for a name adds the name to the list or takes it away, or leaves the
list as it was, but for the order.
-/

namespace LuaSession.Script

/-- The name that a pair is for, if it is one. -/
def Pair.name? (pair : Pair) : Option Bytes :=
  match pair.key with
  | .str name => some name
  | _ => none

theorem Pair.name?_eq_some_iff {pair : Pair} {name : Bytes} :
    pair.name? = some name ↔ pair.key = .str name := by
  obtain ⟨key, value⟩ := pair
  cases key <;> simp [Pair.name?]

namespace Table

variable {t : Table} {name : Bytes}

/-- The names that have values, in the order of a traversal. -/
def boundNames (t : Table) : List Bytes := t.toList.filterMap Pair.name?

/-- What stands in the array has no names. -/
theorem boundNames_eq (t : Table) :
    t.boundNames =
      (t.pairs.toList.filter fun pair => !pair.value.isNil).filterMap Pair.name? := by
  have noName (values : List Value) (acc : List Pair × Nat)
      (none : acc.1.filterMap Pair.name? = []) :
      (values.foldl (fun (acc : List Pair × Nat) value =>
        (if value.isNil then acc.1 else ⟨.ofNat (acc.2 + 1), value⟩ :: acc.1, acc.2 + 1))
        acc).1.filterMap Pair.name? = [] := by
    induction values generalizing acc with
    | nil => exact none
    | cons value values ih =>
        rw [List.foldl_cons]
        apply ih
        dsimp only
        split
        · exact none
        · exact none
  rw [boundNames, toList, List.filterMap_append, List.filterMap_reverse, ← Array.foldl_toList,
    noName _ _ rfl]
  rfl

theorem mem_boundNames (sound : t.Sound) :
    name ∈ t.boundNames ↔ t.get (.str name) ≠ .nil := by
  rw [boundNames_eq]
  constructor
  · intro isMember
    obtain ⟨⟨key, value⟩, isPair, named⟩ := List.mem_filterMap.mp isMember
    obtain ⟨isPair, present⟩ := List.mem_filter.mp isPair
    obtain rfl : key = .str name := Pair.name?_eq_some_iff.mp named
    rw [sound.get_of_mem isPair]
    rintro rfl
    cases present
  · intro present
    refine List.mem_filterMap.mpr ⟨_, List.mem_filter.mpr ⟨sound.mem_of_get present, ?_⟩, rfl⟩
    simpa using fun isNil => present (eq_nil_of_isNil isNil)

/-- No name is listed twice. -/
theorem nodup_boundNames (sound : t.Sound) : t.boundNames.Nodup := by
  have apart : t.pairs.toList.Pairwise fun pair other =>
      ∀ name, pair.key = .str name → other.key ≠ .str name := by
    rw [List.pairwise_iff_getElem]
    intro first second inFirst inSecond before name here there
    have stands (place : Nat) (inside : place < t.pairs.toList.length)
        (isName : t.pairs.toList[place].key = .str name) :
        t.index[Value.str name]? = some place := by
      refine sound.named place name t.pairs.toList[place].value ?_
      rw [← isName, ← Array.getElem?_toList, List.getElem?_eq_getElem inside]
    have same := (stands first inFirst here).symm.trans (stands second inSecond there)
    exact Nat.ne_of_lt before (Option.some.inj same)
  rw [boundNames_eq]
  refine (apart.filter _).filterMap _ fun pair other differ name isName name' isName' => ?_
  rintro rfl
  exact differ name (Pair.name?_eq_some_iff.mp isName) (Pair.name?_eq_some_iff.mp isName')

/-- The names after a value has been put for one: the same, or one more or less. -/
theorem boundNames_set (sound : t.Sound) (name : Bytes) (value : Value) :
    if t.get (.str name) = .nil ↔ value = .nil then
      (t.set (.str name) value).boundNames.Perm t.boundNames
    else if value = .nil then t.boundNames.Perm (name :: (t.set (.str name) value).boundNames)
    else (t.set (.str name) value).boundNames.Perm (name :: t.boundNames) := by
  have soundSet := sound.set (.str name) value
  have nodup := nodup_boundNames sound
  have nodupSet := nodup_boundNames soundSet
  have listed : name ∈ t.boundNames ↔ t.get (.str name) ≠ .nil := mem_boundNames sound
  have listedSet (other : Bytes) : other ∈ (t.set (.str name) value).boundNames ↔
      if name = other then value ≠ .nil else other ∈ t.boundNames := by
    rw [mem_boundNames soundSet, get_set sound, mem_boundNames sound]
    by_cases same : name = other <;> simp [same]
  split_ifs with kept lost
  · refine (List.perm_ext_iff_of_nodup nodupSet nodup).mpr fun other => ?_
    rw [listedSet]
    split
    next same =>
      rw [← same, listed]
      exact (not_congr kept).symm
    next => rfl
  · have gone : name ∉ (t.set (.str name) value).boundNames := by
      rw [listedSet, if_pos rfl]
      exact not_not_intro lost
    have was : name ∈ t.boundNames := listed.mpr fun absent => kept (iff_of_true absent lost)
    refine (List.perm_ext_iff_of_nodup nodup (nodupSet.cons gone)).mpr fun other => ?_
    rw [List.mem_cons, listedSet]
    split
    next same => exact iff_of_true (same ▸ was) (.inl same.symm)
    next differs => rw [or_iff_right (Ne.symm differs)]
  · have fresh : name ∉ t.boundNames := by
      rw [listed, not_not]
      exact Decidable.byContradiction fun present => kept (iff_of_false present lost)
    refine (List.perm_ext_iff_of_nodup nodupSet (nodup.cons fresh)).mpr fun other => ?_
    rw [List.mem_cons, listedSet]
    split
    next same => exact iff_of_true lost (.inl same.symm)
    next differs => rw [or_iff_right (Ne.symm differs)]

end Table
end LuaSession.Script
