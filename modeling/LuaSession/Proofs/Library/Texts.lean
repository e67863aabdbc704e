import Mathlib.Algebra.Group.Nat.Defs
import LuaSession.Library.Functions
import LuaSession.Proofs.Script.Asking
import LuaSession.Proofs.Text.Encoding

/-!
# Arguments and their texts

The library counts arguments, takes one of them, and makes its text. It has the text itself
unless the value's metatable has a function that makes it: then it calls that function once,
and takes what it returns, or raises.
-/

namespace LuaSession.Library

open LuaSession.Script

/-! ## Arguments by their number -/

section Select

variable (caller : Caller) (arguments : Array Value) (s : Store)

theorem argument_first (value : Value) : argument (#[value] ++ arguments) 1 = value := by
  have inside : 0 < #[value].size := by simp
  rw [argument, Array.getD_eq_getD_getElem?, Array.getElem?_append_left inside]
  rfl

/-- How many arguments there are. -/
theorem select_count : runBuiltin (.base .select) caller (#[.ofString "#"] ++ arguments) s =
    .done #[.ofNat arguments.size] s := by
  have first : argument (#[.str "#".toUTF8] ++ arguments) 1 = .str "#".toUTF8 :=
    argument_first arguments _
  have counts : ("#".toUTF8.toList.head? == some 0x23) = true := by
    rw [toList_eq_data]
    rfl
  have size : (#[Value.str "#".toUTF8] ++ arguments).size - 1 = arguments.size := by simp
  unfold runBuiltin runBase
  simp only [Value.ofString, first, counts, if_true, size]
  rfl

variable {arguments}

omit caller s in
/-- One of the arguments, and those behind it. -/
theorem select_from {n : Nat} (inside : n < arguments.size) (few : arguments.size < 2 ^ 62) :
    ∃ values, firstOf values = arguments[n] ∧ ∀ caller s,
      runBuiltin (.base .select) caller (#[.ofNat (n + 1)] ++ arguments) s = .done values s := by
  have first : argument (#[.int (Int64.ofNat (n + 1))] ++ arguments) 1 =
      .int (Int64.ofNat (n + 1)) :=
    argument_first arguments _
  have size : (#[Value.int (Int64.ofNat (n + 1))] ++ arguments).size = arguments.size + 1 := by
    simp [Nat.add_comm]
  have key : (Int64.ofNat (n + 1)).toInt = (n + 1 : Nat) := Int64.toInt_ofNat_of_lt (by omega)
  have all : (Int64.ofNat (arguments.size + 1)).toInt = (arguments.size + 1 : Nat) :=
    Int64.toInt_ofNat_of_lt (by omega)
  have notNegative : ¬Int64.ofNat (n + 1) < 0 := by
    rw [Int64.lt_iff_toInt_lt, key]
    exact Int.not_lt.mpr (Int.natCast_nonneg _)
  have notAbove : ¬Int64.ofNat (n + 1) > Int64.ofNat (arguments.size + 1) := by
    rw [gt_iff_lt, Int64.lt_iff_toInt_lt, key, all]
    omega
  have notBelow : ¬Int64.ofNat (n + 1) < 1 := by
    rw [Int64.lt_iff_toInt_lt, key]
    exact Int.not_lt.mpr (Int.ofNat_le.mpr (Nat.succ_pos n))
  refine ⟨(#[Value.ofNat (n + 1)] ++ arguments).extract (n + 1) (arguments.size + 1), ?_,
    fun caller s => ?_⟩
  · rw [firstOf, Array.getD_eq_getD_getElem?]
    simp [Nat.sub_pos_of_lt inside]
  · have takes : intArgument caller (#[.int (Int64.ofNat (n + 1))] ++ arguments) 1 s =
        .done (Int64.ofNat (n + 1)) s := by
      unfold intArgument
      rw [first]
      rfl
    have selects : runBuiltin (.base .select) caller (#[.ofNat (n + 1)] ++ arguments) s = (do
        let i ← intArgument caller (#[.int (Int64.ofNat (n + 1))] ++ arguments) 1
        let size := Int64.ofNat (arguments.size + 1)
        let i := if i < 0 then size + i else if i > size then size else i
        if i < 1 then argFail caller 1 "index out of range"
        else return (#[Value.ofNat (n + 1)] ++ arguments).extract i.toInt.toNat (arguments.size + 1)
          : Run (Array Value)) s := by
      unfold runBuiltin runBase
      simp only [Value.ofNat, first, size, if_neg Bool.false_ne_true]
    rw [selects, Run.bind_of_done takes, if_neg notNegative, if_neg notAbove, if_neg notBelow, key]
    rfl

end Select

/-! ## Texts -/

/-- The text of a value that its metatable has no function for. -/
theorem textOf_of_nil {value : Value} {s : Store} (position : Bytes)
    (none : s.metafield value Event.tostring = .nil) :
    ∃ text, textOf position value s = .done text s := by
  unfold textOf
  rw [Run.read_bind, none]
  cases value with
  | nil | bool _ => exact ⟨_, rfl⟩
  | _ => exact ⟨_, rfl⟩

/-- The text of a value that its metatable has a function for: that is called once. -/
theorem textOf_of_present {value : Value} {s : Store} (position : Bytes)
    (present : (s.metafield value Event.tostring).isNil = false) :
    textOf position value s = (do
      let results ← Run.callLibrary (s.metafield value Event.tostring) #[value]
      match (firstOf results).toBytes? with
      | some bytes => return bytes
      | none => Run.raiseBytes (position ++ "'__tostring' must return a string".toUTF8)) s := by
  unfold textOf
  rw [Run.read_bind, present]
  rfl

/-- The text of a value: it is made at once, or its metatable has a function that is called
for it. Then what the function returns is taken, or an error is raised. -/
theorem tostring_cases (caller : Caller) (value : Value) (s : Store) :
    (∃ text, runBuiltin (.base .tostring) caller #[value] s = .done #[.str text] s) ∨
    ∃ resume, runBuiltin (.base .tostring) caller #[value] s =
        .ask (.call (s.metafield value Event.tostring) #[value] { kind := .library }) s resume ∧
      ∀ exit t, (∃ text, resume exit t = .done #[.str text] t) ∨
        ∃ raised, resume exit t = .fail raised t := by
  have tells : runBuiltin (.base .tostring) caller #[value] s =
      (do return #[.str (← textOf caller.position value)] : Run (Array Value)) s := rfl
  rw [tells]
  cases isNil : (s.metafield value Event.tostring).isNil with
  | true =>
      obtain ⟨text, made⟩ := textOf_of_nil caller.position (Table.eq_nil_of_isNil isNil)
      exact .inl ⟨text, Run.bind_of_done made⟩
  | false =>
      have calls := textOf_of_present caller.position isNil
      refine .inr ⟨_, (Run.bind_congr calls).trans
        ((congrFun (bind_assoc _ _ _) s).trans (Run.call_bind _ _ _ _ _)), fun exit t => ?_⟩
      cases (firstOf (Machine.valuesOf exit)).toBytes? with
      | some bytes => exact .inl ⟨bytes, rfl⟩
      | none => exact .inr ⟨_, rfl⟩

end LuaSession.Library
