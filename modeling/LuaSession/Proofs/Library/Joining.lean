import LuaSession.Library.Functions
import LuaSession.Proofs.Script.Asking
import LuaSession.Proofs.Script.Filling
import LuaSession.Proofs.Text.Broken

/-!
# Joining texts

The library joins the texts of a table that has been filled with them. Joined by tabs, texts
are read as each of them is read on its own: no character goes on with a tab, whatever is
broken before it.
-/

namespace LuaSession.Library

open LuaSession.Script

/-- Texts with a separator between them. -/
def joinedBy (separator : Bytes) : List Bytes → Bytes
  | [] => ByteArray.empty
  | [text] => text
  | text :: rest => text ++ separator ++ joinedBy separator rest

theorem joinedBy_cons_cons (separator text other : Bytes) (rest : List Bytes) :
    joinedBy separator (text :: other :: rest) =
      text ++ separator ++ joinedBy separator (other :: rest) := rfl

/-! ## Reading what has been joined -/

section Reading

/-- No byte string is split before a byte that goes on with no character. -/
theorem not_splits_of_lt {front back : List UInt8} {b : UInt8} (single : b < 0x80) :
    ¬Utf8.Splits front (b :: back) := by
  rintro ⟨_, ⟨⟩, takes⟩
  have isProper := Utf8.isProper_readTo (show Utf8.State.IsProper .start from trivial) front
  cases stands : Utf8.readTo .start front with
  | start =>
      rw [stands] at takes
      exact takes
  | inside owed low high value =>
      rw [stands] at takes isProper
      have least := UInt8.le_trans isProper.1 takes.1
      exact absurd single (UInt8.not_lt.mpr least)

/-- Nor is it after one. -/
theorem not_splits_tab (back : List UInt8) : ¬Utf8.Splits [0x09] back := by
  rintro ⟨_, _, takes⟩
  exact takes

theorem chars_tab (front back : List UInt8) :
    Utf8.chars .start (front ++ 0x09 :: back) =
      Utf8.chars .start front ++ '\t' :: Utf8.chars .start back := by
  rw [Utf8.chars_append (not_splits_of_lt (by decide))]
  exact congrArg _ (Utf8.chars_append (not_splits_tab back))

/-- What joined texts are read as, character by character. -/
theorem chars_joinedBy_tab (texts : List Bytes) :
    Utf8.chars .start (joinedBy "\t".toUTF8 texts).toList =
      ['\t'].intercalate (texts.map fun text => Utf8.chars .start text.toList) := by
  have tab : "\t".toUTF8.toList = [0x09] := Utf8.toList_toUTF8 "\t"
  induction texts with
  | nil =>
      rw [joinedBy, toList_eq_data]
      rfl
  | cons text rest ih =>
      cases rest with
      | nil => simp [joinedBy]
      | cons other rest =>
          have parts : (joinedBy "\t".toUTF8 (text :: other :: rest)).toList =
              text.toList ++ 0x09 :: (joinedBy "\t".toUTF8 (other :: rest)).toList := by
            rw [joinedBy_cons_cons, toList_append, toList_append, tab, List.append_assoc]
            rfl
          rw [parts, chars_tab, ih, List.map_cons, List.map_cons, List.map_cons,
            List.intercalate_cons_cons, List.append_assoc]
          rfl

/-- Texts that are joined by tabs are read one by one. -/
theorem lossy_joinedBy_tab (texts : List Bytes) :
    Utf8.lossy (joinedBy "\t".toUTF8 texts) = "\t".intercalate (texts.map Utf8.lossy) := by
  have reads : String.toList ∘ Utf8.lossy = fun text => Utf8.chars .start text.toList :=
    funext fun text => String.toList_ofList
  have tab : "\t".toList = ['\t'] := rfl
  rw [← String.toList_inj, String.toList_intercalate, List.map_map, reads, tab,
    ← chars_joinedBy_tab]
  exact String.toList_ofList

end Reading

/-! ## The function of the library -/

section Joining

variable {s : Store} {ref : Nat} {texts : List Bytes}

theorem join_fills (fills : Table.Fills (texts.map .str) (s.table ref)) (caller : Caller)
    (separator : Bytes) (few : texts.length < 2 ^ 62) {before rest : List Bytes}
    (parts : texts = before ++ rest) (done : Bytes) :
    Tables.join caller (.table ref) separator rest.length (Int64.ofNat (before.length + 1)) done s =
      .done (done ++ joinedBy separator rest) s := by
  induction rest generalizing before done with
  | nil =>
      rw [joinedBy, ByteArray.append_empty]
      rfl
  | cons text rest ih =>
      have inside : before.length < (texts.map Value.str).length := by simp [parts]
      have isText : (s.table ref).get (.int (Int64.ofNat (before.length + 1))) = .str text := by
        refine (fills.get (by simpa using few) inside).trans ?_
        simp [parts]
      have taken : Tables.get (.table ref) (Int64.ofNat (before.length + 1)) s =
          .done (.str text) s :=
        Run.index_found isText Value.noConfusion
      have next : Int64.ofNat (before.length + 1) + 1 =
          Int64.ofNat ((before ++ [text]).length + 1) := by
        simp [Int64.ofNat_add]
      rw [List.length_cons, Tables.join, Run.bind_of_done taken]
      dsimp only [Value.toBytes?]
      rw [next, ih (by simp [parts])]
      cases rest with
      | nil => simp [joinedBy]
      | cons other rest => simp [joinedBy_cons_cons, ByteArray.append_assoc]

/-- Bytes are taken, or there is no memory for them. -/
theorem charge_cases (bytes : Nat) (s : Store) :
    (∃ charge, Run.charge bytes s = .done () { s with charge }) ∨
      Run.charge bytes s = .fail .memory s := by
  unfold Run.charge
  split
  · split
    · exact .inr rfl
    · exact .inl ⟨_, rfl⟩
  · exact .inl ⟨s.charge, rfl⟩

/-- The length of a table that has been filled is the number of its texts. -/
theorem lengthOf_fills (fills : Table.Fills (texts.map .str) (s.table ref)) (caller : Caller)
    (few : texts.length < 2 ^ 62) :
    Tables.lengthOf caller (.table ref) s = .done (Int64.ofNat texts.length) s := by
  have metatable := fills.metatable
  have noMetatable : s.metafield (.table ref) Event.len = .nil := by
    simp only [Store.metafield, Store.metatable?, metatable]
  have border : (s.table ref).border = texts.length := by
    simpa using fills.border (by simpa using few)
  have length : Run.length .library Expr.unnamed (.table ref) s =
      .done (.ofNat texts.length) s := by
    unfold Run.length
    dsimp only
    rw [Run.read_bind, noMetatable, ← border]
    rfl
  rw [Tables.lengthOf, Run.bind_of_done length]
  rfl

/-- The texts of a table that has been filled with them are joined, if there is memory. -/
theorem concat_fills (fills : Table.Fills (texts.map .str) (s.table ref)) (caller : Caller)
    (separator : Bytes) (few : texts.length < 2 ^ 62) :
    (∃ charge, runBuiltin (.table .concat) caller #[.table ref, .str separator] s =
      .done #[.str (joinedBy separator texts)] { s with charge }) ∨
    runBuiltin (.table .concat) caller #[.table ref, .str separator] s = .fail .memory s := by
  have size : Tables.size caller #[.table ref, .str separator] 1 { reads := true } s =
      .done (Int64.ofNat texts.length) s := lengthOf_fills fills caller few
  have joins : runBuiltin (.table .concat) caller #[.table ref, .str separator] s =
      (if 1 > Int64.ofNat texts.length then return #[.str ByteArray.empty]
      else do
        let text ← Tables.join caller (.table ref) separator
          (((Int64.ofNat texts.length).toInt - (1 : Int64).toInt).toNat + 1) 1 ByteArray.empty
        Run.charge text.size
        return #[.str text] : Run (Array Value)) s :=
    Run.bind_of_done size
  rw [joins]
  cases texts with
  | nil => exact .inl ⟨s.charge, rfl⟩
  | cons text rest =>
      have toInt : (Int64.ofNat (text :: rest).length).toInt = (text :: rest).length :=
        Int64.toInt_ofNat_of_lt (Nat.lt_trans few (by decide))
      have isSome : ¬(1 : Int64) > Int64.ofNat (text :: rest).length := by
        rw [gt_iff_lt, Int64.lt_iff_toInt_lt, toInt, List.length_cons, Int.not_lt]
        exact Int.ofNat_le.mpr (Nat.succ_pos rest.length)
      have count : ((Int64.ofNat (text :: rest).length).toInt - (1 : Int64).toInt).toNat + 1 =
          (text :: rest).length := by
        rw [toInt]
        simp
      have all : Tables.join caller (.table ref) separator (text :: rest).length 1 ByteArray.empty s =
          .done (joinedBy separator (text :: rest)) s := by
        have joined := join_fills fills caller separator few
          (List.nil_append _).symm ByteArray.empty
        rwa [ByteArray.empty_append] at joined
      rw [if_neg isSome, count, Run.bind_of_done all]
      obtain ⟨charge, charged⟩ | noMemory :=
        charge_cases (joinedBy separator (text :: rest)).size s
      · exact .inl ⟨charge, Run.bind_of_done charged⟩
      · exact .inr (Run.bind_of_fail noMemory)

end Joining

end LuaSession.Library
