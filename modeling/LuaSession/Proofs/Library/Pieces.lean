import LuaSession.Proofs.Library.Writing
import LuaSession.Proofs.Text.Broken

/-!
# Writing pieces

A byte string can be written in pieces, as the arguments of one write. Each piece is read
as a text on its own, so it matters where the byte string is cut: as long as no cut goes
through a character, the message is what the whole byte string is read as, and otherwise
it is another one.
-/

namespace LuaSession.Library

open LuaSession.Script

namespace Hosted

/-- The byte string that pieces make. -/
def joined (pieces : List Bytes) : Bytes := pieces.foldr (· ++ ·) ByteArray.empty

/-- Some cut between pieces goes through a character. -/
def CutsSome (pieces : List Bytes) : Prop := Utf8.SplitsSome (pieces.map (·.toList))

theorem toList_joined (pieces : List Bytes) :
    (joined pieces).toList = (pieces.map (·.toList)).flatten := by
  induction pieces with
  | nil => simp [joined]
  | cons piece pieces ih =>
      rw [List.map_cons, List.flatten_cons, ← ih]
      simp [joined]

/-- What pieces are read as, one after the other. -/
theorem join_lossy (pieces : List Bytes) :
    String.join (pieces.map Utf8.lossy) =
      String.ofList ((pieces.map (·.toList)).flatMap (Utf8.chars .start)) := by
  induction pieces with
  | nil => rfl
  | cons piece pieces ih =>
      rw [List.map_cons, String.join_cons, ih, List.map_cons, List.flatMap_cons,
        String.ofList_append]
      rfl

/-- They are read as the whole is, if and only if no cut goes through a character. -/
theorem join_lossy_iff (pieces : List Bytes) :
    String.join (pieces.map Utf8.lossy) = Utf8.lossy (joined pieces) ↔ ¬CutsSome pieces := by
  rw [join_lossy, Utf8.lossy, toList_joined, String.ofList_inj]
  exact Utf8.chars_flatten_iff _

/-- One write of pieces. -/
def writePieces (ref : Nat) (caller : Caller) (pieces : List Bytes) : Run (Array Value) :=
  runBuiltin (.adapter .write) caller (.handle ref :: pieces.map .str).toArray

variable {s : Store} {ref : Nat}

/-- Messages that leave the same store behind are the same. -/
theorem emit_written_inj {text other : String}
    (same : s.emit (.written text) = s.emit (.written other)) : text = other := by
  have emitted := congrArg (fun s : Store => s.world.emitted) same
  exact Emission.written.inj (Array.push_inj_right.mp emitted)

section Write

variable (isAdapter : s.resource ref = .adapter) (caller : Caller)

include isAdapter

/-- Pieces are published as one message. -/
theorem writePieces_eq (pieces : List Bytes) :
    writePieces ref caller pieces s =
      .done #[.handle ref] (s.emit (.written (String.join (pieces.map Utf8.lossy)))) := by
  have texts : ∀ value ∈ pieces.map Value.str, IsText value := by
    intro value isPiece
    obtain ⟨piece, _, rfl⟩ := List.mem_map.mp isPiece
    exact .inl rfl
  have reads : (pieces.map Value.str).map written = pieces.map Utf8.lossy := by
    rw [List.map_map]
    rfl
  rw [writePieces, write_texts isAdapter caller texts, reads]

/-- Two writes of pieces do the same if and only if they publish the same message. -/
theorem writePieces_eq_iff (pieces others : List Bytes) :
    writePieces ref caller pieces s = writePieces ref caller others s ↔
      String.join (pieces.map Utf8.lossy) = String.join (others.map Utf8.lossy) := by
  rw [writePieces_eq isAdapter, writePieces_eq isAdapter]
  constructor
  · intro same
    injection same with _ same
    exact emit_written_inj same
  · intro same
    rw [same]

/-- What is written in pieces is published as it is when it is written as a whole, if and
only if no cut goes through a character. -/
theorem writePieces_joined_iff (pieces : List Bytes) :
    writePieces ref caller pieces s = writePieces ref caller [joined pieces] s ↔
      ¬CutsSome pieces := by
  rw [writePieces_eq_iff isAdapter, ← join_lossy_iff]
  simp [String.join]

end Write

/-- One write of pieces, in whatever store the adapter is, whoever calls it.

The message has the pieces one after the other, each read on its own. It is what the whole
byte string is published as if and only if no cut between the pieces goes through a
character; so no two ways to cut that go through none differ, and one that does differs
from one that does not. Of a byte string all ways to cut publish the same if and only if
no cut of it in two goes through a character. Texts can be cut between their characters. -/
theorem write_pieces (isAdapter : s.resource ref = .adapter) (caller : Caller) :
    (∀ pieces, writePieces ref caller pieces s =
      .done #[.handle ref] (s.emit (.written (String.join (pieces.map Utf8.lossy))))) ∧
    (∀ pieces, writePieces ref caller pieces s = writePieces ref caller [joined pieces] s ↔
      ¬CutsSome pieces) ∧
    (∀ pieces others, joined pieces = joined others → ¬CutsSome pieces →
      (writePieces ref caller pieces s = writePieces ref caller others s ↔ ¬CutsSome others)) ∧
    (∀ bytes, (∀ pieces others, joined pieces = bytes → joined others = bytes →
        writePieces ref caller pieces s = writePieces ref caller others s) ↔
      ∀ front back, front ++ back = bytes.toList → ¬Utf8.Splits front back) ∧
    ∀ texts : List String, writePieces ref caller (texts.map String.toUTF8) s =
      writePieces ref caller [(String.join texts).toUTF8] s := by
  have whole := writePieces_joined_iff isAdapter caller
  refine ⟨writePieces_eq isAdapter caller, whole, fun pieces others same uncut => ?_,
    fun bytes => ⟨fun same front back isWhole => ?_, fun uncut => ?_⟩, fun texts => ?_⟩
  · rw [(whole pieces).mpr uncut, same, ← whole]
    exact eq_comm
  · have joins : joined [front.toByteArray, back.toByteArray] = bytes := by
      refine ByteArray.ext (Array.toList_inj.mp ?_)
      rw [← toList_eq_data, toList_joined, ← toList_eq_data, ← isWhole]
      simp
    have uncut := (whole _).mp (same _ [joined _] joins (by simpa [joined] using joins))
    refine fun splits => uncut ⟨[front], [back], ?_, ?_⟩
    · simp
    · simpa using splits
  · have uncut (pieces : List Bytes) (joins : joined pieces = bytes) : ¬CutsSome pieces := by
      rintro ⟨before, after, split, splits⟩
      refine uncut _ _ ?_ splits
      rw [← List.flatten_append, ← split, ← toList_joined, joins]
    intro pieces others isWhole isWhole'
    rw [(whole pieces).mpr (uncut pieces isWhole), (whole others).mpr (uncut others isWhole'),
      isWhole, isWhole']
  · rw [writePieces_eq_iff isAdapter, List.map_map, List.map_cons, List.map_nil,
      Utf8.lossy_toUTF8]
    have reads : Utf8.lossy ∘ String.toUTF8 = id := funext Utf8.lossy_toUTF8
    rw [reads, List.map_id, String.join_cons, String.join_nil, String.append_empty]

/-- Two characters that are cut between them, and one that is cut through. -/
theorem write_pieces_cut :
    let write := writePieces 0 default
    threeResources.resource 0 = .adapter ∧
      write ["é".toUTF8, "x".toUTF8] threeResources = write ["éx".toUTF8] threeResources ∧
      write [⟨#[0xC3]⟩, ⟨#[0xA9]⟩] threeResources ≠ write ["é".toUTF8] threeResources := by
  have isAdapter : threeResources.resource 0 = .adapter := rfl
  obtain ⟨_, whole, _, _, texts⟩ := write_pieces isAdapter default
  refine ⟨isAdapter, ?_, fun agree => ?_⟩
  · have joins : String.join ["é", "x"] = "éx" := by decide +kernel
    rw [← joins]
    exact texts ["é", "x"]
  · have joins : joined [⟨#[0xC3]⟩, ⟨#[0xA9]⟩] = "é".toUTF8 := by decide
    have takes : (Utf8.readTo .start [0xC3]).Takes 0xA9 :=
      show (0x80 : UInt8) ≤ 0xA9 ∧ (0xA9 : UInt8) ≤ 0xBF by decide
    rw [← joins, whole] at agree
    exact agree ⟨[[0xC3]], [[0xA9]], by simp, 0xA9, rfl, takes⟩

/-- A character that is cut in two is not published as it is when it is written as a
whole. -/
theorem write_pieces_differ :
    ¬∀ (s : Store) (ref : Nat) (caller : Caller) (pieces others : List Bytes),
      s.resource ref = .adapter → joined pieces = joined others →
        writePieces ref caller pieces s = writePieces ref caller others s := by
  intro always
  have isAdapter : threeResources.resource 0 = .adapter := rfl
  have same := always threeResources 0 default [⟨#[0xC3]⟩, ⟨#[0xA9]⟩] [⟨#[0xC3, 0xA9]⟩] isAdapter
    (by decide)
  rw [writePieces_eq_iff isAdapter] at same
  revert same
  decide +kernel

end Hosted

end LuaSession.Library
