import LuaSession.Proofs.Session.Keeping
import LuaSession.Proofs.Syntax.Environment
import LuaSession.Proofs.Text.Encoding

/-!
# The environment that scripts start with

Every script of the host is loaded into a new function, whose first variable is its
environment: a new variable, which holds the scope. What became of the variables of
other scripts does not matter.
-/

namespace LuaSession

open LuaSession.Script LuaSession.Library

/-! ## Texts are never compiled scripts -/

namespace Script.Compiled

theorem dropHeader_eq_ok {parts : List (List UInt8 × String)} {bytes rest : List UInt8}
    (dropped : dropHeader parts bytes = .ok rest) :
    bytes = (parts.map Prod.fst).flatten ++ rest := by
  induction parts generalizing bytes with
  | nil =>
      cases dropped
      rfl
  | cons part parts ih =>
      obtain ⟨part, trouble⟩ := part
      rw [dropHeader] at dropped
      split at dropped
      · contradiction
      · split at dropped
        next isPrefix =>
          obtain ⟨later, rfl⟩ := List.isPrefixOf_iff_prefix.mp isPrefix
          rw [List.drop_left] at dropped
          rw [List.map_cons, List.flatten_cons, List.append_assoc, ← ih dropped]
        next => contradiction

/-- The header has a byte that no character is encoded as, so no text is a compiled
script. -/
theorem decode_text (s : Store) (text : String) (code : Code) :
    decode s text.toUTF8 ≠ .ok code := by
  intro decoded
  cases dropped : dropHeader header text.toUTF8.toList with
  | error trouble =>
      rw [decode, dropped] at decoded
      contradiction
  | ok rest =>
      have split := dropHeader_eq_ok dropped
      have front : (header.map Prod.fst).flatten = [0x1B, 0x4C, 0x75, 0x61, 0x54, 0x00, 0x19] ++
          0x93 :: ((header.map Prod.fst).flatten.drop 8) := by
        rw [header, Utf8.toList_toUTF8]
        decide
      rw [front, Utf8.toList_toUTF8, List.append_assoc] at split
      obtain ⟨later, encoded⟩ := Utf8.encode_append_small (by simp) split
      obtain ⟨small, _⟩ | large := Utf8.encode_head encoded
      · exact absurd small (by decide)
      · exact absurd large (by decide)

end Script.Compiled

/-- What a text is read as captures its environment first. -/
theorem Interpreter.Reads.captures {s : Store} {chunk : Bytes} {source : String} {code : Code}
    (reads : Interpreter.Reads s chunk source.toUTF8 code) :
    code.info.captures[0]? = some (.slot 0) := by
  cases reads with
  | script read => exact Syntax.captures_readScript read
  | compiled _ decoded => exact absurd decoded (Compiled.decode_text s source code)

/-! ## The function of a script -/

namespace Library

namespace Loading

variable (s : Store) (environment : Option Value)

theorem newCells_succ (count : Nat) :
    newCells s environment (count + 1) =
      ((newCells s environment count).1.push (newCells s environment count).2.heap.cells.size,
        ((newCells s environment count).2.newCell (if count == 0 then
          environment.getD (.table (newCells s environment count).2.registry.globals)
            else .nil)).2) := by
  rw [newCells, List.range_succ, List.foldl_append, ← newCells]
  rfl

/-- They are new, and the first one comes behind all that there were. -/
theorem newCells_spec (count : Nat) :
    (newCells s environment count).2.heap.cells.size = s.heap.cells.size + count ∧
      (newCells s environment count).1.toList = List.range' s.heap.cells.size count := by
  induction count with
  | zero => exact ⟨rfl, rfl⟩
  | succ count ih =>
      obtain ⟨cells, made⟩ := ih
      rw [newCells_succ]
      refine ⟨?_, ?_⟩
      · change ((newCells s environment count).2.heap.cells.push _).size = _
        rw [Array.size_push, cells, Nat.add_assoc]
      · rw [Array.toList_push, made, cells, List.range'_concat, Nat.one_mul]

end Loading

end Library

end LuaSession
