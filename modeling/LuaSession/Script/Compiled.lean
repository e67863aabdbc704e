import LuaSession.Script.Heap

/-!
# Compiled scripts

A compiled script is a header, which is checked byte by byte, and a number that
names a function of the store.
-/

namespace LuaSession.Script.Compiled

/-- The parts of the header, and what is wrong when a part differs. -/
def header : List (List UInt8 × String) :=
  [ ("\x1bLua".toUTF8.toList, "not a binary chunk"),
    ([0x54], "version mismatch"),
    ([0x00], "format mismatch"),
    ([0x19, 0x93, 0x0D, 0x0A, 0x1A, 0x0A], "corrupted chunk"),
    ([4], "Instruction size mismatch"),
    ([8], "lua_Integer size mismatch"),
    ([8], "lua_Number size mismatch"),
    ([0x78, 0x56, 0, 0, 0, 0, 0, 0], "integer format mismatch"),
    ([0, 0, 0, 0, 0, 0x28, 0x77, 0x40], "float format mismatch") ]

/-- What is wrong with a compiled script that breaks off. -/
def truncated : String := "truncated chunk"

/-- Drop the header from the front. -/
def dropHeader : List (List UInt8 × String) → List UInt8 → Except String (List UInt8)
  | [], bytes => .ok bytes
  | (part, trouble) :: parts, bytes =>
      if bytes.length < part.length then .error truncated
      else if part.isPrefixOf bytes then dropHeader parts (bytes.drop part.length)
      else .error trouble

/-- The bytes of a number, the lowest first. -/
def numberBytes : (count n : Nat) → List UInt8
  | 0, _ => []
  | count + 1, n => UInt8.ofNat (n % 256) :: numberBytes count (n / 256)

/-- The number that bytes stand for. -/
def ofBytes : List UInt8 → Nat
  | [] => 0
  | b :: rest => b.toNat + 256 * ofBytes rest

/-- How many bytes name a function. -/
def nameSize : Nat := 8

/-- A function as a compiled script. -/
def encode (s : Store) (code : Code) : Bytes × Store :=
  let name := numberBytes nameSize s.heap.compiled.size
  let front := (header.map Prod.fst).flatten
  ((front ++ name).toByteArray,
    { s with heap := { s.heap with compiled := s.heap.compiled.push code } })

/-- The function of a compiled script. -/
def decode (s : Store) (bytes : Bytes) : Except String Code := do
  let rest ← dropHeader header bytes.toList
  if rest.length < nameSize then .error truncated
  else
    match s.heap.compiled[ofBytes (rest.take nameSize)]? with
    | some code => .ok code
    | none => .error truncated

end LuaSession.Script.Compiled
