/-!
# Reading bytes as text

Script strings are byte strings; messages are text. This module reads a byte
sequence as UTF-8. `Utf8.lossy` puts one replacement character for every
maximal broken subpart, and `Utf8.fault?` names the first place where a strict
reading fails.

Both are runs of one small automaton, `Utf8.State`, which holds what the bytes
read so far still owe.
-/

namespace LuaSession

/-- Script strings and file contents: sequences of bytes. -/
abbrev Bytes := ByteArray

instance : DecidableEq Bytes := ByteArray.instDecidableEq

namespace Utf8

/-- The character put in place of bytes that are no UTF-8. -/
def replacement : Char := '\uFFFD'

/-- What stands between two bytes of a sequence. -/
inductive State where
  /-- Between characters. -/
  | start
  /-- Inside a character: `owed + 1` bytes are missing, the next one lies in
  `low … high`, and `value` collects the bits. -/
  | inside (owed : Nat) (low high : UInt8) (value : Nat)
  deriving DecidableEq, Repr

/-- What one byte does between characters. -/
inductive Opening where
  /-- It is a character by itself. -/
  | single (c : Char)
  /-- It opens a longer character. -/
  | opens (state : State)
  /-- No character starts with it. -/
  | broken
  deriving DecidableEq, Repr

/-- The bytes that may open a character, and what they owe. -/
def Opening.ofByte (b : UInt8) : Opening :=
  if b < 0x80 then .single (Char.ofNat b.toNat)
  else if b < 0xC2 then .broken
  else if b < 0xE0 then .opens (.inside 0 0x80 0xBF (b.toNat - 0xC0))
  else if b == 0xE0 then .opens (.inside 1 0xA0 0xBF 0)
  else if b == 0xED then .opens (.inside 1 0x80 0x9F (b.toNat - 0xE0))
  else if b < 0xF0 then .opens (.inside 1 0x80 0xBF (b.toNat - 0xE0))
  else if b == 0xF0 then .opens (.inside 2 0x90 0xBF 0)
  else if b < 0xF4 then .opens (.inside 2 0x80 0xBF (b.toNat - 0xF0))
  else if b == 0xF4 then .opens (.inside 2 0x80 0x8F (b.toNat - 0xF0))
  else .broken

/-- The bits that a continuation byte adds. -/
def State.shift (value : Nat) (b : UInt8) : Nat := value * 64 + (b.toNat - 0x80)

/-- The characters of a byte sequence read from `state`, with one replacement
character for every maximal broken subpart. -/
def chars : State → List UInt8 → List Char
  | .start, [] => []
  | .inside .., [] => [replacement]
  | .start, b :: rest =>
      match Opening.ofByte b with
      | .single c => c :: chars .start rest
      | .opens state => chars state rest
      | .broken => replacement :: chars .start rest
  | .inside owed low high value, b :: rest =>
      if low ≤ b ∧ b ≤ high then
        match owed with
        | 0 => Char.ofNat (State.shift value b) :: chars .start rest
        | n + 1 => chars (.inside n 0x80 0xBF (State.shift value b)) rest
      else
        match Opening.ofByte b with
        | .single c => replacement :: c :: chars .start rest
        | .opens state => replacement :: chars state rest
        | .broken => replacement :: replacement :: chars .start rest

/-- A byte sequence as text; broken parts become replacement characters. -/
def lossy (bytes : Bytes) : String := String.ofList (chars .start bytes.toList)

/-- Where a strict reading first fails. -/
structure Fault where
  /-- How many bytes before it are sound. -/
  index : Nat
  /-- How many bytes are broken there; `none` when the text only breaks off. -/
  width : Option Nat
  deriving DecidableEq, Repr

/-- Scan from `state`, where `index` sound bytes lie before the open character
and `taken` bytes belong to it. -/
def fault? : State → (index taken : Nat) → List UInt8 → Option Fault
  | .start, _, _, [] => none
  | .inside .., index, _, [] => some ⟨index, none⟩
  | .start, index, _, b :: rest =>
      match Opening.ofByte b with
      | .single _ => fault? .start (index + 1) 0 rest
      | .opens state => fault? state index 1 rest
      | .broken => some ⟨index, some 1⟩
  | .inside owed low high value, index, taken, b :: rest =>
      if low ≤ b ∧ b ≤ high then
        match owed with
        | 0 => fault? .start (index + taken + 1) 0 rest
        | n + 1 => fault? (.inside n 0x80 0xBF (State.shift value b)) index (taken + 1) rest
      else some ⟨index, some taken⟩

/-- The first fault of a byte sequence, if it is not UTF-8. -/
def firstFault? (bytes : Bytes) : Option Fault := fault? .start 0 0 bytes.toList

/-- A byte sequence as text, if it is UTF-8. -/
def decode? (bytes : Bytes) : Option String := String.fromUTF8? bytes

/-- The wording of a fault. -/
def Fault.message (fault : Fault) : String :=
  match fault.width with
  | some n => s!"invalid utf-8 sequence of {n} bytes from index {fault.index}"
  | none => s!"incomplete utf-8 byte sequence from index {fault.index}"

end Utf8

/-- The bytes of a text. -/
def Bytes.ofString (text : String) : Bytes := text.toUTF8

end LuaSession
