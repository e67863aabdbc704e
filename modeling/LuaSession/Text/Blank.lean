/-!
# Blank characters

`Text.isBlank` is the Unicode property White_Space. Trimming a text removes
blank characters at its ends.
-/

namespace LuaSession.Text

/-- The characters with the Unicode property White_Space. -/
def isBlank (c : Char) : Bool :=
  let n := c.toNat
  (9 ≤ n && n ≤ 13) || n == 0x20 || n == 0x85 || n == 0xA0 || n == 0x1680 ||
    (0x2000 ≤ n && n ≤ 0x200A) || n == 0x2028 || n == 0x2029 || n == 0x202F ||
    n == 0x205F || n == 0x3000

/-- Drop the blank characters at the end. -/
def dropBlankEnd (cs : List Char) : List Char := (cs.reverse.dropWhile isBlank).reverse

/-- A text without blank characters at its end. -/
def trimEnd (text : String) : String := String.ofList (dropBlankEnd text.toList)

/-- A text without blank characters at both ends. -/
def trim (text : String) : String :=
  String.ofList (dropBlankEnd (text.toList.dropWhile isBlank))

/-- The part before the first occurrence of `mark`, if it occurs. -/
def before? (mark : List Char) : List Char → Option (List Char)
  | [] => if mark.isEmpty then some [] else none
  | c :: rest =>
      if mark.isPrefixOf (c :: rest) then some []
      else (before? mark rest).map (c :: ·)

/-- The index, in characters, of the first occurrence of `mark`. -/
def indexOf? (mark : List Char) (cs : List Char) : Option Nat :=
  (before? mark cs).map List.length

end LuaSession.Text
