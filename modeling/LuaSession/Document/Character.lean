/-!
# Character classes of documents

The classes that the grammar of KDL documents (version 2) distinguishes: blanks
inside a line, line breaks, characters that no document may hold literally, and
the characters of bare words.
-/

namespace LuaSession.Document

/-- A blank inside a line. -/
def isSpace (c : Char) : Bool :=
  let n := c.toNat
  n == 9 || n == 0x20 || n == 0xA0 || n == 0x1680 || (0x2000 ≤ n && n ≤ 0x200A) ||
    n == 0x202F || n == 0x205F || n == 0x3000

/-- A line break, or a part of the pair CR LF. -/
def isBreak (c : Char) : Bool :=
  let n := c.toNat
  (10 ≤ n && n ≤ 13) || n == 0x85 || n == 0x2028 || n == 0x2029

/-- Control characters, direction marks and the byte order mark stand in no
document literally. -/
def isForbidden (c : Char) : Bool :=
  let n := c.toNat
  n ≤ 8 || (0x0E ≤ n && n ≤ 0x1F) || n == 0x200E || n == 0x200F ||
    (0x202A ≤ n && n ≤ 0x202E) || (0x2066 ≤ n && n ≤ 0x2069) || n == 0xFEFF

/-- The punctuation of the grammar, which ends a bare word. -/
def isPunctuation (c : Char) : Bool :=
  ['\\', '/', '(', ')', '{', '}', ';', '[', ']', '"', '#', '='].contains c

/-- A character of a bare word. -/
def isWord (c : Char) : Bool :=
  !(isSpace c || isBreak c || isForbidden c || isPunctuation c)

/-- The sign of a number. -/
def isSign (c : Char) : Bool := c == '+' || c == '-'

/-- Words that look like a keyword stand nowhere without their mark. -/
def isReserved (word : List Char) : Bool :=
  [['t', 'r', 'u', 'e'], ['f', 'a', 'l', 's', 'e'], ['n', 'u', 'l', 'l'], ['i', 'n', 'f'],
    ['-', 'i', 'n', 'f'], ['n', 'a', 'n']].contains word

/-- The value of a digit in the given base, up to sixteen. -/
def digitValue? (base : Nat) (c : Char) : Option Nat :=
  let value :=
    if '0' ≤ c ∧ c ≤ '9' then some (c.toNat - '0'.toNat)
    else if 'a' ≤ c ∧ c ≤ 'f' then some (c.toNat - 'a'.toNat + 10)
    else if 'A' ≤ c ∧ c ≤ 'F' then some (c.toNat - 'A'.toNat + 10)
    else none
  value.filter (· < base)

end LuaSession.Document
