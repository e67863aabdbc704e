import LuaSession.Document.Character

/-!
# Space between the parts of a document

Blanks, comments, line breaks and continued lines. Each function drops what it
names from the front of the text; `none` means that a comment is not closed.
-/

namespace LuaSession.Document

/-- Drop one line break; CR LF counts as one. -/
def dropBreak? : List Char → Option (List Char)
  | '\r' :: '\n' :: rest => some rest
  | c :: rest => if isBreak c then some rest else none
  | [] => none

/-- Drop the rest of the line and its break. -/
def dropLine : List Char → List Char
  | [] => []
  | '\r' :: '\n' :: rest => rest
  | c :: rest => if isBreak c then rest else dropLine rest

/-- Drop the rest of a block comment that is open `depth + 1` times. -/
def dropComment? : (depth : Nat) → List Char → Option (List Char)
  | _, [] => none
  | depth, '/' :: '*' :: rest => dropComment? (depth + 1) rest
  | 0, '*' :: '/' :: rest => some rest
  | depth + 1, '*' :: '/' :: rest => dropComment? depth rest
  | depth, _ :: rest => dropComment? depth rest

/-- Drop blanks and block comments. `fuel` bounds their number. -/
def dropBlanks? : (fuel : Nat) → List Char → Option (List Char)
  | 0, cs => some cs
  | fuel + 1, '/' :: '*' :: rest => dropComment? 0 rest >>= dropBlanks? fuel
  | fuel + 1, c :: rest => if isSpace c then dropBlanks? fuel rest else some (c :: rest)
  | _ + 1, [] => some []

/-- Drop what may stand between two lines: blanks, breaks and comments. -/
def dropLines? : (fuel : Nat) → List Char → Option (List Char)
  | 0, cs => some cs
  | fuel + 1, '/' :: '*' :: rest => dropComment? 0 rest >>= dropLines? fuel
  | fuel + 1, '/' :: '/' :: rest => dropLines? fuel (dropLine rest)
  | fuel + 1, c :: rest =>
      if isSpace c || isBreak c then dropLines? fuel rest else some (c :: rest)
  | _ + 1, [] => some []

/-- After a backslash: drop blanks and one line break, or a line comment. -/
def dropContinuation? (cs : List Char) : Option (List Char) := do
  let rest ← dropBlanks? cs.length cs
  match rest with
  | [] => some []
  | '/' :: '/' :: rest => some (dropLine rest)
  | rest => dropBreak? rest

/-- Drop what may stand between two parts of a node: blanks, block comments and
continued lines. -/
def dropNodeSpace? : (fuel : Nat) → List Char → Option (List Char)
  | 0, cs => some cs
  | fuel + 1, cs => do
      match ← dropBlanks? cs.length cs with
      | '\\' :: rest =>
          match dropContinuation? rest with
          | some rest => dropNodeSpace? fuel rest
          | none => none
      | rest => some rest

end LuaSession.Document
