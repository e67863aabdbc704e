import LuaSession.Document.Numbers
import LuaSession.Document.Strings

/-!
# Reading documents

`Document.read?` reads a KDL document, version 2. A slash and a dash comment out
the node, the entry or the block of children that follows.
-/

namespace LuaSession.Document

/-- The keywords, each with its mark. -/
def keywords : List (List Char × Scalar) :=
  [("#true".toList, .bool true), ("#false".toList, .bool false), ("#null".toList, .null),
    ("#inf".toList, .float "#inf"), ("#-inf".toList, .float "#-inf"), ("#nan".toList, .float "#nan")]

/-- Read a keyword. -/
def readKeyword? (cs : List Char) : Option (Scalar × List Char) := do
  let word := '#' :: (cs.drop 1).takeWhile isWord
  let (_, value) ← keywords.find? fun entry => entry.1 == word
  return (value, cs.drop word.length)

/-- Read a type annotation if one stands here, and the space after it. -/
def readAnnotation? (cs : List Char) : Option (List Char) := do
  match cs with
  | '(' :: rest =>
      let rest ← dropNodeSpace? rest.length rest
      let (_, rest) ← readString? rest
      match ← dropNodeSpace? rest.length rest with
      | ')' :: rest => dropNodeSpace? rest.length rest
      | _ => none
  | _ => some cs

/-- Read a value without its annotation. -/
def readScalar? (cs : List Char) : Option (Scalar × List Char) :=
  if startsNumber cs then readNumber? cs
  else
    match cs with
    | '#' :: _ =>
        match readKeyword? cs with
        | some result => some result
        | none => (readString? cs).map fun (text, rest) => (.string text, rest)
    | _ => (readString? cs).map fun (text, rest) => (.string text, rest)

/-- Read a value with its annotation. -/
def readValue? (cs : List Char) : Option (Scalar × List Char) :=
  readAnnotation? cs >>= readScalar?

/-- Read a property: a key, an equals sign and a value. `none` of the outer
option is a broken property, of the inner one no property. -/
def readProperty? (cs : List Char) : Option (Option (Item × List Char)) :=
  match readString? cs with
  | none => some none
  | some (key, rest) =>
      match dropNodeSpace? rest.length rest with
      | some ('=' :: rest) => do
          let rest ← dropNodeSpace? rest.length rest
          let (value, rest) ← readValue? rest
          return some (⟨some key, value⟩, rest)
      | _ => some none

/-- Read a property or a positional argument. -/
def readItem? (cs : List Char) : Option (Item × List Char) := do
  match ← readProperty? cs with
  | some result => return result
  | none =>
      let (value, rest) ← readValue? cs
      return (⟨none, value⟩, rest)

/-- The parts of a node after its name. -/
structure Parts where
  items : List Item := []
  children : Option (List Node) := none
  /-- A block of children has been seen, commented out or not: no entry may
  follow. -/
  closed : Bool := false

/-- Drop the end of a node, if it ends here: a semicolon, a line break, a line
comment or the end of the text. A closing brace ends a node too and stays. -/
def dropTerminator? : List Char → Option (List Char)
  | [] => some []
  | ';' :: rest => some rest
  | '\x7d' :: rest => some ('\x7d' :: rest)
  | '/' :: '/' :: rest => some (dropLine rest)
  | cs => dropBreak? cs

mutual

/-- Read nodes up to the end of the text or a closing brace. -/
def readNodes? : (fuel : Nat) → List Char → Option (List Node × List Char)
  | 0, _ => none
  | fuel + 1, cs => do
      match ← dropLines? cs.length cs with
      | [] => return ([], [])
      | '\x7d' :: rest => return ([], '\x7d' :: rest)
      | '/' :: '-' :: rest =>
          let rest ← dropLines? rest.length rest
          let (_, rest) ← readNode? fuel rest
          readNodes? fuel rest
      | cs =>
          let (node, rest) ← readNode? fuel cs
          let (nodes, rest) ← readNodes? fuel rest
          return (node :: nodes, rest)

/-- Read one node and its end. -/
def readNode? : (fuel : Nat) → List Char → Option (Node × List Char)
  | 0, _ => none
  | fuel + 1, cs => do
      let rest ← readAnnotation? cs
      let (name, rest) ← readString? rest
      let (parts, rest) ← readParts? fuel {} rest
      return (.mk name parts.items.reverse parts.children, rest)

/-- Read what follows the name of a node, up to and with its end. -/
def readParts? : (fuel : Nat) → Parts → List Char → Option (Parts × List Char)
  | 0, _, _ => none
  | fuel + 1, parts, cs => do
      let rest ← dropNodeSpace? cs.length cs
      let spaced := rest.length < cs.length
      match rest with
      | '\x7b' :: rest =>
          if parts.children.isSome then none
          else
            let (children, rest) ← readBlock? fuel rest
            readParts? fuel { parts with children := some children, closed := true } rest
      | '/' :: '-' :: rest =>
          match ← dropLines? rest.length rest with
          | '\x7b' :: rest =>
              let (_, rest) ← readBlock? fuel rest
              readParts? fuel { parts with closed := true } rest
          | rest =>
              if parts.closed || !spaced then none
              else
                let (_, rest) ← readItem? rest
                readParts? fuel parts rest
      | rest =>
          match dropTerminator? rest with
          | some rest => return (parts, rest)
          | none =>
              if parts.closed || !spaced then none
              else
                let (item, rest) ← readItem? rest
                readParts? fuel { parts with items := item :: parts.items } rest

/-- Read a block of children, whose opening brace has been read. -/
def readBlock? : (fuel : Nat) → List Char → Option (List Node × List Char)
  | 0, _ => none
  | fuel + 1, cs => do
      match ← readNodes? fuel cs with
      | (nodes, '\x7d' :: rest) => return (nodes, rest)
      | _ => none

end

/-- Read a document; `none` if the text is none. Each step of the reader eats a
character or opens a part, so three times the length bounds their number. -/
def read? (text : String) : Option Document := do
  let cs := match text.toList with
    | '\uFEFF' :: rest => rest
    | cs => cs
  match ← readNodes? (3 * cs.length + 3) cs with
  | (nodes, []) => return nodes
  | _ => none

end LuaSession.Document
