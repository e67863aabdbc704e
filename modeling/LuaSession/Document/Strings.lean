import LuaSession.Document.Spacing

/-!
# Strings of documents

Bare words, quoted strings with escapes, raw strings between `#` marks, and the
forms of the last two that span lines. A string that spans lines drops the
blanks that stand before its closing quotes from the front of every line.
-/

namespace LuaSession.Document

/-- The character that a backslash and a letter stand for. -/
def plainEscape? : Char → Option Char
  | '"' => some '"'
  | '\\' => some '\\'
  | 'b' => some '\x08'
  | 'f' => some '\x0c'
  | 'n' => some '\n'
  | 'r' => some '\r'
  | 't' => some '\t'
  | 's' => some ' '
  | _ => none

/-- Read the hexadecimal digits of a `\u` escape up to the closing brace: at
most `room` more digits. -/
def readCodePoint? : (room : Nat) → (value : Nat) → List Char → Option (Nat × List Char)
  | _, value, '\x7d' :: rest => some (value, rest)
  | room + 1, value, c :: rest => do
      readCodePoint? room (value * 16 + (← digitValue? 16 c)) rest
  | _, _, _ => none

/-- A code point that is a character. -/
def character? (n : Nat) : Option Char :=
  if n.isValidChar then some (Char.ofNat n) else none

/-- The character of a `\u` escape, whose opening brace has been read. -/
def unicodeEscape? (cs : List Char) : Option (Char × List Char) := do
  match cs with
  | '\x7d' :: _ => none
  | _ =>
      let (n, rest) ← readCodePoint? 6 0 cs
      return (← character? n, rest)

/-- Drop the blanks and line breaks that a backslash escapes. -/
def dropEscapedSpace (cs : List Char) : List Char :=
  cs.dropWhile fun c => isSpace c || isBreak c

/-- The body of a quoted string on one line, up to its closing quote. -/
def readQuoted? : (fuel : Nat) → List Char → Option (List Char × List Char)
  | _ + 1, '"' :: rest => some ([], rest)
  | fuel + 1, '\\' :: 'u' :: '\x7b' :: rest => do
      let (c, rest) ← unicodeEscape? rest
      let (body, rest) ← readQuoted? fuel rest
      return (c :: body, rest)
  | fuel + 1, '\\' :: c :: rest =>
      match plainEscape? c with
      | some e => do
          let (body, rest) ← readQuoted? fuel rest
          return (e :: body, rest)
      | none =>
          if isSpace c || isBreak c then readQuoted? fuel (dropEscapedSpace rest) else none
  | fuel + 1, c :: rest =>
      if isBreak c || isForbidden c || c == '\\' then none
      else do
        let (body, rest) ← readQuoted? fuel rest
        return (c :: body, rest)
  | _, _ => none

/-- Does the text begin with `n` times the character `c`? Then what follows. -/
def dropMarks? (c : Char) : (n : Nat) → List Char → Option (List Char)
  | 0, rest => some rest
  | n + 1, d :: rest => if d == c then dropMarks? c n rest else none
  | _ + 1, [] => none

/-- The body of a raw string up to `quotes` quotes and `marks` marks. -/
def readRaw? (quotes marks : Nat) (lines : Bool) : List Char → Option (List Char × List Char)
  | [] => none
  | c :: rest =>
      match dropMarks? '"' quotes (c :: rest) >>= dropMarks? '#' marks with
      | some rest => some ([], rest)
      | none =>
          if isForbidden c || (!lines && isBreak c) then none
          else (readRaw? quotes marks lines rest).map fun (body, rest) => (c :: body, rest)

/-- The body of a quoted string that spans lines, up to its closing quotes:
escaped blanks are dropped, other escapes stay as they are written. -/
def readLines? : (fuel : Nat) → List Char → Option (List Char × List Char)
  | _ + 1, '"' :: '"' :: '"' :: rest => some ([], rest)
  | fuel + 1, '\\' :: c :: rest =>
      if isSpace c || isBreak c then readLines? fuel (dropEscapedSpace rest)
      else do
        let (body, rest) ← readLines? fuel rest
        return ('\\' :: c :: body, rest)
  | fuel + 1, c :: rest =>
      if isForbidden c || c == '\\' then none
      else do
        let (body, rest) ← readLines? fuel rest
        return (c :: body, rest)
  | _, _ => none

/-- Split a text at its line breaks. -/
def splitLines : List Char → List (List Char)
  | [] => [[]]
  | '\r' :: '\n' :: rest => [] :: splitLines rest
  | c :: rest =>
      if isBreak c then [] :: splitLines rest
      else
        match splitLines rest with
        | line :: lines => (c :: line) :: lines
        | [] => [[c]]

/-- Take the margin from the front of a line; a blank line becomes empty. -/
def dropMargin? (margin line : List Char) : Option (List Char) :=
  if line.all isSpace then some []
  else if margin.isPrefixOf line then some (line.drop margin.length)
  else none

/-- The text of a string that spans lines: its first line is empty, its last
line is the margin, and the lines between lose the margin. -/
def dedent? (body : List Char) : Option (List Char) :=
  match splitLines body with
  | [] :: lines =>
      match lines.getLast? with
      | some margin =>
          if margin.all isSpace then do
            let lines ← lines.dropLast.mapM (dropMargin? margin)
            return List.intercalate ['\n'] lines
          else none
      | none => none
  | _ => none

/-- Put the characters for the escapes that `readLines?` left. -/
def unescape? : (fuel : Nat) → List Char → Option (List Char)
  | _, [] => some []
  | fuel + 1, '\\' :: 'u' :: '\x7b' :: rest => do
      let (c, rest) ← unicodeEscape? rest
      return c :: (← unescape? fuel rest)
  | fuel + 1, '\\' :: c :: rest => do
      let e ← plainEscape? c
      return e :: (← unescape? fuel rest)
  | fuel + 1, c :: rest => do
      if c == '\\' then none else return c :: (← unescape? fuel rest)
  | 0, _ :: _ => none

/-- Read a string that starts with a quote. -/
def readQuotedString? (cs : List Char) : Option (List Char × List Char) := do
  match cs with
  | '"' :: '"' :: '"' :: rest =>
      let (body, rest) ← readLines? (rest.length + 1) rest
      let text ← dedent? body
      return (← unescape? text.length text, rest)
  | '"' :: rest => readQuoted? (rest.length + 1) rest
  | _ => none

/-- Read a raw string, which starts with at least one mark. -/
def readRawString? (cs : List Char) : Option (List Char × List Char) := do
  let marks := (cs.takeWhile (· == '#')).length
  match cs.drop marks with
  | '"' :: '"' :: '"' :: rest =>
      if marks == 0 then none
      else
        match readRaw? 3 marks true rest with
        | some (body, rest) => return (← dedent? body, rest)
        | none => none
  | '"' :: rest => if marks == 0 then none else readRaw? 1 marks false rest
  | _ => none

/-- May a bare word have this form? A sign or a point may open it unless a
digit follows, and it is no reserved word. -/
def isBareWord (word : List Char) : Bool :=
  let unsigned := match word with
    | c :: rest => if isSign c then rest else word
    | [] => []
  let opensNumber := match unsigned with
    | '.' :: c :: _ => c.isDigit
    | c :: _ => c.isDigit
    | [] => false
  !word.isEmpty && !opensNumber && !isReserved word

/-- Read a bare word. -/
def readBareWord? (cs : List Char) : Option (List Char × List Char) :=
  let word := cs.takeWhile isWord
  if isBareWord word then some (word, cs.dropWhile isWord) else none

/-- Read a string of any form. -/
def readString? (cs : List Char) : Option (String × List Char) := do
  let (body, rest) ← match cs with
    | '"' :: _ => readQuotedString? cs
    | '#' :: _ => readRawString? cs
    | _ => readBareWord? cs
  return (String.ofList body, rest)

end LuaSession.Document
