import LuaSession.Syntax.Token

/-!
# Reading tokens

`Lexer.next` reads one token from the front of a script's bytes. It keeps the
text of the token as messages show it: delimiters included, escapes replaced.
-/

namespace LuaSession.Syntax.Lexer

/-- A token that was read: its text, the line on which it ends, and the bytes
that follow. -/
structure Lexed where
  token : Token
  buffer : Bytes
  line : Nat
  rest : List UInt8

abbrev Result := Except Trouble

/-- The bytes of a reversed list. -/
def reversed (bytes : List UInt8) : Bytes := bytes.reverse.toByteArray

def isBreak (b : UInt8) : Bool := b == 0x0A || b == 0x0D

def isLetter (b : UInt8) : Bool :=
  (0x61 ≤ b && b ≤ 0x7A) || (0x41 ≤ b && b ≤ 0x5A) || b == 0x5F

def isLetterOrDigit (b : UInt8) : Bool := isLetter b || Numeral.isDigit b

/-- A failure near the text read so far, which is held in reverse. -/
def failNear {α : Type} (line : Nat) (what : String) (buffer : List UInt8) : Result α :=
  .error (.at line what.toUTF8 (.text (beforeZero (reversed buffer))))

/-- A failure at the end of the script. -/
def failAtEnd {α : Type} (line : Nat) (what : String) : Result α :=
  .error (.at line what.toUTF8 .eof)

/-- Drop the second byte of a line break of two different bytes. -/
def dropSecond (first : UInt8) : List UInt8 → List UInt8
  | b :: rest => if isBreak b && b != first then rest else b :: rest
  | [] => []

/-- The number of `=` in front, and what follows them. -/
def countMarks : List UInt8 → Nat × List UInt8
  | 0x3D :: rest => let (n, rest) := countMarks rest; (n + 1, rest)
  | rest => (0, rest)

/-- Does a long bracket of some level open after `[`? -/
inductive Opening where
  /-- A long bracket, and the bytes after its second `[`. -/
  | long (level : Nat) (rest : List UInt8)
  /-- A single bracket. -/
  | single
  /-- A bracket and marks without a second bracket. -/
  | broken (marks : Nat)

/-- Look at what follows a `[`. -/
def Opening.ofBytes (bytes : List UInt8) : Opening :=
  match countMarks bytes with
  | (level, 0x5B :: rest) => .long level rest
  | (0, _) => .single
  | (marks, _) => .broken marks

/-- Drop the line break that a long bracket may begin with. -/
def dropFirstBreak (line : Nat) : List UInt8 → Nat × List UInt8
  | b :: rest => if isBreak b then (line + 1, dropSecond b rest) else (line, b :: rest)
  | [] => (line, [])

/-- Does a long bracket of the level close after `]`? Then what follows it. -/
def closes? (level : Nat) (bytes : List UInt8) : Option (List UInt8) :=
  match countMarks bytes with
  | (n, 0x5D :: rest) => if n == level then some rest else none
  | _ => none

/-- Read the body of a long bracket; `body` is in reverse. Line breaks become
single line feeds. -/
def readLong (what : String) (level start : Nat) :
    (fuel line : Nat) → (body : List UInt8) → List UInt8 →
      Result (List UInt8 × Nat × List UInt8)
  | 0, line, _, _ => failAtEnd line s!"unfinished long {what} (starting at line {start})"
  | fuel + 1, line, body, bytes =>
      match bytes with
      | [] => failAtEnd line s!"unfinished long {what} (starting at line {start})"
      | b :: rest =>
          if b == 0x5D then
            match closes? level rest with
            | some rest => .ok (body, line, rest)
            | none => readLong what level start fuel line (b :: body) rest
          else if isBreak b then
            readLong what level start fuel (line + 1) (0x0A :: body) (dropSecond b rest)
          else readLong what level start fuel line (b :: body) rest

/-- Drop the rest of a line; the break stays. -/
def dropLine : List UInt8 → List UInt8
  | [] => []
  | b :: rest => if isBreak b then b :: rest else dropLine rest

/-- Drop blank space after `\z`. -/
def dropSpace : (fuel line : Nat) → List UInt8 → Nat × List UInt8
  | fuel + 1, line, b :: rest =>
      if isBreak b then dropSpace fuel (line + 1) (dropSecond b rest)
      else if Numeral.isSpace b then dropSpace fuel line rest
      else (line, b :: rest)
  | _, line, bytes => (line, bytes)

/-- A failure inside an escape: the byte that does not fit is shown too. -/
def failEscape {α : Type} (line : Nat) (what : String) (buffer rest : List UInt8) : Result α :=
  match rest with
  | b :: _ => failNear line what (b :: buffer)
  | [] => failNear line what buffer

/-- The bytes of a code point of up to 31 bits, in reverse. -/
def encode (n : Nat) : List UInt8 :=
  if n < 0x80 then [UInt8.ofNat n]
  else
    let tail (k : Nat) : List UInt8 :=
      (List.range k).map fun i => UInt8.ofNat (0x80 + (n >>> (6 * i)) % 64)
    let whole (k lead : Nat) : List UInt8 := tail k ++ [UInt8.ofNat (lead + n >>> (6 * k))]
    if n < 0x800 then whole 1 0xC0
    else if n < 0x10000 then whole 2 0xE0
    else if n < 0x200000 then whole 3 0xF0
    else if n < 0x4000000 then whole 4 0xF8
    else whole 5 0xFC

/-- Read one hexadecimal digit of an escape. -/
def readHex (line : Nat) (buffer : List UInt8) (bytes : List UInt8) :
    Result (Nat × List UInt8 × List UInt8) :=
  match bytes with
  | b :: rest =>
      match Numeral.hexValue? b with
      | some d => .ok (d, b :: buffer, rest)
      | none => failEscape line "hexadecimal digit expected" buffer bytes
  | [] => failEscape line "hexadecimal digit expected" buffer bytes

/-- Read the digits of a `\u` escape after the first. -/
def readCodePoint (line : Nat) :
    (value : Nat) → (buffer : List UInt8) → List UInt8 → Result (Nat × List UInt8)
  | value, buffer, [] => failEscape line "missing '\x7d'" buffer [] |>.map fun () => (value, [])
  | value, buffer, b :: rest =>
      match Numeral.hexValue? b with
      | some d =>
          if value ≤ 0x7FFFFFF then readCodePoint line (value * 16 + d) (b :: buffer) rest
          else failEscape line "UTF-8 value too large" buffer (b :: rest)
      | none =>
          if b == 0x7D then .ok (value, rest)
          else failEscape line "missing '\x7d'" buffer (b :: rest)

/-- Read a `\u` escape after its letter; `buffer` holds the text through it. -/
def readUnicode (line : Nat) (buffer bytes : List UInt8) : Result (Nat × List UInt8) :=
  match bytes with
  | 0x7B :: rest => do
      let (first, buffer, rest) ← readHex line (0x7B :: buffer) rest
      readCodePoint line first buffer rest
  | _ => failEscape line "missing '\x7b'" buffer bytes

/-- Read up to three decimal digits of an escape. -/
def readDecimal : (room value : Nat) → (buffer : List UInt8) → List UInt8 →
    Nat × List UInt8 × List UInt8
  | room + 1, value, buffer, b :: rest =>
      if Numeral.isDigit b then
        readDecimal room (value * 10 + (b.toNat - 0x30)) (b :: buffer) rest
      else (value, buffer, b :: rest)
  | _, value, buffer, bytes => (value, buffer, bytes)

/-- What an escape adds to a string. -/
structure Escaped where
  /-- The bytes, in reverse. -/
  added : List UInt8
  line : Nat
  rest : List UInt8

/-- The byte that a backslash and a letter stand for. -/
def plainEscape? : UInt8 → Option UInt8
  | 0x61 => some 7
  | 0x62 => some 8
  | 0x66 => some 12
  | 0x6E => some 10
  | 0x72 => some 13
  | 0x74 => some 9
  | 0x76 => some 11
  | 0x5C => some 0x5C
  | 0x22 => some 0x22
  | 0x27 => some 0x27
  | _ => none

/-- Read an escape after its backslash. `buffer` holds the text before the
backslash. -/
def readEscape (fuel line : Nat) (buffer bytes : List UInt8) : Result Escaped :=
  let shown := 0x5C :: buffer
  match bytes with
  | [] => .ok ⟨[0x5C], line, []⟩
  | b :: rest =>
      match plainEscape? b with
      | some c => .ok ⟨[c], line, rest⟩
      | none =>
          if b == 0x78 then do
            let (high, shown, rest) ← readHex line (b :: shown) rest
            let (low, _, rest) ← readHex line shown rest
            .ok ⟨[UInt8.ofNat (high * 16 + low)], line, rest⟩
          else if b == 0x75 then do
            let (n, rest) ← readUnicode line (b :: shown) rest
            .ok ⟨encode n, line, rest⟩
          else if isBreak b then .ok ⟨[0x0A], line + 1, dropSecond b rest⟩
          else if b == 0x7A then
            let (line, rest) := dropSpace fuel line rest
            .ok ⟨[], line, rest⟩
          else if Numeral.isDigit b then
            let (n, shown, rest) := readDecimal 3 0 shown bytes
            if n ≤ 255 then .ok ⟨[UInt8.ofNat n], line, rest⟩
            else failEscape line "decimal escape too large" shown rest
          else failNear line "invalid escape sequence" (b :: shown)

/-- Read a quoted string after its opening quote; `buffer` is in reverse and
begins with that quote. -/
def readQuoted (quote : UInt8) :
    (fuel line : Nat) → (buffer : List UInt8) → List UInt8 → Result Lexed
  | 0, line, _, _ => failAtEnd line "unfinished string"
  | fuel + 1, line, buffer, bytes =>
      match bytes with
      | [] => failAtEnd line "unfinished string"
      | b :: rest =>
          if b == quote then
            let whole := reversed (b :: buffer)
            .ok ⟨.string (whole.extract 1 (whole.size - 1)), whole, line, rest⟩
          else if isBreak b then failNear line "unfinished string" buffer
          else if b == 0x5C then do
            let escaped ← readEscape fuel line buffer rest
            readQuoted quote fuel escaped.line (escaped.added ++ buffer) escaped.rest
          else readQuoted quote fuel line (b :: buffer) rest

/-- Read the rest of a numeral; `text` is in reverse. After an exponent letter a
sign may stand. -/
def readNumeralText (exponent : UInt8) :
    (afterExponent : Bool) → (text : List UInt8) → List UInt8 → List UInt8 × List UInt8
  | _, text, [] => (text, [])
  | afterExponent, text, b :: rest =>
      if afterExponent && (b == 0x2B || b == 0x2D) then
        readNumeralText exponent false (b :: text) rest
      else if b ||| 0x20 == exponent then readNumeralText exponent true (b :: text) rest
      else if (Numeral.hexValue? b).isSome || b == 0x2E then
        readNumeralText exponent false (b :: text) rest
      else (text, b :: rest)

/-- Read a numeral, given the bytes read already in reverse. -/
def readNumeral (line : Nat) (text bytes : List UInt8) : Result Lexed :=
  let (exponent, text, bytes) :=
    match text, bytes with
    | [0x30], b :: rest =>
        if b == 0x78 || b == 0x58 then ((0x70 : UInt8), b :: text, rest) else (0x65, text, bytes)
    | _, _ => (0x65, text, bytes)
  let (text, rest) := readNumeralText exponent false text bytes
  let (text, rest) :=
    match rest with
    | b :: more => if isLetter b then (b :: text, more) else (text, rest)
    | [] => (text, rest)
  match Numeral.read? text.reverse with
  | some n => .ok ⟨.number n, reversed text, line, rest⟩
  | none => failNear line "malformed number" text

/-- A token that is written as one keyword or byte. -/
def plain (token : Token) (line : Nat) (rest : List UInt8) : Result Lexed :=
  .ok ⟨token, ByteArray.empty, line, rest⟩

/-- Read one token. `fuel` is above the number of bytes. -/
def next (whole : Nat) : (fuel line : Nat) → List UInt8 → Result Lexed
  | 0, line, _ => plain .eof line []
  | _ + 1, line, [] => plain .eof line []
  | fuel + 1, line, b :: rest =>
      let symbol : Result Lexed := plain (.symbol b) line rest
      let either (second : UInt8) (word : Keyword) : Result Lexed :=
        match rest with
        | c :: more => if c == second then plain (.keyword word) line more else symbol
        | [] => symbol
      if isBreak b then next whole fuel (line + 1) (dropSecond b rest)
      else if Numeral.isSpace b then next whole fuel line rest
      else if isLetter b then
        let name := (b :: rest.takeWhile isLetterOrDigit).toByteArray
        let rest := rest.dropWhile isLetterOrDigit
        match Keyword.ofName? name with
        | some word => plain (.keyword word) line rest
        | none => .ok ⟨.name name, name, line, rest⟩
      else if Numeral.isDigit b then readNumeral line [b] rest
      else
        match b with
        | 0x2D => -- minus or comment
            match rest with
            | 0x2D :: rest =>
                match rest with
                | 0x5B :: inner =>
                    match Opening.ofBytes inner with
                    | .long level body => do
                        let start := line
                        let (line, body) := dropFirstBreak line body
                        let (_, line, rest) ←
                          readLong "comment" level start whole line [] body
                        next whole fuel line rest
                    | _ => next whole fuel line (dropLine rest)
                | _ => next whole fuel line (dropLine rest)
            | _ => symbol
        | 0x5B => -- bracket or long string
            match Opening.ofBytes rest with
            | .long level body => do
                let start := line
                let (line, body) := dropFirstBreak line body
                let (text, line, rest) ← readLong "string" level start whole line [] body
                let text := text.reverse
                let marks := List.replicate level (0x3D : UInt8)
                let shown := 0x5B :: marks ++ 0x5B :: text ++ 0x5D :: marks ++ [0x5D]
                .ok ⟨.string text.toByteArray, shown.toByteArray, line, rest⟩
            | .single => symbol
            | .broken marks =>
                failNear line "invalid long string delimiter"
                  (List.replicate marks 0x3D ++ [0x5B])
        | 0x3D => either 0x3D .eq
        | 0x3C =>
            match rest with
            | 0x3D :: rest => plain (.keyword .le) line rest
            | 0x3C :: rest => plain (.keyword .shl) line rest
            | _ => symbol
        | 0x3E =>
            match rest with
            | 0x3D :: rest => plain (.keyword .ge) line rest
            | 0x3E :: rest => plain (.keyword .shr) line rest
            | _ => symbol
        | 0x2F => either 0x2F .idiv
        | 0x7E => either 0x3D .ne
        | 0x3A => either 0x3A .dbcolon
        | 0x22 | 0x27 => readQuoted b whole line [b] rest
        | 0x2E =>
            match rest with
            | 0x2E :: 0x2E :: rest => plain (.keyword .dots) line rest
            | 0x2E :: rest => plain (.keyword .concat) line rest
            | c :: _ => if Numeral.isDigit c then readNumeral line [b] rest else symbol
            | [] => symbol
        | _ => symbol

end LuaSession.Syntax.Lexer
