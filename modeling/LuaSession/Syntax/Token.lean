import LuaSession.Number.Numeral
import LuaSession.Text.Utf8

/-!
# Tokens

The tokens of scripts, and how a message names the token near which something
is wrong.
-/

namespace LuaSession.Syntax

/-- Reserved words and the symbols of more than one character. -/
inductive Keyword where
  | kAnd | kBreak | kDo | kElse | kElseif | kEnd | kFalse | kFor | kFunction | kGoto | kIf | kIn
  | kLocal | kNil | kNot | kOr | kRepeat | kReturn | kThen | kTrue | kUntil | kWhile
  | idiv | concat | dots | eq | ge | le | ne | shl | shr | dbcolon
  deriving DecidableEq, Repr

namespace Keyword

/-- How a keyword is written. -/
def text : Keyword → String
  | kAnd => "and" | kBreak => "break" | kDo => "do" | kElse => "else" | kElseif => "elseif"
  | kEnd => "end" | kFalse => "false" | kFor => "for" | kFunction => "function" | kGoto => "goto"
  | kIf => "if" | kIn => "in" | kLocal => "local" | kNil => "nil" | kNot => "not" | kOr => "or"
  | kRepeat => "repeat" | kReturn => "return" | kThen => "then" | kTrue => "true"
  | kUntil => "until" | kWhile => "while" | idiv => "//" | concat => ".." | dots => "..."
  | eq => "==" | ge => ">=" | le => "<=" | ne => "~=" | shl => "<<" | shr => ">>"
  | dbcolon => "::"

/-- The reserved words. -/
def reserved : List Keyword :=
  [kAnd, kBreak, kDo, kElse, kElseif, kEnd, kFalse, kFor, kFunction, kGoto, kIf, kIn, kLocal,
    kNil, kNot, kOr, kRepeat, kReturn, kThen, kTrue, kUntil, kWhile]

/-- The bytes of the reserved words. -/
def reservedBytes : List (Bytes × Keyword) := reserved.map fun k => (k.text.toUTF8, k)

/-- The reserved word that a name is, if it is one. -/
def ofName? (name : Bytes) : Option Keyword :=
  (reservedBytes.find? fun entry => entry.1 == name).map Prod.snd

end Keyword

/-- A token. -/
inductive Token where
  | eof
  | name (bytes : Bytes)
  | string (bytes : Bytes)
  | number (value : Number)
  | keyword (word : Keyword)
  /-- Any other single byte. -/
  | symbol (byte : UInt8)
  deriving DecidableEq

/-- What a message says after `near`. -/
inductive Near where
  /-- The message names no place. -/
  | nowhere
  | eof
  /-- The text of a token as it was read. -/
  | text (bytes : Bytes)
  deriving DecidableEq

/-- The bytes up to the first zero byte: texts inside messages end there. -/
def beforeZero (bytes : Bytes) : Bytes :=
  match bytes.toList.findIdx? (· == 0) with
  | some n => bytes.extract 0 n
  | none => bytes

/-- How a message shows a single byte. -/
def byteText (b : UInt8) : Bytes :=
  if 0x20 ≤ b && b < 0x7F then ByteArray.mk #[b] else s!"<\\{b.toNat}>".toUTF8

/-- Where a message says that something is wrong, given the current token and
the text it was read from. The zero byte is a token without a name. -/
def Near.ofToken (token : Token) (buffer : Bytes) : Near :=
  match token with
  | .eof => .eof
  | .name _ | .string _ | .number _ => .text (beforeZero buffer)
  | .keyword word => .text word.text.toUTF8
  | .symbol b => if b == 0 then .nowhere else .text (byteText b)

/-- The end of a message. -/
def Near.suffix : Near → Bytes
  | .nowhere => ByteArray.empty
  | .eof => " near <eof>".toUTF8
  | .text bytes => " near '".toUTF8 ++ bytes ++ "'".toUTF8

/-- How a message names a token that is missing. -/
def Token.expectedText : Token → String
  | .eof => "<eof>"
  | .name _ => "<name>"
  | .string _ => "<string>"
  | .number _ => "<number>"
  | .keyword word => "'" ++ word.text ++ "'"
  | .symbol b => "'" ++ String.ofList [Char.ofNat b.toNat] ++ "'"

/-- Why a text is no script. -/
inductive Trouble where
  /-- Something is wrong on a line. -/
  | at (line : Nat) (what : Bytes) (near : Near)
  /-- The text nests deeper than scripts may. -/
  | tooDeep
  deriving DecidableEq

end LuaSession.Syntax
