import LuaSession.Text.Shown

/-!
# Quoted texts

A text in quotes, with escapes for quotes, backslashes and everything that is
not shown.
-/

namespace LuaSession.Text

/-- How a character stands in a quoted text. -/
def quoteChar (c : Char) : List Char :=
  match c with
  | '\t' => ['\\', 't']
  | '\r' => ['\\', 'r']
  | '\n' => ['\\', 'n']
  | '"' => ['\\', '"']
  | '\\' => ['\\', '\\']
  | c =>
      if c.toNat == 0 then ['\\', '0']
      else if isShown c then [c]
      else ['\\', 'u', '\x7b'] ++ Nat.toDigits 16 c.toNat ++ ['\x7d']

/-- A text in quotes. -/
def quote (text : String) : String :=
  String.ofList ('"' :: text.toList.flatMap quoteChar ++ ['"'])

end LuaSession.Text
