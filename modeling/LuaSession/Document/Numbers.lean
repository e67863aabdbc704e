import LuaSession.Document
import LuaSession.Document.Character

/-!
# Numbers of documents

Integers in base ten, sixteen, eight and two, and decimal numbers with a
fraction or an exponent. Digits may be parted by `_` after the first. An
integer keeps its value; its magnitude has to be below `2 ^ 127`.
-/

namespace LuaSession.Document

/-- Digits after the first: their value appended to `value`, and what follows. -/
def readDigits (base : Nat) : (value : Nat) → List Char → Nat × List Char
  | value, [] => (value, [])
  | value, c :: rest =>
      if c == '_' then readDigits base value rest
      else
        match digitValue? base c with
        | some d => readDigits base (value * base + d) rest
        | none => (value, c :: rest)

/-- A run of digits, which starts with a digit. -/
def readRun? (base : Nat) : List Char → Option (Nat × List Char)
  | [] => none
  | c :: rest => (digitValue? base c).map fun d => readDigits base d rest

/-- The largest magnitude of an integer. -/
def integerLimit : Nat := 1 <<< 127

/-- The scalar of an integer with the given sign. -/
def integer? (negative : Bool) (magnitude : Nat) : Option Scalar :=
  if magnitude < integerLimit then
    some (.integer (if negative then -(magnitude : Int) else magnitude))
  else none

/-- The exponent part of a number, if there is one. -/
def readExponent? : List Char → Option (Bool × List Char)
  | [] => some (false, [])
  | c :: rest =>
      if c == 'e' || c == 'E' then
        let digits := match rest with
          | d :: more => if isSign d then more else rest
          | [] => []
        (readRun? 10 digits).map fun (_, rest) => (true, rest)
      else some (false, c :: rest)

/-- The fraction part of a number, if there is one. -/
def readFraction? : List Char → Option (Bool × List Char)
  | '.' :: rest => (readRun? 10 rest).map fun (_, rest) => (true, rest)
  | cs => some (false, cs)

/-- A number without its sign. -/
def readMagnitude? (written : List Char) (negative : Bool) (cs : List Char) :
    Option (Scalar × List Char) := do
  let inBase (base : Nat) (rest : List Char) : Option (Scalar × List Char) := do
    let (value, rest) ← readRun? base rest
    return (← integer? negative value, rest)
  match cs with
  | '0' :: 'x' :: rest | '0' :: 'X' :: rest => inBase 16 rest
  | '0' :: 'o' :: rest | '0' :: 'O' :: rest => inBase 8 rest
  | '0' :: 'b' :: rest | '0' :: 'B' :: rest => inBase 2 rest
  | _ =>
      let (value, rest) ← readRun? 10 cs
      let (fraction, rest) ← readFraction? rest
      let (exponent, rest) ← readExponent? rest
      if fraction || exponent then
        return (.float (String.ofList (written.take (written.length - rest.length))), rest)
      else
        return (← integer? negative value, rest)

/-- A number with an optional sign. -/
def readNumber? (cs : List Char) : Option (Scalar × List Char) :=
  match cs with
  | '-' :: rest => readMagnitude? cs true rest
  | '+' :: rest => readMagnitude? cs false rest
  | _ => readMagnitude? cs false cs

/-- Does a number start here? -/
def startsNumber (cs : List Char) : Bool :=
  match cs with
  | c :: rest =>
      if isSign c then (rest.head?.map Char.isDigit).getD false else c.isDigit
  | [] => false

end LuaSession.Document
