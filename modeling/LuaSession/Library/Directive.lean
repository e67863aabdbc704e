import LuaSession.Library.Arguments
import LuaSession.Text.Pattern

/-!
# Format directives

A directive says how a value is written: flags, a least width and a precision,
and a letter for the layout. The functions here write numbers and texts by a
directive; `string.format` strings them together.
-/

namespace LuaSession.Library

open LuaSession.Script

/-- The flags, width and precision of a directive. -/
structure Directive where
  left : Bool := false
  plus : Bool := false
  space : Bool := false
  alternative : Bool := false
  zero : Bool := false
  width : Nat := 0
  precision : Option Nat := none

namespace Directive

/-- Read flags from the front. -/
def readFlags : List UInt8 → Directive → Directive × List UInt8
  | b :: rest, d =>
      if b == 0x2D then readFlags rest { d with left := true }
      else if b == 0x2B then readFlags rest { d with plus := true }
      else if b == 0x20 then readFlags rest { d with space := true }
      else if b == 0x23 then readFlags rest { d with alternative := true }
      else if b == 0x30 then readFlags rest { d with zero := true }
      else (d, b :: rest)
  | [], d => (d, [])

/-- Read up to two digits. -/
def readTwoDigits : List UInt8 → Nat × List UInt8
  | a :: b :: rest =>
      if Numeral.isDigit a then
        if Numeral.isDigit b then ((a.toNat - 0x30) * 10 + (b.toNat - 0x30), rest)
        else (a.toNat - 0x30, b :: rest)
      else (0, a :: b :: rest)
  | [a] => if Numeral.isDigit a then (a.toNat - 0x30, []) else (0, [a])
  | [] => (0, [])

/-- The directive that the text between the percent sign and the letter stands
for, if it is well formed: `flags` are those it may have. -/
def ofText? (flags : String) (hasPrecision : Bool) (text : List UInt8) : Option Directive :=
  let allowed := flags.toUTF8.toList
  let (front, rest) := (text.takeWhile allowed.contains, text.dropWhile allowed.contains)
  let (directive, _) := readFlags front {}
  if rest.head? == some 0x30 then none
  else
    let (width, rest) := readTwoDigits rest
    let (precision, rest) :=
      match rest with
      | 0x2E :: more =>
          if hasPrecision then let (n, more) := readTwoDigits more; (some n, more)
          else (none, rest)
      | _ => (none, rest)
    if rest.isEmpty then some { directive with width, precision } else none

/-- Fill up to the least width: with zeros between sign and digits, or with
blanks. -/
def fill (d : Directive) (zeros : Bool) (sign body : List Char) : List Char :=
  let missing := d.width - (sign.length + body.length)
  if d.left then sign ++ body ++ List.replicate missing ' '
  else if zeros && d.zero then sign ++ List.replicate missing '0' ++ body
  else List.replicate missing ' ' ++ sign ++ body

/-- The sign in front of a number. -/
def signText (d : Directive) (negative : Bool) : List Char :=
  if negative then ['-'] else if d.plus then ['+'] else if d.space then [' '] else []

/-- The digits of an integer, at least as many as the precision says. -/
def intDigits (d : Directive) (base n : Nat) : List Char :=
  match d.precision with
  | some 0 => if n == 0 then [] else Nat.toDigits base n
  | some p =>
      let digits := Nat.toDigits base n
      List.replicate (p - digits.length) '0' ++ digits
  | none => Nat.toDigits base n

/-- A signed decimal integer. -/
def signed (d : Directive) (i : Int) : List Char :=
  d.fill d.precision.isNone (d.signText (i < 0)) (d.intDigits 10 i.natAbs)

/-- An unsigned integer in some base. -/
def unsigned (d : Directive) (base : Nat) (upper : Bool) (n : Nat) : List Char :=
  let digits := d.intDigits base n
  let digits := if upper then digits.map Char.toUpper else digits
  let digits := if d.alternative && base == 8 && digits.head? != some '0' then '0' :: digits
    else digits
  let mark := if d.alternative && base == 16 && n != 0 then
      (if upper then ['0', 'X'] else ['0', 'x'])
    else []
  d.fill d.precision.isNone mark digits

/-- A float in the layout of a letter. -/
def float (d : Directive) (letter : Char) (x : Binary64) : List Char :=
  let upper := letter.isUpper
  let raise (cs : List Char) : List Char := if upper then cs.map Char.toUpper else cs
  match Binary64.parts x with
  | .nan negative => d.fill false (d.signText negative) (raise ['n', 'a', 'n'])
  | .infinite negative => d.fill false (d.signText negative) (raise ['i', 'n', 'f'])
  | .finite negative mantissa exponent =>
      let (num, den) := Number.ratio mantissa exponent
      let places := d.precision.getD 6
      let sign := d.signText negative
      match letter.toLower with
      | 'f' => d.fill true sign (Decimal.fixed d.alternative num den places)
      | 'e' => d.fill true sign (raise (Decimal.scientific d.alternative 'e' num den places))
      | 'g' => d.fill true sign (raise (Decimal.general d.alternative 'e' num den (max places 1)))
      | _ =>
          let body := Decimal.hexadecimal d.alternative d.precision mantissa exponent
          d.fill true (sign ++ raise (body.take 2)) (raise (body.drop 2))

/-- Bytes, cut to the precision and filled up to the width. -/
def bytes (d : Directive) (text : Bytes) : Bytes :=
  let text := match d.precision with
    | some p => text.extract 0 p
    | none => text
  let blanks := (List.replicate (d.width - text.size) (0x20 : UInt8)).toByteArray
  if d.left then text ++ blanks else blanks ++ text

end Directive

/-- The bytes of characters. -/
def ofChars (cs : List Char) : Bytes := (String.ofList cs).toUTF8

/-- A string as scripts may write it. -/
def quoteBytes : List UInt8 → List UInt8
  | [] => []
  | b :: rest =>
      if b == 0x22 || b == 0x5C || b == 0x0A then 0x5C :: b :: quoteBytes rest
      else if Pattern.isControl b then
        let digits := (toString b.toNat).toUTF8.toList
        let nextIsDigit := match rest with
          | c :: _ => Numeral.isDigit c
          | [] => false
        let digits := if nextIsDigit then List.replicate (3 - digits.length) 0x30 ++ digits
          else digits
        0x5C :: digits ++ quoteBytes rest
      else b :: quoteBytes rest

/-- A value as scripts may write it, if it can be written. -/
def literal? (value : Value) : Option Bytes :=
  match value with
  | .nil => some "nil".toUTF8
  | .bool b => some (toString b).toUTF8
  | .str bytes => some ((0x22 :: quoteBytes bytes.toList) ++ [0x22]).toByteArray
  | .int i =>
      if i == Int64.minValue then some "0x8000000000000000".toUTF8 else some (Integer.text i).toUTF8
  | .float x =>
      if Binary64.isNaN x then some "(0/0)".toUTF8
      else if x == Binary64.infinity false then some "1e9999".toUTF8
      else if x == Binary64.infinity true then some "-1e9999".toUTF8
      else some (ofChars (Directive.float {} 'a' x))
  | _ => none

/-- The characters that may stand between the percent sign and the letter. -/
def directiveChars : List UInt8 := "-+ #0123456789.".toUTF8.toList

/-- How long a directive may be. -/
def directiveLimit : Nat := 22

/-- Write one value by a directive with the given letter. -/
def formatOne (caller : Caller) (arguments : Array Value) (index : Nat) (spec : List UInt8)
    (letter : UInt8) : Run Bytes := do
  let whole := (0x25 :: spec ++ [letter]).toByteArray
  let read (flags : String) (hasPrecision : Bool) : Run Directive :=
    match Directive.ofText? flags hasPrecision spec with
    | some d => return d
    | none =>
        caller.failBytes ("invalid conversion specification: '".toUTF8 ++ beforeZero whole ++
          "'".toUTF8)
  let unsigned (flags : String) (base : Nat) (upper : Bool) : Run Bytes := do
    let n ← intArgument caller arguments index
    let d ← read flags true
    return ofChars (d.unsigned base upper n.toUInt64.toNat)
  let float : Run Bytes := do
    let x ← floatArgument caller arguments index
    let d ← read "-+ #0" true
    return ofChars (d.float (Char.ofNat letter.toNat) x)
  match Char.ofNat letter.toNat with
  | 'c' =>
      let n ← intArgument caller arguments index
      let d ← read "-" false
      return d.bytes (ByteArray.mk #[n.toUInt64.toUInt8])
  | 'd' | 'i' =>
      let n ← intArgument caller arguments index
      let d ← read "-+0 " true
      return ofChars (d.signed n.toInt)
  | 'u' => unsigned "-0" 10 false
  | 'o' => unsigned "-#0" 8 false
  | 'x' => unsigned "-#0" 16 false
  | 'X' => unsigned "-#0" 16 true
  | 'a' | 'A' | 'f' | 'e' | 'E' | 'g' | 'G' => float
  | 'p' =>
      let value := argument arguments index
      let d ← read "-" false
      let text := match value with
        | .table _ | .closure _ | .native _ | .thread _ | .handle _ | .builtin _ =>
            identityText value
        | .str s => referenceText 7 ((hash s).toNat % 0x10000)
        | _ => "(null)"
      return d.bytes text.toUTF8
  | 'q' =>
      if !spec.isEmpty then caller.fail "specifier '%q' cannot have modifiers"
      else
        match literal? (argument arguments index) with
        | some bytes => return bytes
        | none => argFail caller index "value has no literal form"
  | 's' =>
      let text ← textOf caller.position (argument arguments index)
      if spec.isEmpty then return text
      else if text.toList.contains 0 then argFail caller index "string contains zeros"
      else
        let d ← read "-" true
        return d.bytes text
  | _ =>
      caller.failBytes ("invalid conversion '".toUTF8 ++ beforeZero whole ++
        "' to 'format'".toUTF8)
where
  beforeZero (bytes : Bytes) : Bytes := (bytes.toList.takeWhile (· != 0)).toByteArray

/-- Write values by a format; `done` holds what has been written, `index` is
the next argument. -/
def formatAll (caller : Caller) (arguments : Array Value) :
    (fuel index : Nat) → (done : Bytes) → List UInt8 → Run Bytes
  | 0, _, done, _ => return done
  | _, _, done, [] => return done
  | fuel + 1, index, done, b :: rest => do
      if b != 0x25 then
        let plain := rest.takeWhile (· != 0x25)
        formatAll caller arguments fuel index (done ++ (b :: plain).toByteArray)
          (rest.drop plain.length)
      else
        match rest with
        | 0x25 :: rest => formatAll caller arguments fuel index (done.push 0x25) rest
        | rest =>
            if index > arguments.size then argFail caller index "no value"
            else
              let spec := rest.takeWhile directiveChars.contains
              if spec.length + 1 ≥ directiveLimit then
                caller.fail "invalid format string to 'format'"
              else
                let rest := rest.drop spec.length
                let letter := rest.headD 0
                let text ← formatOne caller arguments index spec letter
                formatAll caller arguments fuel (index + 1) (done ++ text) (rest.drop 1)

end LuaSession.Library
