import LuaSession.Text.Utf8

/-!
# Patterns

Patterns over bytes: single characters, classes, sets, repetitions, captures,
balanced pairs and frontiers. `Pattern.matchAt` tries a pattern at one place of
a subject. How deep a match may nest is limited; within one level the pattern
only goes forward.
-/

namespace LuaSession.Pattern

/-- Why a pattern cannot be used. -/
inductive PatternError where
  | endsWithEscape
  | missingBracket
  | missingPair
  | missingSet
  | badCapture
  | captureIndex (index : Int)
  | tooManyCaptures
  | unfinishedCapture
  | tooComplex
  deriving DecidableEq, Repr

/-- The wording of an error. -/
def PatternError.message : PatternError → String
  | .endsWithEscape => "malformed pattern (ends with '%')"
  | .missingBracket => "malformed pattern (missing ']')"
  | .missingPair => "malformed pattern (missing arguments to '%b')"
  | .missingSet => "missing '[' after '%f' in pattern"
  | .badCapture => "invalid pattern capture"
  | .captureIndex index => s!"invalid capture index %{index}"
  | .tooManyCaptures => "too many captures"
  | .unfinishedCapture => "unfinished capture"
  | .tooComplex => "pattern too complex"

/-- What a capture holds. -/
inductive Extent where
  | length (n : Nat)
  | unfinished
  /-- The place itself. -/
  | position
  deriving DecidableEq, Repr, Inhabited

/-- A capture: where it starts and what it holds. -/
structure Capture where
  start : Nat
  extent : Extent
  deriving DecidableEq, Repr, Inhabited

/-- A match: where it ends, and its captures. -/
structure Match where
  stop : Nat
  captures : Array Capture
  deriving Inhabited

abbrev Result := Except PatternError (Option Match)

/-- The escape character of patterns. -/
def escape : UInt8 := 0x25

/-- How many captures a pattern may have. -/
def captureLimit : Nat := 32

/-- How deep a match may nest. -/
def depthLimit : Nat := 200

/-- A byte of a text; zero beyond its end. -/
@[inline] def byteAt (bytes : Bytes) (i : Nat) : UInt8 := if h : i < bytes.size then bytes[i] else 0

def isAlpha (b : UInt8) : Bool := (0x61 ≤ b && b ≤ 0x7A) || (0x41 ≤ b && b ≤ 0x5A)
def isDigit (b : UInt8) : Bool := 0x30 ≤ b && b ≤ 0x39
def isLower (b : UInt8) : Bool := 0x61 ≤ b && b ≤ 0x7A
def isUpper (b : UInt8) : Bool := 0x41 ≤ b && b ≤ 0x5A
def isControl (b : UInt8) : Bool := b < 0x20 || b == 0x7F
def isGraph (b : UInt8) : Bool := 0x21 ≤ b && b ≤ 0x7E
def isAlnum (b : UInt8) : Bool := isAlpha b || isDigit b
def isPunct (b : UInt8) : Bool := isGraph b && !isAlnum b
def isSpace (b : UInt8) : Bool := b == 0x20 || (9 ≤ b && b ≤ 13)
def isHex (b : UInt8) : Bool :=
  isDigit b || (0x61 ≤ b && b ≤ 0x66) || (0x41 ≤ b && b ≤ 0x46)

/-- Is a byte in the class of a letter? A capital letter names the complement;
what is no letter of a class stands for itself. -/
def inClass (b letter : UInt8) : Bool :=
  let lower := if isUpper letter then letter + 0x20 else letter
  let of (test : Bool) : Bool := if isUpper letter then !test else test
  match lower with
  | 0x61 => of (isAlpha b)
  | 0x63 => of (isControl b)
  | 0x64 => of (isDigit b)
  | 0x67 => of (isGraph b)
  | 0x6C => of (isLower b)
  | 0x70 => of (isPunct b)
  | 0x73 => of (isSpace b)
  | 0x75 => of (isUpper b)
  | 0x77 => of (isAlnum b)
  | 0x78 => of (isHex b)
  | 0x7A => of (b == 0)
  | _ => letter == b

/-- Find the end of a set from a place inside it on. -/
def setEnd (pattern : Bytes) : (fuel p : Nat) → Except PatternError Nat
  | 0, _ => .error .missingBracket
  | fuel + 1, p =>
      if p ≥ pattern.size then .error .missingBracket
      else
        let next := if byteAt pattern p == escape && p + 1 < pattern.size then p + 2 else p + 1
        if byteAt pattern next == 0x5D && next < pattern.size then .ok (next + 1)
        else setEnd pattern fuel next

/-- The end of the single item at a place of a pattern. -/
def itemEnd (pattern : Bytes) (p : Nat) : Except PatternError Nat :=
  let b := byteAt pattern p
  if b == escape then
    if p + 1 ≥ pattern.size then .error .endsWithEscape else .ok (p + 2)
  else if b == 0x5B then
    let first := if byteAt pattern (p + 1) == 0x5E then p + 2 else p + 1
    setEnd pattern (pattern.size + 1) first
  else .ok (p + 1)

/-- Is a byte listed in a set? `p` is before the next item, `last` is the place
of the closing bracket. -/
def listed (pattern : Bytes) (b : UInt8) (last : Nat) : (fuel p : Nat) → Bool
  | 0, _ => false
  | fuel + 1, p =>
      let p := p + 1
      if p ≥ last then false
      else
        let c := byteAt pattern p
        if c == escape then
          if inClass b (byteAt pattern (p + 1)) then true else listed pattern b last fuel (p + 1)
        else if byteAt pattern (p + 1) == 0x2D && p + 2 < last then
          if c ≤ b && b ≤ byteAt pattern (p + 2) then true else listed pattern b last fuel (p + 2)
        else if c == b then true
        else listed pattern b last fuel p

/-- Is a byte in the set that starts at `p` and whose closing bracket is at
`last`? -/
def inSet (pattern : Bytes) (b : UInt8) (p last : Nat) : Bool :=
  if byteAt pattern (p + 1) == 0x5E then !listed pattern b last pattern.size (p + 1)
  else listed pattern b last pattern.size p

/-- Does the single item from `p` to `stop` match at a place? -/
def single (subject pattern : Bytes) (s p stop : Nat) : Bool :=
  if s ≥ subject.size then false
  else
    let b := byteAt subject s
    let c := byteAt pattern p
    if c == 0x2E then true
    else if c == escape then inClass b (byteAt pattern (p + 1))
    else if c == 0x5B then inSet pattern b p (stop - 1)
    else c == b

/-- The end of a balanced text, after its opening byte. -/
def balanced (subject : Bytes) (opening closing : UInt8) : (fuel depth s : Nat) → Option Nat
  | 0, _, _ => none
  | fuel + 1, depth, s =>
      if s ≥ subject.size then none
      else
        let b := byteAt subject s
        if b == closing then
          if depth == 1 then some (s + 1) else balanced subject opening closing fuel (depth - 1) (s + 1)
        else if b == opening then balanced subject opening closing fuel (depth + 1) (s + 1)
        else balanced subject opening closing fuel depth (s + 1)

/-- How often a single item matches from a place on. -/
def countSingle (subject pattern : Bytes) (p stop : Nat) : (fuel s : Nat) → Nat
  | 0, _ => 0
  | fuel + 1, s =>
      if single subject pattern s p stop then 1 + countSingle subject pattern p stop fuel (s + 1)
      else 0

/-- The last capture that has not ended. -/
def openCapture? (captures : Array Capture) : Option Nat :=
  (List.range captures.size).reverse.find? fun i =>
    (captures.getD i default).extent == .unfinished

/-- The capture that a digit of a pattern names. -/
def namedCapture (captures : Array Capture) (digit : UInt8) : Except PatternError (Nat × Nat) :=
  let index : Int := (digit.toNat : Int) - 0x31
  if 0 ≤ index && index < captures.size then
    let capture := captures.getD index.toNat default
    match capture.extent with
    | .length n => .ok (capture.start, n)
    | .unfinished => .error (.captureIndex (index + 1))
    -- A place is no text; nothing is as long as it.
    | .position => .ok (capture.start, UInt64.size)
  else .error (.captureIndex (index + 1))

/-- A way to go on with a match at a place of the subject and the pattern. -/
abbrev Continue := (s p : Nat) → Array Capture → Result

/-- Match an item as often as possible, then fewer times, and go on. -/
def expandMost (next : Continue) (s p : Nat) (captures : Array Capture) : (count : Nat) → Result
  | 0 => next s p captures
  | count + 1 => do
      match ← next (s + count + 1) p captures with
      | some found => return some found
      | none => expandMost next s p captures count

/-- Match an item as seldom as possible, and go on. -/
def expandLeast (subject pattern : Bytes) (next : Continue) (item stop p : Nat)
    (captures : Array Capture) : (fuel s : Nat) → Result
  | 0, _ => return none
  | fuel + 1, s => do
      match ← next s p captures with
      | some found => return some found
      | none =>
          if single subject pattern s item stop then
            expandLeast subject pattern next item stop p captures fuel (s + 1)
          else return none

/-- Match from a place on; `next` matches one level deeper. -/
def step (subject pattern : Bytes) (next : Continue) :
    (fuel s p : Nat) → Array Capture → Result
  | 0, _, _, _ => return none
  | fuel + 1, s, p, captures => do
      let plain : Result := do
        let stop ← itemEnd pattern p
        let suffix := byteAt pattern stop
        if !single subject pattern s p stop then
          if suffix == 0x2A || suffix == 0x3F || suffix == 0x2D then
            step subject pattern next fuel s (stop + 1) captures
          else return none
        else if suffix == 0x3F then
          match ← next (s + 1) (stop + 1) captures with
          | some found => return some found
          | none => step subject pattern next fuel s (stop + 1) captures
        else if suffix == 0x2B then
          let count := countSingle subject pattern p stop subject.size (s + 1)
          expandMost next (s + 1) (stop + 1) captures count
        else if suffix == 0x2A then
          let count := countSingle subject pattern p stop subject.size s
          expandMost next s (stop + 1) captures count
        else if suffix == 0x2D then
          expandLeast subject pattern next p stop (stop + 1) captures (subject.size + 1) s
        else step subject pattern next fuel (s + 1) stop captures
      if p ≥ pattern.size then return some ⟨s, captures⟩
      else
        let c := byteAt pattern p
        let c' := byteAt pattern (p + 1)
        if c == 0x28 then
          if captures.size ≥ captureLimit then throw .tooManyCaptures
          else if c' == 0x29 then next s (p + 2) (captures.push ⟨s, .position⟩)
          else next s (p + 1) (captures.push ⟨s, .unfinished⟩)
        else if c == 0x29 then
          match openCapture? captures with
          | none => throw .badCapture
          | some i =>
              let start := (captures.getD i default).start
              next s (p + 1) (captures.setIfInBounds i ⟨start, .length (s - start)⟩)
        else if c == 0x24 && p + 1 == pattern.size then
          return if s == subject.size then some ⟨s, captures⟩ else none
        else if c == escape && c' == 0x62 then
          if p + 3 ≥ pattern.size then throw .missingPair
          else if s < subject.size && byteAt subject s == byteAt pattern (p + 2) then
            match balanced subject (byteAt pattern (p + 2)) (byteAt pattern (p + 3))
                subject.size 1 (s + 1) with
            | some s => step subject pattern next fuel s (p + 4) captures
            | none => return none
          else return none
        else if c == escape && c' == 0x66 then
          let p := p + 2
          if byteAt pattern p != 0x5B then throw .missingSet
          else
            let stop ← itemEnd pattern p
            let before := if s == 0 then 0 else byteAt subject (s - 1)
            if !inSet pattern before p (stop - 1) && inSet pattern (byteAt subject s) p (stop - 1) then
              step subject pattern next fuel s stop captures
            else return none
        else if c == escape && isDigit c' then
          let (start, n) ← namedCapture captures c'
          if subject.size - s ≥ n && subject.extract start (start + n) == subject.extract s (s + n) then
            step subject pattern next fuel (s + n) (p + 2) captures
          else return none
        else plain

/-- Match up to a depth. -/
def matchFrom (subject pattern : Bytes) : (depth : Nat) → Continue
  | 0, _, _, _ => throw .tooComplex
  | depth + 1, s, p, captures =>
      step subject pattern (matchFrom subject pattern depth) (pattern.size + 1) s p captures

/-- Match a pattern from its place `p` on at one place of a subject. -/
def matchAt (subject pattern : Bytes) (s p : Nat) : Result :=
  matchFrom subject pattern depthLimit s p #[]

/-- The first match at or after a place, with the place where it starts. -/
def search (subject pattern : Bytes) (p : Nat) : (fuel s : Nat) →
    Except PatternError (Option (Nat × Match))
  | 0, _ => return none
  | fuel + 1, s => do
      match ← matchAt subject pattern s p with
      | some found => return some (s, found)
      | none => if s ≥ subject.size then return none else search subject pattern p fuel (s + 1)

/-- Does a pattern consist of plain characters? -/
def isPlain (pattern : Bytes) : Bool :=
  pattern.toList.all fun b =>
    !("^$*+?.([%-".toUTF8.toList.contains b)

/-- Is `part` in `bytes` at a place? -/
def occursAt (bytes part : Bytes) (place : Nat) : (fuel i : Nat) → Bool
  | 0, _ => true
  | fuel + 1, i =>
      if i ≥ part.size then true
      else byteAt bytes (place + i) == byteAt part i && occursAt bytes part place fuel (i + 1)

/-- The first place at or after `place` where `part` is in `bytes`. -/
def findPlain (bytes part : Bytes) : (fuel place : Nat) → Option Nat
  | 0, _ => none
  | fuel + 1, place =>
      if place + part.size > bytes.size then none
      else if occursAt bytes part place part.size 0 then some place
      else findPlain bytes part fuel (place + 1)

end LuaSession.Pattern
