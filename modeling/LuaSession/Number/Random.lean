import LuaSession.Number.Binary64

/-!
# Random numbers

A generator of pseudo-random words: four words of state, mixed by shifts,
rotations and exclusive or.
-/

namespace LuaSession

/-- The state of a generator. -/
structure RandomState where
  s0 : UInt64
  s1 : UInt64
  s2 : UInt64
  s3 : UInt64
  deriving DecidableEq, Repr, Inhabited

namespace RandomState

/-- Rotate to the left. -/
def rotate (x : UInt64) (n : UInt64) : UInt64 := (x <<< n) ||| (x >>> (64 - n))

/-- The next word and the state after it. -/
def next (s : RandomState) : UInt64 × RandomState :=
  let result := rotate (s.s1 * 5) 7 * 9
  let t := s.s1 <<< 17
  let s2 := s.s2 ^^^ s.s0
  let s3 := s.s3 ^^^ s.s1
  let s1 := s.s1 ^^^ s2
  let s0 := s.s0 ^^^ s3
  (result, ⟨s0, s1, s2 ^^^ t, rotate s3 45⟩)

/-- Drop words. -/
def skip : (n : Nat) → RandomState → RandomState
  | 0, s => s
  | n + 1, s => skip n s.next.2

/-- The state that two seeds give. -/
def ofSeeds (a b : UInt64) : RandomState := skip 16 ⟨a, 0xFF, b, 0⟩

/-- A word as a float from zero up to one: its upper 53 bits. -/
def toUnit (word : UInt64) : Binary64 :=
  Binary64.ofRatio false (word >>> 11).toNat (1 <<< 53)

/-- The least number of the form `2 ^ b - 1` that is not below a word. -/
def mask (n : UInt64) : UInt64 :=
  let n := n ||| (n >>> 1)
  let n := n ||| (n >>> 2)
  let n := n ||| (n >>> 4)
  let n := n ||| (n >>> 8)
  let n := n ||| (n >>> 16)
  n ||| (n >>> 32)

/-- Take words until one is, cut to `low` bits, at most `n`. -/
def projectFrom (n low : UInt64) : (fuel : Nat) → UInt64 → RandomState → UInt64 × RandomState
  | 0, word, s => (word &&& low % (n + 1), s)
  | fuel + 1, word, s =>
      let word := word &&& low
      if word ≤ n then (word, s)
      else
        let (word, s) := s.next
        projectFrom n low fuel word s

/-- A number from zero to `n`, made of a word and further ones. -/
def project (word n : UInt64) (s : RandomState) : UInt64 × RandomState :=
  if n &&& (n + 1) == 0 then (word &&& n, s) else projectFrom n (mask n) 10000 word s

end RandomState

end LuaSession
