/-!
# How alike two words are

The Jaro similarity of two words: characters match when they are equal and not
farther apart than about half of the longer word. The similarity is the mean of
the shares of matching characters in both words and of the share of matching
characters that come in the same order.
-/

namespace LuaSession.CommandLine

/-- Take the first unused place in a window that holds a character. -/
def takeMatch (word : Array Char) (c : Char) (stop : Nat) :
    (fuel place : Nat) → (used : Array Bool) → Option (Array Bool)
  | 0, _, _ => none
  | fuel + 1, place, used =>
      if place ≥ stop || place ≥ word.size then none
      else if !used.getD place true && word.getD place ' ' == c then
        some (used.setIfInBounds place true)
      else takeMatch word c stop fuel (place + 1) used

/-- The characters of a word that match, and which places of the other word they
match with. -/
def matching (other : Array Char) (window : Nat) :
    List Char → (place : Nat) → (used : Array Bool) → List Char × Array Bool
  | [], _, used => ([], used)
  | c :: rest, place, used =>
      match takeMatch other c (place + window + 1) (other.size + 1) (place - window) used with
      | some used =>
          let (cs, used) := matching other window rest (place + 1) used
          (c :: cs, used)
      | none => matching other window rest (place + 1) used

/-- The similarity of two words as a fraction. -/
def similarity (a b : String) : Nat × Nat :=
  let left := a.toList
  let right := b.toList
  if left.isEmpty && right.isEmpty then (1, 1)
  else
    let window := max left.length right.length / 2 - 1
    let (matched, used) :=
      matching right.toArray window left 0 (Array.replicate right.length false)
    let opposite := (right.zip used.toList).filterMap fun (c, hit) => if hit then some c else none
    let m := matched.length
    if m == 0 then (0, 1)
    else
      let swapped := ((matched.zip opposite).filter fun (x, y) => x != y).length / 2
      let denominator := left.length * right.length * m
      (m * right.length * m + m * left.length * m + (m - swapped) * left.length * right.length,
        3 * denominator)

/-- Are two words so alike that one may have been meant for the other? -/
def isAlike (a b : String) : Bool :=
  let (n, d) := similarity a b
  10 * n > 7 * d

end LuaSession.CommandLine
