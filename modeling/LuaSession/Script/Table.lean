import LuaSession.Script.Value
import Std.Data.HashMap

/-!
# Script tables

A table keeps the values of a range of keys `1 … n` in an array and all other
pairs in the order of their insertion, with an index from keys to places. When
the other part is full, the table is laid out anew: the array gets the largest
power of two of which more than half is in use.

Scripts see the layout in two ways only: in the order of a traversal, and in the
length of a table whose keys have gaps.
-/

namespace LuaSession.Script

/-- A pair of a table; a pair whose value is `nil` is absent. -/
structure Pair where
  key : Value
  value : Value
  deriving DecidableEq, Inhabited

/-- A script table. Keys are held as `Value.key` gives them. -/
structure Table where
  /-- The values of the keys `1 … array.size`. -/
  array : Array Value := #[]
  /-- The other pairs, in the order of their insertion. -/
  pairs : Array Pair := #[]
  /-- Where a key's pair stands. -/
  index : Std.HashMap Value Nat := {}
  /-- How many other pairs fit before the table is laid out anew. -/
  capacity : Nat := 0
  metatable : Option Nat := none
  deriving Inhabited

namespace Table

/-- The place of an integer key in the array. -/
@[inline] def arrayPlace? (t : Table) (i : Int64) : Option Nat :=
  let n := i.toUInt64
  if n ≥ 1 && n ≤ t.array.size.toUInt64 then some (n.toNat - 1) else none

/-- The value of a key outside of the array. -/
def getPair (t : Table) (key : Value) : Value :=
  match t.index[key]? with
  | some place => (t.pairs.getD place default).value
  | none => .nil

/-- The value of an integer key. -/
@[inline] def getInt (t : Table) (i : Int64) : Value :=
  match t.arrayPlace? i with
  | some place => t.array.getD place .nil
  | none => t.getPair (.int i)

/-- The value of a key; `nil` when it is absent. -/
@[inline] def get (t : Table) (key : Value) : Value :=
  match key with
  | .int i => t.getInt i
  | .float x => match Value.key (.float x) with
    | .int i => t.getInt i
    | key => t.getPair key
  | .nil => .nil
  | key => t.getPair key

/-- The value of a string key. -/
def getString (t : Table) (name : String) : Value := t.getPair (.ofString name)

/-- Count an integer key in the bin of its magnitude: bin `b` holds the keys
above `2 ^ (b - 1)` up to `2 ^ b`. -/
def countKey (bins : Array Nat) (n : Nat) : Array Nat :=
  bins.modify (if n ≤ 1 then 0 else (n - 1).log2 + 1) (· + 1)

/-- The best size of the array for keys counted in bins, from size `2 ^ b` on:
the largest power of two of which more than half is in use. `below` keys lie
below, `total` are the integer keys altogether. -/
def bestSize (bins : Array Nat) (total : Nat) : (fuel b below best : Nat) → Nat
  | 0, _, _, best => best
  | fuel + 1, b, below, best =>
      if total ≤ 1 <<< b / 2 then best
      else
        let below := below + bins.getD b 0
        bestSize bins total fuel (b + 1) below (if below > 1 <<< b / 2 then 1 <<< b else best)

/-- The least power of two that is at least `n`; zero for zero. -/
def roomFor (n : Nat) : Nat :=
  if n == 0 then 0 else if n == 1 then 1 else 1 <<< ((n - 1).log2 + 1)

/-- The positive integer that a key is, if it may stand in an array. -/
def arrayKey? : Value → Option Nat
  | .int i => if i ≥ 1 then some i.toInt.toNat else none
  | _ => none

/-- Append a pair to the other part. -/
@[inline] def pushPair (t : Table) (key value : Value) : Table :=
  match t with
  | { array, pairs, index, capacity, metatable } =>
      let index := index.insert key pairs.size
      { array, pairs := pairs.push ⟨key, value⟩, index, capacity, metatable }

/-- Put a value for a key that has a place already, or that there is room for. -/
@[inline] def place (t : Table) (key value : Value) : Table :=
  match (match key with
    | .int i => t.arrayPlace? i
    | _ => none) with
  | some n =>
      match t with
      | { array, pairs, index, capacity, metatable } =>
          { array := array.setIfInBounds n value, pairs, index, capacity, metatable }
  | none => t.pushPair key value

/-- Lay the table out anew with an array of `size` and room for `room` other
pairs. -/
def resize (t : Table) (size room : Nat) : Table :=
  let kept := t.array.extract 0 size
  let spilled := t.array.extract size t.array.size
  let start : Table :=
    { array := kept ++ Array.replicate (size - kept.size) .nil
      capacity := roomFor room
      metatable := t.metatable }
  let (withSpilled, _) := spilled.foldl
    (fun (acc : Table × Nat) value =>
      (if value.isNil then acc.1 else acc.1.pushPair (.ofNat (acc.2 + 1)) value, acc.2 + 1))
    (start, size)
  t.pairs.foldl (fun acc pair => if pair.value.isNil then acc else acc.place pair.key pair.value)
    withSpilled

/-- Lay the table out anew so that there is room for a further key. -/
def rehash (t : Table) (key : Value) : Table :=
  let bins : Array Nat := Array.replicate 65 0
  let (bins, arrayUse, _) := t.array.foldl
    (fun (acc : Array Nat × Nat × Nat) value =>
      let (bins, count, i) := acc
      if value.isNil then (bins, count, i + 1) else (countKey bins i, count + 1, i + 1))
    (bins, 0, 1)
  let (bins, integers, pairUse) := t.pairs.foldl
    (fun (acc : Array Nat × Nat × Nat) pair =>
      if pair.value.isNil then acc
      else
        match arrayKey? pair.key with
        | some n => (countKey acc.1 n, acc.2.1 + 1, acc.2.2 + 1)
        | none => (acc.1, acc.2.1, acc.2.2 + 1))
    (bins, arrayUse, 0)
  let (bins, integers) := match arrayKey? key with
    | some n => (countKey bins n, integers + 1)
    | none => (bins, integers)
  let size := bestSize bins integers 64 0 0 0
  let total := arrayUse + pairUse + 1
  let inArray := (List.range 65).foldl
    (fun acc b => if 1 <<< b ≤ size then acc + bins.getD b 0 else acc) 0
  t.resize size (total - inArray)

/-- Put a value for a key. The key is as `Value.key` gives it and may stand in a
table: neither `nil` nor no number. -/
def set (t : Table) (key value : Value) : Table :=
  match (match key with
    | .int i => t.arrayPlace? i
    | _ => none) with
  | some n =>
      match t with
      | { array, pairs, index, capacity, metatable } =>
          { array := array.setIfInBounds n value, pairs, index, capacity, metatable }
  | none =>
      match t.index[key]? with
      | some n =>
          match t with
          | { array, pairs, index, capacity, metatable } =>
              { array, pairs := pairs.setIfInBounds n ⟨key, value⟩, index, capacity, metatable }
      | none =>
          if value.isNil then t
          else if t.pairs.size < t.capacity then t.pushPair key value
          else (t.rehash key).place key value

/-- Put a value for a string key. -/
def setString (t : Table) (name : String) (value : Value) : Table :=
  t.set (.ofString name) value

/-- A table with the values at the keys `1 … n`. -/
def ofArray (values : Array Value) : Table := { array := values }

/-- Search a boundary between a present key `low` (or zero) and an absent key
`high`. -/
def bisect (present : Nat → Bool) : (fuel low high : Nat) → Nat
  | 0, low, _ => low
  | fuel + 1, low, high =>
      if high ≤ low + 1 then low
      else
        let middle := (low + high) / 2
        if present middle then bisect present fuel middle high
        else bisect present fuel low middle

/-- The greatest integer key. -/
def maxKey : Nat := 0x7FFFFFFFFFFFFFFF

/-- Double a present key until it is absent, then search between. -/
def unboundSearch (present : Nat → Bool) : (fuel low : Nat) → Nat
  | 0, low => low
  | fuel + 1, low =>
      if low > maxKey / 2 then
        if present maxKey then maxKey else bisect present 64 low maxKey
      else if present (low * 2) then unboundSearch present fuel (low * 2)
      else bisect present 64 low (low * 2)

/-- A length of the table: some `n` such that `n` is present, or zero, and
`n + 1` is absent. -/
def border (t : Table) : Nat :=
  let size := t.array.size
  let inArray (n : Nat) : Bool := !(t.array.getD (n - 1) .nil).isNil
  if size > 0 && !inArray size then
    if size ≥ 2 && inArray (size - 1) then size - 1
    else bisect inArray 64 0 size
  else
    let present (n : Nat) : Bool := !(t.getInt (Int64.ofNat n)).isNil
    if t.pairs.isEmpty || !present (size + 1) then size
    else unboundSearch present 64 (if size == 0 then 1 else size)

/-- The first present pair of the other part from a place on. -/
def pairFrom (t : Table) : (fuel place : Nat) → Option Pair
  | 0, _ => none
  | fuel + 1, place =>
      match t.pairs[place]? with
      | some pair => if pair.value.isNil then t.pairFrom fuel (place + 1) else some pair
      | none => none

/-- The first present pair from a place of the array on. -/
def arrayFrom (t : Table) : (fuel place : Nat) → Option Pair
  | 0, _ => t.pairFrom t.pairs.size 0
  | fuel + 1, place =>
      match t.array[place]? with
      | some value =>
          if value.isNil then t.arrayFrom fuel (place + 1) else some ⟨.ofNat (place + 1), value⟩
      | none => t.pairFrom t.pairs.size 0

/-- The pair after a key in a traversal, the first one after `nil`. The outer
option is `none` when the table has never had the key. -/
def next? (t : Table) (key : Value) : Option (Option Pair) :=
  match key with
  | .nil => some (t.arrayFrom t.array.size 0)
  | key =>
      match (match key.key with
        | .int i => t.arrayPlace? i
        | _ => none) with
      | some place => some (t.arrayFrom (t.array.size - (place + 1)) (place + 1))
      | none =>
          match t.index[key.key]? with
          | some place => some (t.pairFrom (t.pairs.size - (place + 1)) (place + 1))
          | none => none

/-- The present pairs in the order of a traversal. -/
def toList (t : Table) : List Pair :=
  let inArray := (t.array.foldl
    (fun (acc : List Pair × Nat) value =>
      (if value.isNil then acc.1 else ⟨.ofNat (acc.2 + 1), value⟩ :: acc.1, acc.2 + 1))
    ([], 0)).1.reverse
  inArray ++ t.pairs.toList.filter fun pair => !pair.value.isNil

/-- Keep only the pairs that a test allows; the layout stays. -/
def keep (t : Table) (test : Value → Value → Bool) : Table :=
  let array := (t.array.foldl
    (fun (acc : Array Value × Nat) value =>
      (acc.1.push (if value.isNil || test (.ofNat (acc.2 + 1)) value then value else .nil),
        acc.2 + 1))
    (#[], 0)).1
  { t with
    array
    pairs := t.pairs.map fun pair =>
      if test pair.key pair.value then pair else { pair with value := .nil } }

/-- About how many bytes a table takes. -/
def bytes (t : Table) : Nat := 56 + 16 * t.array.size + 40 * t.capacity

end Table

end LuaSession.Script
