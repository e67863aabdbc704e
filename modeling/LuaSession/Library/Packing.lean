import LuaSession.Library.Arguments

/-!
# Packed values

A packing format describes how values are laid out in bytes: integers of a size,
floats, strings with a length in front or a zero at the end, padding, and the
order of bytes. The format is read option by option, so that what is wrong with
an option shows only after the values before it have been used.
-/

namespace LuaSession.Library

open LuaSession.Script

/-- What one option of a format asks for. -/
inductive PackItem where
  | int (size : Nat)
  | unsigned (size : Nat)
  | single
  | double
  /-- A string of a fixed size. -/
  | chars (size : Nat)
  /-- A string with its length in front. -/
  | string (size : Nat)
  | zeroEnded
  | padding
  /-- Padding as another option would need it. -/
  | alignment
  | nothing

/-- How many bytes an option takes for itself. -/
def PackItem.size : PackItem → Nat
  | .int n | .unsigned n | .chars n | .string n => n
  | .single => 4
  | .double => 8
  | .padding => 1
  | .zeroEnded | .alignment | .nothing => 0

/-- The state of reading a format. -/
structure PackState where
  little : Bool := true
  maxAlign : Nat := 1

/-- The greatest size of a packed integer. -/
def packLimit : Nat := 16

/-- Read a number of an option. -/
def packNumber : (value : Option Nat) → List UInt8 → Option Nat × List UInt8
  | value, b :: rest =>
      if Numeral.isDigit b && value.getD 0 ≤ (0x80000000 - 10) / 10 then
        packNumber (some (value.getD 0 * 10 + (b.toNat - 0x30))) rest
      else (value, b :: rest)
  | value, [] => (value, [])

/-- Read the size of an integer. -/
def packSize (caller : Caller) (standard : Nat) (format : List UInt8) :
    Run (Nat × List UInt8) := do
  let (n, rest) := packNumber none format
  let size := n.getD standard
  if size > packLimit || size == 0 then
    caller.fail s!"integral size ({size}) out of limits [1,{packLimit}]"
  else return (size, rest)

/-- Read one option. -/
def packOption (caller : Caller) (state : PackState) (format : List UInt8) :
    Run (PackItem × PackState × List UInt8) := do
  match format with
  | [] => return (.nothing, state, [])
  | b :: rest =>
      match Char.ofNat b.toNat with
      | 'b' => return (.int 1, state, rest)
      | 'B' => return (.unsigned 1, state, rest)
      | 'h' => return (.int 2, state, rest)
      | 'H' => return (.unsigned 2, state, rest)
      | 'l' | 'j' => return (.int 8, state, rest)
      | 'L' | 'J' | 'T' => return (.unsigned 8, state, rest)
      | 'i' =>
          let (n, rest) ← packSize caller 4 rest
          return (.int n, state, rest)
      | 'I' =>
          let (n, rest) ← packSize caller 4 rest
          return (.unsigned n, state, rest)
      | 'f' => return (.single, state, rest)
      | 'd' | 'n' => return (.double, state, rest)
      | 's' =>
          let (n, rest) ← packSize caller 8 rest
          return (.string n, state, rest)
      | 'c' =>
          match packNumber none rest with
          | (some n, rest) => return (.chars n, state, rest)
          | (none, _) => caller.fail "missing size for format option 'c'"
      | 'z' => return (.zeroEnded, state, rest)
      | 'x' => return (.padding, state, rest)
      | 'X' => return (.alignment, state, rest)
      | ' ' => return (.nothing, state, rest)
      | '<' | '=' => return (.nothing, { state with little := true }, rest)
      | '>' => return (.nothing, { state with little := false }, rest)
      | '!' =>
          let (n, rest) ← packSize caller 8 rest
          return (.nothing, { state with maxAlign := n }, rest)
      | _ => caller.failBytes ("invalid format option '".toUTF8.push b ++ "'".toUTF8)

/-- One option with the padding in front of it. -/
structure PackDetail where
  item : PackItem
  pad : Nat
  state : PackState
  rest : List UInt8

/-- Read one option and compute its padding at an offset. -/
def packDetail (caller : Caller) (state : PackState) (offset : Nat) (format : List UInt8) :
    Run PackDetail := do
  let (item, state, rest) ← packOption caller state format
  let (align, state, rest) ← match item with
    | .alignment => do
        if rest.isEmpty then argFail caller 1 "invalid next option for option 'X'"
        else
          let (next, state, rest) ← packOption caller state rest
          match next with
          | .chars _ => argFail caller 1 "invalid next option for option 'X'"
          | next =>
              if next.size == 0 then argFail caller 1 "invalid next option for option 'X'"
              else pure (next.size, state, rest)
    | item => pure (item.size, state, rest)
  let isChars := match item with
    | .chars _ => true
    | _ => false
  if align ≤ 1 || isChars then return ⟨item, 0, state, rest⟩
  else
    let align := min align state.maxAlign
    if align &&& (align - 1) != 0 then
      argFail caller 1 "format asks for alignment not power of 2"
    else return ⟨item, (align - offset % align) % align, state, rest⟩

/-- The lowest `size` bytes of a number, the first one lowest. -/
def littleBytes : (size n : Nat) → List UInt8
  | 0, _ => []
  | size + 1, n => UInt8.ofNat (n % 256) :: littleBytes size (n / 256)

/-- Bytes in the order that a format asks for. -/
def ordered (little : Bool) (bytes : List UInt8) : Bytes :=
  (if little then bytes else bytes.reverse).toByteArray

/-- The bytes of an integer. -/
def packInt (little : Bool) (size : Nat) (i : Int) : Bytes :=
  ordered little (littleBytes size (i % (1 <<< (8 * size) : Nat)).toNat)

/-- A number of zero bytes. -/
def zeroBytes (n : Nat) : Bytes := (List.replicate n (0 : UInt8)).toByteArray

/-- The bits of the nearest float of 32 bits. -/
def singleBits (x : Binary64) : Nat := (Float.ofBits x).toFloat32.toBits.toNat

/-- The float whose 32 bits are given. -/
def ofSingleBits (bits : Nat) : Binary64 := (Float32.ofBits (UInt32.ofNat bits)).toFloat.toBits

/-- Pack one value. -/
def packOne (caller : Caller) (arguments : Array Value) (index : Nat) (little : Bool)
    (item : PackItem) : Run Bytes := do
  match item with
  | .int size =>
      let n ← intArgument caller arguments index
      let bound : Nat := 1 <<< (size * 8 - 1)
      if size < 8 && !(-(bound : Int) ≤ n.toInt && n.toInt < bound) then
        argFail caller index "integer overflow"
      else return packInt little size n.toInt
  | .unsigned size =>
      let n ← intArgument caller arguments index
      if size < 8 && n.toUInt64.toNat ≥ 1 <<< (size * 8) then
        argFail caller index "unsigned overflow"
      else return packInt little size n.toUInt64.toNat
  | .single =>
      let x ← floatArgument caller arguments index
      return ordered little (littleBytes 4 (singleBits x))
  | .double =>
      let x ← floatArgument caller arguments index
      return ordered little (littleBytes 8 x.toNat)
  | .chars size =>
      let text ← bytesArgument caller arguments index
      if text.size > size then argFail caller index "string longer than given size"
      else return text ++ zeroBytes (size - text.size)
  | .string size =>
      let text ← bytesArgument caller arguments index
      if size < 8 && text.size ≥ 1 <<< (size * 8) then
        argFail caller index "string length does not fit in given size"
      else return packInt little size text.size ++ text
  | .zeroEnded =>
      let text ← bytesArgument caller arguments index
      if text.toList.contains 0 then argFail caller index "string contains zeros"
      else return text.push 0
  | .padding => return zeroBytes 1
  | .alignment | .nothing => return ByteArray.empty

/-- Does an option take a value? -/
def PackItem.takesValue : PackItem → Bool
  | .padding | .alignment | .nothing => false
  | _ => true

/-- Pack values by a format; `index` is the last argument that has been used. -/
def packAll (caller : Caller) (arguments : Array Value) :
    (fuel : Nat) → PackState → (index : Nat) → (done : Bytes) → List UInt8 → Run Bytes
  | 0, _, _, done, _ => return done
  | fuel + 1, state, index, done, format => do
      if format.isEmpty then return done
      else
        let detail ← packDetail caller state done.size format
        let index := if detail.item.takesValue then index + 1 else index
        let bytes ← packOne caller arguments index detail.state.little detail.item
        packAll caller arguments fuel detail.state index
          (done ++ zeroBytes detail.pad ++ bytes) detail.rest

/-- How many bytes a format takes. -/
def packedSize (caller : Caller) :
    (fuel : Nat) → PackState → (total : Nat) → List UInt8 → Run Nat
  | 0, _, total, _ => return total
  | fuel + 1, state, total, format => do
      if format.isEmpty then return total
      else
        let detail ← packDetail caller state total format
        match detail.item with
        | .string _ | .zeroEnded => argFail caller 1 "variable-length format"
        | item =>
            let size := item.size + detail.pad
            if total + size > 0x7FFFFFFF then argFail caller 1 "format result too large"
            else packedSize caller fuel detail.state (total + size) detail.rest

/-- The number that bytes stand for, the first one lowest. -/
def ofLittle : List UInt8 → Nat
  | [] => 0
  | b :: rest => b.toNat + 256 * ofLittle rest

/-- The bytes at a place, the lowest first. -/
def littleAt (data : Bytes) (little : Bool) (place size : Nat) : List UInt8 :=
  let bytes := (data.extract place (place + size)).toList
  if little then bytes else bytes.reverse

/-- Unpack an integer. -/
def unpackInt (caller : Caller) (bytes : List UInt8) (signed : Bool) : Run Int64 := do
  let size := bytes.length
  let n := ofLittle bytes
  if size ≤ 8 then
    let negative := signed && n ≥ 1 <<< (size * 8 - 1)
    return Int64.ofInt (if negative then (n : Int) - (1 <<< (size * 8) : Nat) else n)
  else
    let low := Int64.ofNat (n % UInt64.size)
    let fill : UInt8 := if signed && low < 0 then 0xFF else 0
    if (bytes.drop 8).all (· == fill) then return low
    else caller.fail s!"{size}-byte integer does not fit into Lua Integer"

/-- Unpack values by a format from a position on. -/
def unpackAll (caller : Caller) (data : Bytes) :
    (fuel : Nat) → PackState → (position : Nat) → (done : Array Value) → List UInt8 →
      Run (Array Value)
  | 0, _, position, done, _ => return done.push (.ofNat (position + 1))
  | fuel + 1, state, position, done, format => do
      if format.isEmpty then return done.push (.ofNat (position + 1))
      else
        let detail ← packDetail caller state position format
        let size := detail.item.size
        if detail.pad + size > data.size - position then argFail caller 2 "data string too short"
        else
          let position := position + detail.pad
          let bytes := littleAt data detail.state.little position size
          let go (position : Nat) (done : Array Value) : Run (Array Value) :=
            unpackAll caller data fuel detail.state position done detail.rest
          match detail.item with
          | .int _ =>
              let i ← unpackInt caller bytes true
              go (position + size) (done.push (.int i))
          | .unsigned _ =>
              let i ← unpackInt caller bytes false
              go (position + size) (done.push (.int i))
          | .single => go (position + size) (done.push (.float (ofSingleBits (ofLittle bytes))))
          | .double =>
              go (position + size) (done.push (.float (UInt64.ofNat (ofLittle bytes))))
          | .chars _ =>
              go (position + size) (done.push (.str (data.extract position (position + size))))
          | .string _ =>
              let length := (← unpackInt caller bytes false).toUInt64.toNat
              if length > data.size - position - size then
                argFail caller 2 "data string too short"
              else
                let start := position + size
                go (start + length) (done.push (.str (data.extract start (start + length))))
          | .zeroEnded =>
              let tail := (data.extract position data.size).toList
              match tail.findIdx? (· == 0) with
              | none => argFail caller 2 "unfinished string for format 'z'"
              | some length =>
                  go (position + length + 1)
                    (done.push (.str (data.extract position (position + length))))
          | .padding | .alignment | .nothing => go (position + size) done

end LuaSession.Library
