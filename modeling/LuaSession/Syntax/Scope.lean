import LuaSession.Script.Arithmetic
import LuaSession.Syntax.Lexer

/-!
# Scopes while reading a script

While a script is read, every function keeps its visible variables, the blocks
that are open, its labels and the jumps that have not met their label, the
variables it captures, and how much of its frame is in use. The limits on
scripts are limits on these.
-/

namespace LuaSession.Syntax

open LuaSession.Script

/-- The kinds of local variables. -/
inductive VariableKind where
  | regular
  | const
  /-- Closed when it goes out of scope. -/
  | closing
  /-- A name for a value that is known while reading; it has no slot. -/
  | constant (value : Constant)
  deriving DecidableEq, Inhabited

/-- May a variable of this kind be assigned to? -/
def VariableKind.isReadOnly : VariableKind → Bool
  | .regular => false
  | _ => true

/-- A visible local variable. -/
structure Variable where
  name : Bytes
  kind : VariableKind
  slot : Nat
  deriving DecidableEq, Inhabited

/-- A label of an open block, and how many variables were visible there. -/
structure Label where
  name : Bytes
  line : Nat
  visible : Nat

/-- A jump whose label has not been met: `break` has no label. -/
structure Jump where
  label : Option Bytes
  line : Nat
  visible : Nat

/-- An open block: what was there when it was opened. -/
structure Block where
  visible : Nat
  labels : Nat
  jumps : Nat
  isLoop : Bool
  /-- Does a closing variable's scope reach into the block? -/
  insideClosing : Bool

/-- A variable that a function captures. -/
structure Captured where
  name : Bytes
  from? : Capture
  kind : VariableKind

/-- A function that is being read. -/
structure FunctionScope where
  line : Nat
  isVariadic : Bool
  bindings : Array Variable := #[]
  /-- Names declared but not yet visible count against the limit. -/
  announced : Nat := 0
  blocks : List Block := []
  labels : Array Label := #[]
  jumps : Array Jump := #[]
  captured : Array Captured := #[]
  shared : Array Bool := #[]
  slots : Nat := 0
  /-- How much of the frame is in use, and the most so far. -/
  used : Nat := 0
  frameSize : Nat := 2

namespace FunctionScope

/-- The first slot that no visible variable has. -/
def freeSlot (scope : FunctionScope) : Nat :=
  scope.bindings.foldl
    (fun n v => match v.kind with
      | .constant _ => n
      | _ => max n (v.slot + 1))
    0

/-- The innermost visible variable of a name. -/
def find? (scope : FunctionScope) (name : Bytes) : Option Variable :=
  scope.bindings.findRev? fun v => v.name == name

/-- The captured variable of a name. -/
def findCaptured? (scope : FunctionScope) (name : Bytes) : Option Nat :=
  scope.captured.findIdx? fun c => c.name == name

/-- Mark a slot's variable as captured by a closure. -/
def share (scope : FunctionScope) (slot : Nat) : FunctionScope :=
  let shared := scope.shared ++ Array.replicate (slot + 1 - scope.shared.size) false
  { scope with shared := shared.setIfInBounds slot true }

/-- Is the slot's variable captured by a closure? -/
def isShared (scope : FunctionScope) (slot : Nat) : Bool := scope.shared.getD slot false

end FunctionScope

/-- The most local variables that may be visible in a function. -/
def variableLimit : Nat := 200

/-- The most variables a function may capture. -/
def captureLimit : Nat := 255

/-- The most room a frame may take. -/
def frameLimit : Nat := 255

/-- How deep a script may nest, calls of the host around it included. -/
def depthLimit : Nat := 200

/-- The state of reading a script. -/
structure ReadState where
  /-- The bytes after the current token and the one looked at ahead. -/
  rest : List UInt8
  /-- Above the number of bytes of the script. -/
  size : Nat
  /-- The line that has been reached. -/
  line : Nat := 1
  /-- The line of the last token that was consumed. -/
  lastLine : Nat := 1
  token : Token := .eof
  /-- The text of the last token that was read. -/
  buffer : Bytes := ByteArray.empty
  ahead : Option Token := none
  /-- The function being read, and those around it. -/
  scope : FunctionScope
  outer : List FunctionScope := []
  /-- How deep the text nests here. -/
  depth : Nat
  chunk : Bytes

/-- Reading a script, or a part of it. -/
abbrev Read := EStateM Trouble ReadState

namespace Read

/-- Fail near the current token. -/
def fail {α : Type} (what : Bytes) : Read α := do
  let s ← get
  throw (.at s.line what (Near.ofToken s.token s.buffer))

/-- Fail near the current token. -/
def failText {α : Type} (what : String) : Read α := fail what.toUTF8

/-- Fail without naming a token. -/
def failMeaning {α : Type} (what : Bytes) : Read α := do
  let s ← get
  throw (.at s.line what .nowhere)

/-- Fail because a token is missing. -/
def failExpected {α : Type} (token : Token) : Read α :=
  failText (token.expectedText ++ " expected")

/-- Read the next token from the bytes. -/
def lex : Read Token := do
  let s ← get
  match Lexer.next s.size s.size s.line s.rest with
  | .ok lexed =>
      set { s with rest := lexed.rest, line := lexed.line, buffer := lexed.buffer }
      return lexed.token
  | .error trouble => throw trouble

/-- Go on to the next token. -/
def advance : Read Unit := do
  let s ← get
  match s.ahead with
  | some token => set { s with lastLine := s.line, token, ahead := none }
  | none =>
      set { s with lastLine := s.line }
      let token ← lex
      modify fun s => { s with token }

/-- The token after the current one. -/
def lookAhead : Read Token := do
  let token ← lex
  modify fun s => { s with ahead := some token }
  return token

/-- The current token. -/
def token : Read Token := return (← get).token

/-- The line that has been reached. -/
def line : Read Nat := return (← get).line

/-- Go on if the current token is the given one. -/
def accept (token : Token) : Read Bool := do
  if (← get).token == token then
    advance
    return true
  else return false

/-- Go on if the current token is the given one, else fail. -/
def expect (token : Token) : Read Unit := do
  unless ← accept token do failExpected token

/-- Expect the token that closes a construct opened on some line. -/
def expectClosing (closing opening : Token) (start : Nat) : Read Unit := do
  unless ← accept closing do
    if start == (← line) then failExpected closing
    else
      failText s!"{closing.expectedText} expected (to close {opening.expectedText} at line {start})"

/-- Expect a name. -/
def expectName : Read Bytes := do
  match (← get).token with
  | .name name =>
      advance
      return name
  | _ => failExpected (.name ByteArray.empty)

/-- Change the scope of the function being read. -/
def modifyScope (f : FunctionScope → FunctionScope) : Read Unit :=
  modify fun s => { s with scope := f s.scope }

/-- The scope of the function being read. -/
def scope : Read FunctionScope := return (← get).scope

/-- Fail because a limit is passed. -/
def failLimit {α : Type} (limit : Nat) (what : String) : Read α := do
  let s ← scope
  let whose := if s.line == 0 then "main function" else s!"function at line {s.line}"
  failText s!"too many {what} (limit is {limit}) in {whose}"

/-- Take room on the frame. -/
def reserve (n : Nat) : Read Unit := do
  let s ← scope
  let used := s.used + n
  if used > s.frameSize && used ≥ frameLimit then
    failText "function or expression needs too many registers"
  modifyScope fun s => { s with used, frameSize := max s.frameSize used }

/-- Give room on the frame back. -/
def release (n : Nat) : Read Unit := modifyScope fun s => { s with used := s.used - n }

/-- Go one level deeper. -/
def enter : Read Unit := do
  let s ← get
  if s.depth + 1 ≥ depthLimit then throw .tooDeep
  set { s with depth := s.depth + 1 }

/-- Come back one level. -/
def leave : Read Unit := modify fun s => { s with depth := s.depth - 1 }

/-- Announce a local variable: it counts from here on, and is visible later. -/
def announce : Read Unit := do
  let s ← scope
  if s.bindings.size + s.announced + 1 > variableLimit then
    failLimit variableLimit "local variables"
  modifyScope fun s => { s with announced := s.announced + 1 }

/-- Make an announced variable visible. -/
def declare (name : Bytes) (kind : VariableKind) : Read Nat := do
  let s ← scope
  let slot := s.freeSlot
  modifyScope fun s =>
    { s with
      bindings := s.bindings.push ⟨name, kind, slot⟩
      announced := s.announced - 1
      slots := max s.slots (slot + 1) }
  return slot

/-- Open a block. -/
def openBlock (isLoop : Bool) : Read Unit :=
  modifyScope fun s =>
    let inside := match s.blocks with
      | block :: _ => block.insideClosing
      | [] => false
    { s with
      blocks := ⟨s.bindings.size, s.labels.size, s.jumps.size, isLoop, inside⟩ :: s.blocks }

/-- Mark the innermost block as inside the scope of a closing variable. -/
def markClosing : Read Unit :=
  modifyScope fun s =>
    match s.blocks with
    | block :: blocks => { s with blocks := { block with insideClosing := true } :: blocks }
    | [] => s

/-- Fail because a jump would enter the scope of a variable. -/
def failJump {α : Type} (jump : Jump) : Read α := do
  let s ← scope
  let name := (s.bindings.getD jump.visible default).name
  failMeaning ("<goto ".toUTF8 ++ jump.label.getD "break".toUTF8 ++
    s!"> at line {jump.line} jumps into the scope of local '".toUTF8 ++ name ++ "'".toUTF8)

/-- Let the jumps of the innermost block that go to a label meet it, where
`visible` variables are visible. -/
def resolve (label : Option Bytes) (visible first : Nat) : Read Unit := do
  let s ← scope
  let own := s.jumps.extract first s.jumps.size
  match own.find? fun jump => jump.label == label && jump.visible < visible with
  | some jump => failJump jump
  | none =>
      modifyScope fun s =>
        { s with
          jumps := s.jumps.extract 0 first ++ own.filter fun jump => jump.label != label }

/-- Fail because a jump has no label to go to. -/
def failUnresolved {α : Type} (jump : Jump) : Read α :=
  match jump.label with
  | none => failMeaning s!"break outside loop at line {jump.line}".toUTF8
  | some name =>
      failMeaning ("no visible label '".toUTF8 ++ name ++
        s!"' for <goto> at line {jump.line}".toUTF8)

/-- Close the innermost block: its variables and labels are gone, and its jumps
belong to the block around it. -/
def closeBlock : Read Unit := do
  let s ← scope
  match s.blocks with
  | [] => return
  | block :: blocks =>
      modifyScope fun s => { s with bindings := s.bindings.extract 0 block.visible }
      if block.isLoop then resolve none 0 block.jumps
      modifyScope fun s =>
        { s with
          used := s.freeSlot
          labels := s.labels.extract 0 block.labels
          blocks
          jumps := s.jumps.mapIdx fun i jump =>
            if i < block.jumps then jump
            else { jump with visible := min jump.visible block.visible } }
      if blocks.isEmpty then
        match (← scope).jumps[block.jumps]? with
        | some jump => failUnresolved jump
        | none => return

/-- Does the block that is being read hold a label? -/
def hasLabels : Read Bool := do
  let s ← scope
  match s.blocks with
  | block :: _ => return s.labels.size > block.labels
  | [] => return false

/-- Start reading a function. -/
def openFunction (line : Nat) : Read Unit := do
  modify fun s =>
    { s with scope := { line, isVariadic := false }, outer := s.scope :: s.outer }
  openBlock false

/-- What is known of the function that has been read. -/
def functionInfo (parameters : Nat) : Read CodeInfo := do
  let s ← get
  let scope := s.scope
  return {
    chunk := s.chunk
    line := scope.line
    parameters
    isVariadic := scope.isVariadic
    slots := scope.slots
    frameSize := scope.frameSize
    shared := if scope.shared.any id then (Array.range scope.slots).map scope.isShared else #[]
    captures := scope.captured.map Captured.from? }

/-- End reading a function. -/
def closeFunction (parameters : Nat) : Read CodeInfo := do
  closeBlock
  let info ← functionInfo parameters
  modify fun s =>
    match s.outer with
    | scope :: outer => { s with scope, outer }
    | [] => s
  return info

/-- What a name stands for in a function. -/
inductive Meaning where
  | slot (found : Variable)
  | captured (index : Nat) (kind : VariableKind)
  | global
  deriving Inhabited

/-- Look a name up in the innermost of several functions; the functions around
it are changed where they lend a variable. -/
def lookUp (name : Bytes) :
    List FunctionScope → Except Nat (Meaning × List FunctionScope)
  | [] => .ok (.global, [])
  | scope :: outer =>
      match scope.find? name with
      | some v => .ok (.slot v, scope :: outer)
      | none =>
          match scope.findCaptured? name with
          | some index =>
              let kind := (scope.captured[index]?.map Captured.kind).getD .regular
              .ok (.captured index kind, scope :: outer)
          | none => do
              let (meaning, outer) ← lookUp name outer
              match meaning with
              | .global => .ok (.global, scope :: outer)
              | .slot v =>
                  match v.kind with
                  | .constant _ => .ok (.slot v, scope :: outer)
                  | kind =>
                      if scope.captured.size + 1 > captureLimit then .error scope.line
                      else
                        let scope' := { scope with
                          captured := scope.captured.push ⟨name, .slot v.slot, kind⟩ }
                        let outer := match outer with
                          | lender :: others => lender.share v.slot :: others
                          | [] => []
                        .ok (.captured scope.captured.size kind, scope' :: outer)
              | .captured index kind =>
                  if scope.captured.size + 1 > captureLimit then .error scope.line
                  else
                    let scope' := { scope with
                      captured := scope.captured.push ⟨name, .captured index, kind⟩ }
                    .ok (.captured scope.captured.size kind, scope' :: outer)

/-- What a name stands for here. -/
def meaning (name : Bytes) : Read Meaning := do
  let s ← get
  match lookUp name (s.scope :: s.outer) with
  | .ok (meaning, scope :: outer) =>
      set { s with scope, outer }
      return meaning
  | .ok (meaning, []) => return meaning
  | .error line =>
      let whose := if line == 0 then "main function" else s!"function at line {line}"
      failText s!"too many upvalues (limit is {captureLimit}) in {whose}"

end Read

end LuaSession.Syntax
