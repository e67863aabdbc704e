import LuaSession.Script.Operation

/-!
# Arguments of library functions

A library function gets its arguments in an array. The functions here take an
argument as what the function wants, or fail with a message that names the
function as it was called.
-/

namespace LuaSession.Library

open LuaSession.Script

/-- How a library function has been called. -/
structure Caller where
  function : Value
  callee : Callee := .unnamed
  /-- The text and the line of the call, if a script called. -/
  place : Option (Bytes × Nat) := none
  deriving Inhabited

/-- A library function. -/
abbrev Function := Caller → Array Value → Run (Array Value)

namespace Caller

/-- The place of the call, as it stands in front of messages. -/
def position (caller : Caller) : Bytes :=
  match caller.place with
  | some (chunk, line) => chunk ++ s!":{line}: ".toUTF8
  | none => ByteArray.empty

/-- Fail with a message that names the place of the call. -/
def failBytes {α : Type} (caller : Caller) (message : Bytes) : Run α :=
  Run.raiseBytes (caller.position ++ message)

/-- Fail with a message that names the place of the call. -/
def fail {α : Type} (caller : Caller) (message : String) : Run α := caller.failBytes message.toUTF8

end Caller

/-- The name under which a function is found in the loaded modules. -/
def globalName? (s : Store) (function : Value) : Option Bytes :=
  let modules := (s.table s.registry.loaded).toList
  let found := modules.findSome? fun entry =>
    match entry.key, entry.value with
    | .str moduleName, .table ref =>
        (s.table ref).toList.findSome? fun field =>
          match field.key with
          | .str name =>
              if field.value.rawEq function then
                if moduleName == "_G".toUTF8 then some name
                else some (moduleName ++ ".".toUTF8 ++ name)
              else none
          | _ => none
    | _, _ => none
  found

/-- Fail because of an argument. The receiver of a method does not count. -/
def argError {α : Type} (caller : Caller) (index : Nat) (message : Bytes) : Run α := do
  let named := caller.callee.words?
  match named with
  | some ("method", name) =>
      if index == 1 then
        caller.failBytes ("calling '".toUTF8 ++ name ++ "' on bad self (".toUTF8 ++ message ++
          ")".toUTF8)
      else
        caller.failBytes (s!"bad argument #{index - 1} to '".toUTF8 ++ name ++ "' (".toUTF8 ++
          message ++ ")".toUTF8)
  | named =>
      let name ← match named with
        | some (_, name) => pure name
        | none => do
            let found ← Run.read fun s => globalName? s caller.function
            pure (found.getD "?".toUTF8)
      caller.failBytes (s!"bad argument #{index} to '".toUTF8 ++ name ++ "' (".toUTF8 ++
        message ++ ")".toUTF8)

/-- Fail because of an argument. -/
def argFail {α : Type} (caller : Caller) (index : Nat) (message : String) : Run α :=
  argError caller index message.toUTF8

/-- Fail because an argument has another type than it should. -/
def typeFail {α : Type} (caller : Caller) (arguments : Array Value) (index : Nat)
    (wanted : String) : Run α := do
  let got ← match arguments[index - 1]? with
    | none => pure "no value".toUTF8
    | some value => Run.read (·.typeNameOf value)
  argError caller index (wanted.toUTF8 ++ " expected, got ".toUTF8 ++ got)

/-- An argument, `nil` when it is missing. Arguments count from one. -/
@[inline] def argument (arguments : Array Value) (index : Nat) : Value :=
  arguments.getD (index - 1) .nil

/-- An argument that may be anything but not missing. -/
def anyArgument (caller : Caller) (arguments : Array Value) (index : Nat) : Run Value :=
  match arguments[index - 1]? with
  | some value => return value
  | none => argFail caller index "value expected"

/-- An integer argument. -/
def intArgument (caller : Caller) (arguments : Array Value) (index : Nat) : Run Int64 :=
  let value := argument arguments index
  match value.toInt? with
  | some i => return i
  | none =>
      if value.toNumber?.isSome then argFail caller index "number has no integer representation"
      else typeFail caller arguments index "number"

/-- An integer argument that may be missing. -/
def optionalInt (caller : Caller) (arguments : Array Value) (index : Nat) (standard : Int64) :
    Run Int64 :=
  if (argument arguments index).isNil then return standard
  else intArgument caller arguments index

/-- A number argument. -/
def numberArgument (caller : Caller) (arguments : Array Value) (index : Nat) : Run Number :=
  match (argument arguments index).toNumber? with
  | some n => return n
  | none => typeFail caller arguments index "number"

/-- A number argument as a float. -/
def floatArgument (caller : Caller) (arguments : Array Value) (index : Nat) : Run Binary64 := do
  return Value.numberToFloat (← numberArgument caller arguments index)

/-- A string argument; numbers are turned into strings. -/
def bytesArgument (caller : Caller) (arguments : Array Value) (index : Nat) : Run Bytes :=
  match (argument arguments index).toBytes? with
  | some bytes => return bytes
  | none => typeFail caller arguments index "string"

/-- A string argument that may be missing. -/
def optionalBytes (caller : Caller) (arguments : Array Value) (index : Nat) (standard : Bytes) :
    Run Bytes :=
  if (argument arguments index).isNil then return standard
  else bytesArgument caller arguments index

/-- A table argument. -/
def tableArgument (caller : Caller) (arguments : Array Value) (index : Nat) : Run Nat :=
  match argument arguments index with
  | .table ref => return ref
  | _ => typeFail caller arguments index "table"

/-- A function argument. -/
def functionArgument (caller : Caller) (arguments : Array Value) (index : Nat) : Run Value :=
  let value := argument arguments index
  if value.isFunction then return value else typeFail caller arguments index "function"

/-- An argument that is one of several words. -/
def optionArgument {α : Type} (caller : Caller) (arguments : Array Value) (index : Nat)
    (standard : Option String) (options : List (String × α)) : Run α := do
  let word ← match standard with
    | some standard => optionalBytes caller arguments index standard.toUTF8
    | none => bytesArgument caller arguments index
  match options.find? fun entry => entry.1.toUTF8 == word with
  | some (_, option) => return option
  | none => argError caller index ("invalid option '".toUTF8 ++ word ++ "'".toUTF8)

/-- The text of a value, as its metatable may give it. -/
def textOf (position : Bytes) (value : Value) : Run Bytes := do
  let handler ← Run.read (·.metafield value Event.tostring)
  if handler.isNil then
    match value with
    | .nil => return "nil".toUTF8
    | .bool b => return (toString b).toUTF8
    | value =>
        match value.toBytes? with
        | some bytes => return bytes
        | none =>
            let name ← Run.read fun s =>
              match s.metafield value Event.name with
              | .str name => name
              | _ => value.typeName.toUTF8
            return name ++ ": ".toUTF8 ++ (identityText value).toUTF8
  else
    let results ← Run.callLibrary handler #[value]
    match (firstOf results).toBytes? with
    | some bytes => return bytes
    | none => Run.raiseBytes (position ++ "'__tostring' must return a string".toUTF8)

/-- A failure as scripts get it: `nil` and a message. -/
def softFailure (message : Bytes) : Array Value := #[.nil, .str message]

end LuaSession.Library
