import LuaSession.Session

/-!
# The scope of a session

The host reads and sets what scripts have bound. Setting, listing and asking
whether a name is bound look at the scope itself; reading a value goes through
the scope's metatable as it does for scripts.
-/

namespace LuaSession

open LuaSession.Script

/-- A value that the host binds. -/
inductive HostValue where
  | nil
  | bool (value : Bool)
  | int (value : Int64)
  | float (value : Binary64)
  | string (bytes : Bytes)
  | list (values : List HostValue)
  | map (entries : List (String × HostValue))
  /-- A function of the host's. -/
  | hosted (function : HostFunction)
  deriving Inhabited

namespace HostValue

mutual

/-- Make a value for the scripts of a session. -/
def make (setting : Setting) : HostValue → Store → Value × Store
  | .nil, s => (.nil, s)
  | .bool value, s => (.bool value, s)
  | .int value, s => (.int value, s)
  | .float value, s => (.float value, s)
  | .string bytes, s => (.str bytes, s)
  | .list values, s =>
      let (table, s) := makeElements setting values 1 {} s
      let (ref, s) := s.newTable table
      (.table ref, s)
  | .map entries, s =>
      let (table, s) := makeFields setting entries {} s
      let (ref, s) := s.newTable table
      (.table ref, s)
  | .hosted function, s =>
      let (ref, s) := s.newNative (.host function setting)
      (.native ref, s)

/-- Put elements into a table from a position on. -/
def makeElements (setting : Setting) : List HostValue → (index : Nat) → Table → Store → Table × Store
  | [], _, table, s => (table, s)
  | value :: rest, index, table, s =>
      let (value, s) := value.make setting s
      makeElements setting rest (index + 1) (table.set (.ofNat index) value) s

/-- Put fields into a table. -/
def makeFields (setting : Setting) : List (String × HostValue) → Table → Store → Table × Store
  | [], table, s => (table, s)
  | (name, value) :: rest, table, s =>
      let (value, s) := value.make setting s
      makeFields setting rest (table.setString name value) s

end

end HostValue

/-- What the host wants to read a value as. -/
inductive Wanted where
  | integer
  | byte
  | float
  | bool
  | text
  | optionalInteger
  | integers
  | value
  deriving DecidableEq, Repr

/-- What the host sees of a value. -/
inductive Shape where
  | nil
  | boolean (value : Bool)
  | integer (value : Int)
  | number (value : Binary64)
  | string (bytes : Bytes)
  | table (length : Nat)
  /-- A value of which only its type can be told. -/
  | reference (typeName : String)

/-- A value as the host has wanted it. -/
inductive Reading where
  | absent
  | integer (value : Int)
  | float (value : Binary64)
  | bool (value : Bool)
  | text (text : String)
  | integers (values : List Int)
  | shape (shape : Shape)

namespace Shape

/-- What the host sees of a value. -/
def ofValue (s : Store) : Value → Shape
  | .nil => .nil
  | .bool value => .boolean value
  | .int value => .integer value.toInt
  | .float value => .number value
  | .str bytes => .string bytes
  | .table ref => .table (s.table ref).border
  | value => .reference (Conversion.typeName s value)

end Shape

namespace Reading

/-- Read a value. -/
def ofValue (s : Store) (wanted : Wanted) (value : Value) : Except Failure Reading :=
  match wanted with
  | .integer => Reading.integer <$> Conversion.integer64 s value
  | .byte => Reading.integer <$> Conversion.unsigned8 s value
  | .float => Reading.float <$> Conversion.float s value
  | .bool => .ok (.bool value.truthy)
  | .text => Reading.text <$> Conversion.text s value
  | .optionalInteger =>
      if value.isNil then .ok .absent else Reading.integer <$> Conversion.integer64 s value
  | .integers => Reading.integers <$> Conversion.integers s value
  | .value => .ok (.shape (Shape.ofValue s value))

end Reading

namespace Session

/-- The table of the scope. -/
def scopeTable (session : Session) : Table := session.store.table session.setting.scope

/-- Bind a value of the scripts to a name. -/
def bindValue (session : Session) (name : String) (value : Value) : Session :=
  session.modifyStore (·.put session.setting.scope (.ofString name) value)

/-- Bind a value to a name. -/
def set (session : Session) (name : String) (value : HostValue) : Session :=
  let (value, store) := value.make session.setting session.store
  (session.modifyStore fun _ => store).bindValue name value

/-- Is a name bound in the scope itself? -/
def contains (session : Session) (name : String) : Bool :=
  !(session.scopeTable.getString name).isNil

/-- The names that are bound in the scope itself, as text and in order; the
adapter's is left out. -/
def names (session : Session) : List String :=
  let texts := session.scopeTable.toList.filterMap fun pair =>
    match pair.key with
    | .str bytes => some (Utf8.lossy bytes)
    | _ => none
  (texts.filter (· != Bootstrap.outputBinding)).mergeSort fun a b => !decide (b < a)

/-- Read the value of a name. -/
def get (session : Session) (name : String) (wanted : Wanted) :
    Outcome (Except HostError Reading) :=
  let run : Run (Except Library.Hosted.Ending Value) := do
    let result ← Library.Hosted.callForHost (.builtin (.adapter .field))
      #[.table session.setting.scope, .ofString name]
    return result.map firstOf
  let outcome := session.perform run
  let value : Except HostError Reading :=
    match outcome.value with
    | .ok (.ok value) =>
        (Reading.ofValue outcome.session.store wanted value).mapError HostError.script
    | .ok (.error (.failed failure)) => .error (.script failure)
    | .ok (.error (.panicked text)) => .error (.script (.runtime (text.getD "")))
    | .error _ => .error (.script noMemory)
  { outcome with value }

end Session

end LuaSession
