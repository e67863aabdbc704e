/-!
# Documents

The tree that a KDL document describes: nodes with a name, entries and an
optional block of children. Type annotations and comments carry no data and are
not kept.
-/

namespace LuaSession

/-- A value of a document. -/
inductive Scalar where
  | string (text : String)
  | integer (value : Int)
  /-- A number with a fraction or an exponent, or an infinity or not-a-number,
  as it is written. -/
  | float (written : String)
  | bool (value : Bool)
  | null
  deriving DecidableEq, Repr, Inhabited

/-- A positional argument, or a property when it has a key. -/
structure Item where
  key : Option String
  value : Scalar
  deriving DecidableEq, Repr, Inhabited

/-- A node of a document. `children` is absent when the node has no block, which
differs from an empty block. -/
inductive Node where
  | mk (name : String) (items : List Item) (children : Option (List Node))
  deriving Repr, Inhabited

namespace Node

/-- The name of a node. -/
def name : Node → String
  | .mk name _ _ => name

/-- The arguments and properties of a node, in order. -/
def items : Node → List Item
  | .mk _ items _ => items

/-- The children block of a node, if it has one. -/
def children : Node → Option (List Node)
  | .mk _ _ children => children

/-- The first positional argument. -/
def firstArgument? (node : Node) : Option Scalar :=
  (node.items.find? fun item => item.key.isNone).map Item.value

end Node

/-- A document: its top-level nodes in order. -/
abbrev Document := List Node

end LuaSession
