import LuaSession.Channel

/-!
# Kinds of listeners

The listeners that a session's host can register: plain recorders, listeners
that panic, that register others, that publish again, and that look at the
number of listeners.
-/

namespace LuaSession

/-- What a listener does beside recording the message. -/
inductive Conduct where
  /-- Nothing more. -/
  | record
  /-- Panics on every message, or on its first one only. -/
  | panic (once : Bool)
  /-- Registers a recorder on every message, or on its first one only. -/
  | subscribe (once : Bool)
  /-- Publishes `re:` and the message, unless the message begins so already;
  having published it may panic. -/
  | republish (thenPanic : Bool)
  /-- Notes the number of listeners. -/
  | count
  deriving DecidableEq, Repr

namespace Conduct

/-- The mark of a message that was published again. -/
def mark : String := "re:"

/-- The acts of each kind of listener. -/
def react : Reaction Conduct
  | .record, _, _ => []
  | .panic once, before, _ => if once && before != 0 then [] else [.panic]
  | .subscribe once, before, _ => if once && before != 0 then [] else [.subscribe .record]
  | .republish thenPanic, _, message =>
      if message.startsWith mark then []
      else .publish (mark ++ message) :: (if thenPanic then [.panic] else [])
  | .count, _, _ => [.noteCount]

/-- A message that was published again is not published a third time, so
listeners never publish deeper than once. -/
instance : Audience Conduct where
  react := react
  depth := 1

/-- A listener that has no channel to act on only records, and may panic. -/
def detached : Conduct → Conduct
  | .panic once => .panic once
  | _ => .record

end Conduct

/-- The board of a host, with these kinds of listeners unless others are named. -/
abbrev Hall (κ : Type := Conduct) := Board κ

end LuaSession
