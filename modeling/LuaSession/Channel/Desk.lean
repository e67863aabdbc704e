import LuaSession.Channel.Conduct

/-!
# Handles on channels

A host holds its channels by handles; a clone of a handle is a further handle on
the same channel.
-/

namespace LuaSession

namespace Board

variable {κ : Type}

/-- The text that shows a channel. -/
def describe (board : Board κ) (channel : Nat) : String :=
  s!"ObservationChannel \x7b listeners: {board.count channel} \x7d"

/-- The text that shows the adapter on a channel. -/
def describeAdapter (board : Board κ) (channel : Nat) : String :=
  s!"OutputAdapter \x7b channel: {board.describe channel} \x7d"

end Board

/-- The handles of a host. -/
structure Desk (κ : Type := Conduct) where
  hall : Hall κ := {}
  /-- The channel of every handle. -/
  handles : Array Nat := #[]

/-- What a host does with a handle. -/
inductive DeskStep (κ : Type := Conduct) where
  /-- Open a new channel. -/
  | «open»
  | clone
  | subscribe (kind : κ)
  | publish (text : String)
  /-- Publish what an adapter on the channel is given. -/
  | accept (text : String)
  | count
  | describe
  | describeAdapter
  deriving Repr

/-- What a host gets for a step. -/
inductive DeskAnswer where
  | nothing
  | number (value : Nat)
  | text (value : String)
  deriving DecidableEq, Repr

namespace Desk

variable {κ : Type}

/-- A desk with one channel. -/
def initial : Desk κ where
  hall := ({} : Hall κ).openChannel
  handles := #[0]

variable [Audience κ]

/-- Do a step with the handle on a channel. -/
def step (desk : Desk κ) (channel : Nat) : DeskStep κ → DeskAnswer × Desk κ
  | .open =>
      let { hall, handles } := desk
      (.number handles.size,
        { hall := hall.openChannel, handles := handles.push hall.channels.size })
  | .clone =>
      (.number desk.handles.size, { desk with handles := desk.handles.push channel })
  | .subscribe kind => (.nothing, { desk with hall := desk.hall.subscribe channel kind })
  | .publish text | .accept text =>
      (.nothing, { desk with hall := desk.hall.publish channel text })
  | .count => (.number (desk.hall.count channel), desk)
  | .describe => (.text (desk.hall.describe channel), desk)
  | .describeAdapter => (.text (desk.hall.describeAdapter channel), desk)

/-- Do a step with a handle, if there is such a handle. -/
def step? (desk : Desk κ) (handle : Nat) (step : DeskStep κ) : Option (DeskAnswer × Desk κ) :=
  desk.handles[handle]?.map fun channel => desk.step channel step

end Desk

end LuaSession
