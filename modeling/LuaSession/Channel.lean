/-!
# Observation channels

A channel is an ordered registry of listeners that share one stream of
messages. Publishing tells the message to the listeners that are registered at
that moment, in the order of their registration. A listener reacts with a list
of acts: it may register further listeners, publish again on the same channel,
look at the number of listeners, and panic. A panic ends the listener's own
reaction and is caught there.

The kinds of listeners are a type `κ`; what a kind does is said by `Audience`. A
`Board` holds all channels of one host, numbers the listeners in the order of
their creation, and keeps a record of what happened. The log, which says what was
told to whom, is read off the record.
-/

namespace LuaSession

/-- One act of a listener's reaction to a message. -/
inductive Act (κ : Type) where
  /-- Register a new listener of the given kind on the same channel. -/
  | subscribe (kind : κ)
  /-- Publish a further message on the same channel, at once. -/
  | publish (message : String)
  /-- Note how many listeners the channel has. -/
  | noteCount
  /-- Panic; the acts after it do not happen. -/
  | panic
  deriving DecidableEq, Repr

/-- What a kind of listener does, given how many messages it has had before.

A listener whose acts depend on more than that acts in every run like one of
some kind, since a kind may do something else at every message. -/
abbrev Reaction (κ : Type) := κ → (before : Nat) → (message : String) → List (Act κ)

/-- The kinds of listeners that a host may register. -/
class Audience (κ : Type) where
  /-- What each kind does. -/
  react : Reaction κ
  /-- How deep listeners may publish in turn. -/
  depth : Nat

/-- A registered listener: its number on the board and its kind. -/
structure Listener (κ : Type) where
  number : Nat
  kind : κ
  deriving DecidableEq, Repr

/-- A listener that is being told a message: the call that tells it, and its
number. -/
structure Telling where
  call : Nat
  listener : Nat
  deriving DecidableEq, Repr

/-- Something that happened on a board. A source says at which telling a
listener did it; without a source the host did it. -/
inductive Event (κ : Type) where
  /-- A listener was registered on a channel. -/
  | subscribed (source : Option Telling) (channel : Nat) (listener : Listener κ)
  /-- A call that publishes a message on a channel began. -/
  | started (source : Option Telling) (call channel : Nat) (message : String)
  /-- A call told a listener its message. -/
  | told (call : Nat) (listener : Listener κ) (message : String)
  /-- A listener looked at the number of listeners of a channel. -/
  | counted (source : Telling) (channel count : Nat)
  /-- A listener panicked, and the call that told it caught the panic. -/
  | panicked (source : Telling)
  /-- A listener wanted to publish, but deeper than listeners may. -/
  | refused (source : Telling) (message : String)
  /-- A call returned. -/
  | returned (call : Nat)
  deriving DecidableEq, Repr

/-- One line of the log: a listener's number and what it was told or noted. -/
structure Entry where
  listener : Nat
  text : String
  deriving DecidableEq, Repr

/-- What the log has of an event. -/
def Event.entry? {κ : Type} : Event κ → Option Entry
  | .told _ listener message => some ⟨listener.number, message⟩
  | .counted source _ count => some ⟨source.listener, s!"count={count}"⟩
  | _ => none

/-- The channels of one host, how often each listener was told a message, how
many calls have published, and what happened. A channel is named by its
position. -/
structure Board (κ : Type) where
  channels : Array (Array (Listener κ)) := #[]
  told : Array Nat := #[]
  calls : Nat := 0
  record : Array (Event κ) := #[]
  deriving Repr

namespace Board

variable {κ : Type}

/-- The listeners of a channel, in the order of their registration. -/
def listeners (board : Board κ) (channel : Nat) : Array (Listener κ) :=
  board.channels.getD channel #[]

/-- The number of listeners of a channel. -/
def count (board : Board κ) (channel : Nat) : Nat := (board.listeners channel).size

/-- What was told to whom, or noted by whom. -/
def log (board : Board κ) : Array Entry := board.record.filterMap Event.entry?

/-- Take the log, which is empty then. -/
def takeLog (board : Board κ) : Array Entry × Board κ := (board.log, { board with record := #[] })

/-- Open a channel without listeners; it is named by the old number of channels. -/
def openChannel (board : Board κ) : Board κ :=
  { board with channels := board.channels.push #[] }

/-- Give out the next listener number without registering anybody. -/
def skipNumber (board : Board κ) : Board κ :=
  { board with told := board.told.push 0 }

/-- Record an event. -/
def note (board : Board κ) (event : Event κ) : Board κ :=
  { board with record := board.record.push event }

/-- Register a listener for every call that starts from now on. -/
def subscribe (board : Board κ) (channel : Nat) (kind : κ) (source : Option Telling := none) :
    Board κ :=
  let listener : Listener κ := ⟨board.told.size, kind⟩
  { board with
    channels := board.channels.modify channel (·.push listener)
    told := board.told.push 0 }.note (.subscribed source channel listener)

/-- Perform the acts of one reaction: has it panicked? `nested` is how a further
publish on the channel goes. -/
def perform (nested : Board κ → String → Board κ) (channel : Nat) (source : Telling) :
    Board κ → List (Act κ) → Board κ × Bool
  | board, [] => (board, false)
  | board, .subscribe kind :: acts =>
      perform nested channel source (board.subscribe channel kind (some source)) acts
  | board, .publish message :: acts =>
      perform nested channel source (nested board message) acts
  | board, .noteCount :: acts =>
      perform nested channel source
        (board.note (.counted source channel (board.count channel))) acts
  | board, .panic :: _ => (board, true)

/-- Hand a listener its message. -/
def hand (board : Board κ) (call : Nat) (listener : Listener κ) (message : String) : Board κ :=
  { board with told := board.told.modify listener.number (· + 1) }.note
    (.told call listener message)

variable [Audience κ]

/-- Tell one listener a message, let it react, and catch its panic. -/
def tell (nested : Telling → Board κ → String → Board κ) (channel call : Nat)
    (message : String) (board : Board κ) (listener : Listener κ) : Board κ :=
  let source : Telling := ⟨call, listener.number⟩
  let before := board.told.getD listener.number 0
  match perform (nested source) channel source (board.hand call listener message)
      (Audience.react listener.kind before message) with
  | (board, true) => board.note (.panicked source)
  | (board, false) => board

/-- Begin a call that publishes a message. -/
def begin (board : Board κ) (channel : Nat) (source : Option Telling) (message : String) :
    Board κ :=
  { board with calls := board.calls + 1 }.note (.started source board.calls channel message)

/-- Publish a message: every listener registered now is told, in order, however
the others react. `depth` bounds how deep listeners may publish in turn. -/
def publishWithin (depth : Nat) (channel : Nat) (source : Option Telling) (board : Board κ)
    (message : String) : Board κ :=
  let nested : Telling → Board κ → String → Board κ :=
    match depth with
    | 0 => fun telling board message => board.note (.refused telling message)
    | depth + 1 => fun telling => publishWithin depth channel (some telling)
  ((board.listeners channel).foldl (tell nested channel board.calls message)
    (board.begin channel source message)).note (.returned board.calls)

/-- Publish a message of the host's. -/
def publish (board : Board κ) (channel : Nat) (message : String) : Board κ :=
  publishWithin (Audience.depth κ) channel none board message

/-- Publish several messages one after the other. -/
def publishAll (board : Board κ) (channel : Nat) (messages : List String) : Board κ :=
  messages.foldl (fun board message => board.publish channel message) board

end Board

end LuaSession
