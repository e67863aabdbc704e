import LuaSession.Proofs.Channel.Publishing

/-!
# Channels with quiet listeners

Quiet listeners may panic, look at the number of listeners and register others,
but they do not publish. On a channel that has no others, publishing a message
tells it once to each listener, and nothing else is told to anybody.
-/

namespace LuaSession

variable {κ : Type}

/-- The message that an event tells a listener. -/
def Event.toldTo? (number : Nat) : Event κ → Option String
  | .told _ listener message => if listener.number = number then some message else none
  | _ => none

/-- The messages that a listener was told, in order. -/
def received (number : Nat) (events : List (Event κ)) : List String :=
  events.filterMap (Event.toldTo? number)

@[simp] theorem received_append (number : Nat) (front back : List (Event κ)) :
    received number (front ++ back) = received number front ++ received number back :=
  List.filterMap_append

/-- Kinds of listeners that never publish, and that register only their like. -/
structure Quiet [Audience κ] (quiet : κ → Prop) : Prop where
  silent : ∀ kind, quiet kind → ∀ before message text,
    .publish text ∉ Audience.react kind before message
  closed : ∀ kind, quiet kind → ∀ before message other,
    .subscribe other ∈ Audience.react kind before message → quiet other

namespace Board

/-- Something quiet has happened on a channel: the listeners were told some
messages each, and only quiet listeners have come after the old ones. -/
structure Hears (quiet : κ → Prop) (channel : Nat) (board : Board κ)
    (messages : Nat → List String) (after : Board κ) : Prop where
  channels : after.channels.size = board.channels.size
  joined : ∃ more, (after.listeners channel).toList = (board.listeners channel).toList ++ more ∧
    ∀ listener ∈ more, quiet listener.kind
  heard : ∀ number,
    received number after.events = received number board.events ++ messages number

namespace Hears

variable {quiet : κ → Prop} {channel : Nat} {board between after : Board κ}
  {messages others : Nat → List String}

theorem refl : Hears quiet channel board (fun _ => []) board where
  channels := rfl
  joined := ⟨[], (List.append_nil _).symm, by simp⟩
  heard := by simp

theorem trans (first : Hears quiet channel board messages between)
    (second : Hears quiet channel between others after) :
    Hears quiet channel board (fun number => messages number ++ others number) after where
  channels := second.channels.trans first.channels
  joined := by
    obtain ⟨more, joined, areQuiet⟩ := first.joined
    obtain ⟨later, joinedLater, laterQuiet⟩ := second.joined
    refine ⟨more ++ later, ?_, ?_⟩
    · rw [joinedLater, joined, List.append_assoc]
    · intro listener member
      rcases List.mem_append.mp member with member | member
      · exact areQuiet listener member
      · exact laterQuiet listener member
  heard := by
    intro number
    rw [second.heard, first.heard, List.append_assoc]

theorem congr (hears : Hears quiet channel board messages after)
    (same : ∀ number, messages number = others number) :
    Hears quiet channel board others after where
  channels := hears.channels
  joined := hears.joined
  heard := by
    intro number
    rw [hears.heard, same]

/-- Who is quiet stays so, and so are those that have come. -/
theorem quiet_listeners (hears : Hears quiet channel board messages after)
    (areQuiet : ∀ listener ∈ (board.listeners channel).toList, quiet listener.kind) :
    ∀ listener ∈ (after.listeners channel).toList, quiet listener.kind := by
  obtain ⟨more, joined, moreQuiet⟩ := hears.joined
  intro listener member
  rw [joined] at member
  rcases List.mem_append.mp member with member | member
  · exact areQuiet listener member
  · exact moreQuiet listener member

/-- Noting something that is no telling. -/
theorem note {event : Event κ} (notTold : ∀ number, event.toldTo? number = none) :
    Hears quiet channel board (fun _ => []) (board.note event) where
  channels := rfl
  joined := ⟨[], (List.append_nil _).symm, by simp⟩
  heard := by
    intro number
    rw [events_note, received_append]
    simp [received, notTold]

/-- Registering a quiet listener. -/
theorem subscribe (isOpen : channel < board.channels.size) {kind : κ} (isQuiet : quiet kind)
    (source : Option Telling) :
    Hears quiet channel board (fun _ => []) (board.subscribe channel kind source) where
  channels := by simp [Board.subscribe, Board.note]
  joined := by
    refine ⟨[⟨board.told.size, kind⟩], ?_, by simpa using isQuiet⟩
    simp [Board.subscribe, Board.note, listeners, Array.getElem_modify, isOpen]
  heard := by
    intro number
    rw [events_subscribe, received_append]
    simp [received, Event.toldTo?]

/-- Handing a listener its message. -/
theorem hand (call : Nat) (listener : Listener κ) (message : String) :
    Hears quiet channel board
      (fun number => if listener.number = number then [message] else [])
      (board.hand call listener message) where
  channels := rfl
  joined := ⟨[], (List.append_nil _).symm, by simp⟩
  heard := by
    intro number
    rw [events_hand, received_append]
    by_cases here : listener.number = number <;> simp [received, Event.toldTo?, here]

end Hears

/-- Reactions that do not publish tell nobody anything. -/
theorem perform_hears {quiet : κ → Prop} {nested : Board κ → String → Board κ} {channel : Nat}
    {source : Telling} (acts : List (Act κ)) :
    ∀ board : Board κ, channel < board.channels.size →
      (∀ text, .publish text ∉ acts) → (∀ other, .subscribe other ∈ acts → quiet other) →
      Hears quiet channel board (fun _ => []) (perform nested channel source board acts).1 := by
  induction acts with
  | nil => exact fun board _ _ _ => .refl
  | cons act acts ih =>
      intro board isOpen silent closed
      have silentLater : ∀ text, .publish text ∉ acts :=
        fun text member => silent text (List.mem_cons_of_mem act member)
      have closedLater : ∀ other, .subscribe other ∈ acts → quiet other :=
        fun other member => closed other (List.mem_cons_of_mem act member)
      cases act with
      | subscribe kind =>
          have joins : Hears quiet channel board (fun _ => [])
              (board.subscribe channel kind (some source)) :=
            .subscribe isOpen (closed kind List.mem_cons_self) (some source)
          exact joins.trans (ih _ (joins.channels ▸ isOpen) silentLater closedLater)
      | publish message => exact absurd List.mem_cons_self (silent message)
      | noteCount =>
          have notes : Hears quiet channel board (fun _ => [])
              (board.note (.counted source channel (board.count channel))) :=
            .note fun _ => rfl
          exact notes.trans (ih _ isOpen silentLater closedLater)
      | panic => exact .refl

variable [Audience κ] {quiet : κ → Prop} {channel : Nat}

/-- Telling a quiet listener tells nobody else, even if the listener panics. -/
theorem tell_hears {nested : Telling → Board κ → String → Board κ} {call : Nat}
    {board : Board κ} {listener : Listener κ} (quiets : Quiet quiet)
    (isOpen : channel < board.channels.size) (isQuiet : quiet listener.kind)
    (message : String) :
    Hears quiet channel board (fun number => if listener.number = number then [message] else [])
      (tell nested channel call message board listener) := by
  have handed : Hears quiet channel board _ (board.hand call listener message) :=
    .hand call listener message
  have reacted : Hears quiet channel (board.hand call listener message) (fun _ => [])
      (perform (nested ⟨call, listener.number⟩) channel ⟨call, listener.number⟩
        (board.hand call listener message)
        (Audience.react listener.kind (board.told.getD listener.number 0) message)).1 :=
    perform_hears _ _ (handed.channels ▸ isOpen) (quiets.silent _ isQuiet _ _)
      (quiets.closed _ isQuiet _ _)
  have told := (handed.trans reacted).congr fun number => List.append_nil _
  rw [tell]
  generalize perform _ _ _ _ _ = performed at told ⊢
  obtain ⟨after, hasPanicked⟩ := performed
  cases hasPanicked with
  | false => exact told
  | true => exact (told.trans (.note fun _ => rfl)).congr fun number => List.append_nil _

/-- Telling different quiet listeners one after the other. -/
theorem foldl_tell_hears {nested : Telling → Board κ → String → Board κ} {call : Nat}
    (quiets : Quiet quiet) (message : String) (audience : List (Listener κ)) :
    ∀ board : Board κ, channel < board.channels.size →
      (∀ listener ∈ audience, quiet listener.kind) →
      (audience.map Listener.number).Nodup →
      Hears quiet channel board
        (fun number => if number ∈ audience.map Listener.number then [message] else [])
        (audience.foldl (tell nested channel call message) board) := by
  induction audience with
  | nil => exact fun board _ _ _ => .refl
  | cons listener audience ih =>
      intro board isOpen areQuiet nodup
      obtain ⟨notAmong, nodup⟩ := List.nodup_cons.mp nodup
      have told : Hears quiet channel board _
          (tell nested channel call message board listener) :=
        tell_hears quiets isOpen (areQuiet listener List.mem_cons_self) message
      have others := ih _ (told.channels ▸ isOpen)
        (fun other member => areQuiet other (List.mem_cons_of_mem listener member)) nodup
      apply (told.trans others).congr
      intro number
      by_cases here : listener.number = number
      · rw [← here, if_pos rfl, if_neg notAmong, List.map_cons, if_pos List.mem_cons_self,
          List.append_nil]
      · simp [here, Ne.symm here]

/-- A call on a channel with quiet listeners, which never come to publish. -/
theorem call_hears (nested : Telling → Board κ → String → Board κ) (quiets : Quiet quiet)
    {board : Board κ} (consistent : board.Consistent) (isOpen : channel < board.channels.size)
    (areQuiet : ∀ listener ∈ (board.listeners channel).toList, quiet listener.kind)
    (message : String) :
    Hears quiet channel board
      (fun number =>
        if number ∈ (board.listeners channel).toList.map Listener.number then [message] else [])
      (((board.listeners channel).foldl (tell nested channel board.calls message)
        (board.begin channel none message)).note (.returned board.calls)) := by
  have begins : Hears quiet channel board (fun _ => []) (board.begin channel none message) := by
    refine ⟨rfl, ⟨[], (List.append_nil _).symm, by simp⟩, ?_⟩
    intro number
    rw [events_begin, received_append]
    rfl
  have told : Hears quiet channel (board.begin channel none message) _
      ((board.listeners channel).toList.foldl (tell nested channel board.calls message)
        (board.begin channel none message)) :=
    foldl_tell_hears quiets message _ _ isOpen areQuiet (consistent.nodup channel)
  rw [← Array.foldl_toList]
  apply ((begins.trans told).trans (.note fun _ => rfl)).congr
  intro number
  rw [List.nil_append, List.append_nil]

/-- Publishing a message of the host's on a channel with quiet listeners. -/
theorem publish_hears (quiets : Quiet quiet) {board : Board κ} (consistent : board.Consistent)
    (isOpen : channel < board.channels.size)
    (areQuiet : ∀ listener ∈ (board.listeners channel).toList, quiet listener.kind)
    (message : String) :
    Hears quiet channel board
      (fun number =>
        if number ∈ (board.listeners channel).toList.map Listener.number then [message] else [])
      (board.publish channel message) := by
  rw [publish]
  cases Audience.depth κ <;> exact call_hears _ quiets consistent isOpen areQuiet message

/-- Publishing messages of the host's on a channel with quiet listeners: each of
the listeners is told all of them, in order, and they stay, in front of others
that are quiet too. -/
theorem publishAll_hears (quiets : Quiet quiet) (messages : List String) :
    ∀ board : Board κ, board.Ready channel none 0 →
      (∀ listener ∈ (board.listeners channel).toList, quiet listener.kind) →
      (∃ more, ((board.publishAll channel messages).listeners channel).toList =
          (board.listeners channel).toList ++ more ∧
        ∀ listener ∈ more, quiet listener.kind) ∧
      ∀ listener ∈ (board.listeners channel).toList,
        received listener.number (board.publishAll channel messages).events =
          received listener.number board.events ++ messages := by
  induction messages with
  | nil =>
      intro board _ _
      exact ⟨⟨[], (List.append_nil _).symm, by simp⟩, fun _ _ => (List.append_nil _).symm⟩
  | cons message messages ih =>
      intro board ready areQuiet
      have hears := publish_hears quiets ready.consistent ready.isOpen areQuiet message
      obtain ⟨more, joined, moreQuiet⟩ := hears.joined
      obtain ⟨⟨later, joinedLater, laterQuiet⟩, heardLater⟩ := ih (board.publish channel message)
        (publishAll_ready [message] board ready).1 (hears.quiet_listeners areQuiet)
      refine ⟨⟨more ++ later, ?_, ?_⟩, ?_⟩
      · rw [← List.append_assoc, ← joined]
        exact joinedLater
      · intro listener member
        rcases List.mem_append.mp member with member | member
        · exact moreQuiet listener member
        · exact laterQuiet listener member
      · intro listener member
        have stays : listener ∈ ((board.publish channel message).listeners channel).toList := by
          rw [joined]
          exact List.mem_append_left _ member
        have heard := heardLater listener stays
        rw [hears.heard, if_pos (List.mem_map_of_mem member), List.append_assoc] at heard
        exact heard

end Board

end LuaSession
