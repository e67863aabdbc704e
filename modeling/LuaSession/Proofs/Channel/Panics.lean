import LuaSession.Proofs.Channel.Quiet

/-!
# Listeners that panic afterwards

Listeners of some kinds do what listeners of other kinds do, and then may panic. A
board with the first mirrors a board with the second: it has the same channels, has
told the same messages, and but for panics the same has happened on both. Whatever a
host does with both keeps that.
-/

namespace LuaSession

variable {φ κ : Type}

/-- A listener as one of another kind. -/
def Listener.map (plain : φ → κ) (listener : Listener φ) : Listener κ :=
  ⟨listener.number, plain listener.kind⟩

/-- An act, with the listener that it may register as one of another kind. -/
def Act.map (plain : φ → κ) : Act φ → Act κ
  | .subscribe kind => .subscribe (plain kind)
  | .publish message => .publish message
  | .noteCount => .noteCount
  | .panic => .panic

/-- An event, with its listener as one of another kind. -/
def Event.map (plain : φ → κ) : Event φ → Event κ
  | .subscribed source channel listener => .subscribed source channel (listener.map plain)
  | .started source call channel message => .started source call channel message
  | .told call listener message => .told call (listener.map plain) message
  | .counted source channel count => .counted source channel count
  | .panicked source => .panicked source
  | .refused source message => .refused source message
  | .returned call => .returned call

/-- Is the event a panic? -/
def Event.isPanic : Event κ → Bool
  | .panicked _ => true
  | _ => false

/-- What happened, but for panics. -/
def unpanicked (events : List (Event κ)) : List (Event κ) :=
  events.filter fun event => !event.isPanic

@[simp] theorem unpanicked_append (front back : List (Event κ)) :
    unpanicked (front ++ back) = unpanicked front ++ unpanicked back :=
  List.filter_append front back

theorem unpanicked_panicked (source : Telling) :
    unpanicked [(.panicked source : Event κ)] = [] := rfl

@[simp] theorem Event.isPanic_map (plain : φ → κ) (event : Event φ) :
    (event.map plain).isPanic = event.isPanic := by
  cases event <;> rfl

@[simp] theorem Event.entry?_map (plain : φ → κ) (event : Event φ) :
    Event.entry? (event.map plain) = event.entry? := by
  cases event <;> rfl

@[simp] theorem Event.toldTo?_map (plain : φ → κ) (event : Event φ) (number : Nat) :
    (event.map plain).toldTo? number = event.toldTo? number := by
  cases event <;> rfl

/-- What is read off the events, but not off the panics, is read off the others. -/
theorem filterMap_unpanicked {α : Type} {view : Event κ → Option α}
    (blind : ∀ source, view (.panicked source) = none) (events : List (Event κ)) :
    (unpanicked events).filterMap view = events.filterMap view := by
  induction events with
  | nil => rfl
  | cons event events ih =>
      cases event with
      | panicked source =>
          rw [List.filterMap_cons, blind]
          exact ih
      | _ =>
          change (_ :: unpanicked events).filterMap view = _
          rw [List.filterMap_cons, List.filterMap_cons, ih]

/-- Some acts are others, with a panic after them perhaps. -/
def MayPanicAfter (plain : φ → κ) (acts : List (Act φ)) (others : List (Act κ)) : Prop :=
  acts.map (Act.map plain) = others ∨ acts.map (Act.map plain) = others ++ [.panic]

/-- Listeners do what the plain ones do and then may panic, each on any of its
messages. -/
structure Fragile [Audience φ] [Audience κ] (plain : φ → κ) : Prop where
  depth : Audience.depth φ = Audience.depth κ
  react : ∀ kind before message, MayPanicAfter plain (Audience.react kind before message)
    (Audience.react (plain kind) before message)

namespace Board

/-- A board with fragile listeners and one with plain ones on which the same has
happened, but for panics. -/
structure Mirrors (plain : φ → κ) (board : Board φ) (other : Board κ) : Prop where
  channels : other.channels = board.channels.map (·.map (Listener.map plain))
  told : other.told = board.told
  calls : other.calls = board.calls
  events : unpanicked other.events = (unpanicked board.events).map (Event.map plain)

namespace Mirrors

variable {plain : φ → κ} {board : Board φ} {other : Board κ} {channel : Nat}

theorem empty (plain : φ → κ) : Mirrors plain {} {} where
  channels := by simp
  told := rfl
  calls := rfl
  events := rfl

variable (mirrors : Mirrors plain board other)

include mirrors

theorem listeners (channel : Nat) :
    other.listeners channel = (board.listeners channel).map (Listener.map plain) := by
  rw [Board.listeners, Board.listeners, mirrors.channels, Array.getD_eq_getD_getElem?,
    Array.getD_eq_getD_getElem?, Array.getElem?_map]
  cases board.channels[channel]? <;> simp

theorem count (channel : Nat) : other.count channel = board.count channel := by
  rw [Board.count, Board.count, mirrors.listeners, Array.size_map]

/-- The same was told to everybody, and the same counts were noted. -/
theorem log : other.log.toList = board.log.toList := by
  have noEntry {κ : Type} (source : Telling) : Event.entry? (.panicked source : Event κ) = none :=
    rfl
  change (other.record.filterMap Event.entry?).toList = (board.record.filterMap Event.entry?).toList
  rw [Array.toList_filterMap, Array.toList_filterMap, ← Board.events, ← Board.events,
    ← filterMap_unpanicked noEntry other.events, ← filterMap_unpanicked noEntry board.events,
    mirrors.events, List.filterMap_map]
  congr
  funext event
  exact event.entry?_map plain

/-- Every listener was told the same messages in the same order. -/
theorem received (number : Nat) :
    received number other.events = received number board.events := by
  have notTold {κ : Type} (source : Telling) :
      (Event.panicked source : Event κ).toldTo? number = none := rfl
  rw [LuaSession.received, LuaSession.received, ← filterMap_unpanicked notTold other.events,
    ← filterMap_unpanicked notTold board.events, mirrors.events, List.filterMap_map]
  congr
  funext event
  exact event.toldTo?_map plain number

theorem note (event : Event φ) : Mirrors plain (board.note event) (other.note (event.map plain)) where
  channels := mirrors.channels
  told := mirrors.told
  calls := mirrors.calls
  events := by
    rw [events_note, events_note, unpanicked_append, unpanicked_append, mirrors.events,
      List.map_append]
    congr
    cases event <;> rfl

/-- A panic on either board changes nothing else. -/
theorem note_panicked (source : Telling) :
    Mirrors plain (board.note (.panicked source)) other ∧
      Mirrors plain board (other.note (.panicked source)) := by
  refine ⟨⟨mirrors.channels, mirrors.told, mirrors.calls, ?_⟩,
    ⟨mirrors.channels, mirrors.told, mirrors.calls, ?_⟩⟩
  · rw [events_note, unpanicked_append, unpanicked_panicked, List.append_nil, mirrors.events]
  · rw [events_note, unpanicked_append, unpanicked_panicked, List.append_nil, mirrors.events]

theorem openChannel : Mirrors plain board.openChannel other.openChannel where
  channels := by simp [Board.openChannel, mirrors.channels]
  told := mirrors.told
  calls := mirrors.calls
  events := mirrors.events

theorem skipNumber : Mirrors plain board.skipNumber other.skipNumber where
  channels := mirrors.channels
  told := by simp [Board.skipNumber, mirrors.told]
  calls := mirrors.calls
  events := mirrors.events

theorem subscribe (channel : Nat) (kind : φ) (source : Option Telling) :
    Mirrors plain (board.subscribe channel kind source)
      (other.subscribe channel (plain kind) source) := by
  have joined : Mirrors plain
      { board with
        channels := board.channels.modify channel (·.push ⟨board.told.size, kind⟩)
        told := board.told.push 0 }
      { other with
        channels := other.channels.modify channel (·.push ⟨board.told.size, plain kind⟩)
        told := board.told.push 0 } := by
    refine ⟨Array.ext_getElem? fun place => ?_, rfl, mirrors.calls, mirrors.events⟩
    simp only [mirrors.channels, Array.getElem?_modify, Array.getElem?_map]
    split
    · cases board.channels[place]? <;> simp [Listener.map]
    · rfl
  rw [Board.subscribe, Board.subscribe, mirrors.told]
  exact joined.note (.subscribed source channel ⟨board.told.size, kind⟩)

theorem hand (call : Nat) (listener : Listener φ) (message : String) :
    Mirrors plain (board.hand call listener message)
      (other.hand call (listener.map plain) message) := by
  have counted : Mirrors plain
      { board with told := board.told.modify listener.number (· + 1) }
      { other with told := board.told.modify listener.number (· + 1) } :=
    ⟨mirrors.channels, rfl, mirrors.calls, mirrors.events⟩
  rw [Board.hand, Board.hand, mirrors.told]
  exact counted.note (.told call listener message)

theorem «begin» (channel : Nat) (source : Option Telling) (message : String) :
    Mirrors plain (board.begin channel source message) (other.begin channel source message) := by
  have counted : Mirrors plain { board with calls := board.calls + 1 }
      { other with calls := board.calls + 1 } :=
    ⟨mirrors.channels, mirrors.told, rfl, mirrors.events⟩
  rw [Board.begin, Board.begin, mirrors.calls]
  exact counted.note (.started source board.calls channel message)

end Mirrors

variable {plain : φ → κ} {channel : Nat}

/-- Performing acts with or without a panic after them. -/
theorem perform_mirrors (channel : Nat) {nested : Board φ → String → Board φ}
    {nested' : Board κ → String → Board κ}
    (inner : ∀ board other message, Mirrors plain board other →
      Mirrors plain (nested board message) (nested' other message)) (source : Telling)
    (acts : List (Act φ)) : ∀ (others : List (Act κ)) (board : Board φ) (other : Board κ),
      MayPanicAfter plain acts others → Mirrors plain board other →
      Mirrors plain (perform nested channel source board acts).1
        (perform nested' channel source other others).1 := by
  induction acts with
  | nil =>
      intro others board other follows mirrors
      obtain rfl | impossible := follows
      · exact mirrors
      · simp at impossible
  | cons act acts ih =>
      intro others board other follows mirrors
      obtain ⟨rfl, rfl, rfl⟩ | ⟨rest, rfl, later⟩ : (act = .panic ∧ acts = [] ∧ others = []) ∨
          ∃ rest, others = act.map plain :: rest ∧ MayPanicAfter plain acts rest := by
        obtain same | followed := follows
        · exact .inr ⟨_, same.symm, .inl rfl⟩
        · cases others with
          | nil =>
              left
              cases act <;> simp_all [Act.map]
          | cons first rest =>
              obtain ⟨same, later⟩ := List.cons.inj followed
              exact .inr ⟨rest, by rw [same], .inr later⟩
      · exact mirrors
      · cases act with
        | subscribe kind => exact ih rest _ _ later (mirrors.subscribe channel kind _)
        | publish message => exact ih rest _ _ later (inner board other message mirrors)
        | noteCount =>
            refine ih rest _ _ later ?_
            rw [mirrors.count]
            exact mirrors.note (.counted source channel (board.count channel))
        | panic => exact mirrors

variable [Audience φ] [Audience κ] (fragile : Fragile plain)

include fragile

/-- Telling a fragile listener and a plain one. -/
theorem tell_mirrors {nested : Telling → Board φ → String → Board φ}
    {nested' : Telling → Board κ → String → Board κ}
    (inner : ∀ source board other message, Mirrors plain board other →
      Mirrors plain (nested source board message) (nested' source other message))
    {board : Board φ} {other : Board κ} (mirrors : Mirrors plain board other) (call : Nat)
    (message : String) (listener : Listener φ) :
    Mirrors plain (tell nested channel call message board listener)
      (tell nested' channel call message other (listener.map plain)) := by
  have performed := perform_mirrors channel (inner ⟨call, listener.number⟩)
    ⟨call, listener.number⟩ _ _ _ _
    (fragile.react listener.kind (board.told.getD listener.number 0) message)
    (mirrors.hand call listener message)
  simp only [tell, mirrors.told, Listener.map] at performed ⊢
  generalize perform (nested _) _ _ _ _ = after at performed ⊢
  generalize perform (nested' _) _ _ _ _ = after' at performed ⊢
  obtain ⟨board, _ | _⟩ := after
  · obtain ⟨other, _ | _⟩ := after'
    · exact performed
    · exact (performed.note_panicked _).2
  · obtain ⟨other, _ | _⟩ := after'
    · exact (performed.note_panicked _).1
    · exact performed.note (.panicked ⟨call, listener.number⟩)

/-- Telling all of several listeners. -/
theorem foldl_tell_mirrors {nested : Telling → Board φ → String → Board φ}
    {nested' : Telling → Board κ → String → Board κ}
    (inner : ∀ source board other message, Mirrors plain board other →
      Mirrors plain (nested source board message) (nested' source other message))
    (call : Nat) (message : String) (listeners : List (Listener φ)) :
    ∀ (board : Board φ) (other : Board κ), Mirrors plain board other →
      Mirrors plain (listeners.foldl (tell nested channel call message) board)
        ((listeners.map (Listener.map plain)).foldl (tell nested' channel call message) other) := by
  induction listeners with
  | nil => exact fun _ _ mirrors => mirrors
  | cons listener listeners ih =>
      intro board other mirrors
      exact ih _ _ (tell_mirrors fragile inner mirrors call message listener)

/-- A call that publishes a message. -/
theorem publishWithin_mirrors (depth : Nat) :
    ∀ (source : Option Telling) (board : Board φ) (other : Board κ) (message : String),
      Mirrors plain board other →
      Mirrors plain (publishWithin depth channel source board message)
        (publishWithin depth channel source other message) := by
  induction depth with
  | zero =>
      intro source board other message mirrors
      rw [publishWithin, publishWithin, mirrors.calls, mirrors.listeners,
        ← Array.foldl_toList, ← Array.foldl_toList, Array.toList_map]
      refine (foldl_tell_mirrors fragile ?_ _ _ _ _ _
        (mirrors.begin channel source message)).note (.returned board.calls)
      exact fun telling board other message mirrors => mirrors.note (.refused telling message)
  | succ depth ih =>
      intro source board other message mirrors
      rw [publishWithin, publishWithin, mirrors.calls, mirrors.listeners,
        ← Array.foldl_toList, ← Array.foldl_toList, Array.toList_map]
      refine (foldl_tell_mirrors fragile ?_ _ _ _ _ _
        (mirrors.begin channel source message)).note (.returned board.calls)
      exact fun telling board other message mirrors => ih (some telling) board other message mirrors

variable {board : Board φ} {other : Board κ}

theorem publish_mirrors (mirrors : Mirrors plain board other) (message : String) :
    Mirrors plain (board.publish channel message) (other.publish channel message) := by
  rw [publish, publish, fragile.depth]
  exact publishWithin_mirrors fragile _ none board other message mirrors

theorem publishAll_mirrors (mirrors : Mirrors plain board other) (messages : List String) :
    Mirrors plain (board.publishAll channel messages) (other.publishAll channel messages) := by
  induction messages generalizing board other with
  | nil => exact mirrors
  | cons message messages ih => exact ih (publish_mirrors fragile mirrors message)

end Board

end LuaSession
