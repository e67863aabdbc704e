import LuaSession.Proofs.Channel.Record

/-!
# Consistent boards

The state of a consistent board is what its record says: who is registered on a
channel, how often each listener was told something, and which calls have begun.
Everything that is done to a board keeps it consistent.
-/

namespace LuaSession

variable {κ : Type}

/-- An event that changes nothing but the record. -/
def Event.IsRemark : Event κ → Prop
  | .counted _ _ _ => True
  | .panicked _ => True
  | .refused _ _ => True
  | .returned _ => True
  | _ => False

/-- The registered listeners of a channel are among all subscribers. -/
theorem registered_sublist (channel : Nat) (events : List (Event κ)) :
    (registered channel events).Sublist (subscribers events) := by
  induction events with
  | nil => exact List.Sublist.refl _
  | cons event events ih =>
      cases event with
      | subscribed source place listener =>
          by_cases here : place = channel
          · simpa [registered, subscribers, List.filterMap_cons, Event.subscriberOf?,
              Event.subscriber?, here] using ih
          · simpa [registered, subscribers, List.filterMap_cons, Event.subscriberOf?,
              Event.subscriber?, here] using ih.cons listener
      | _ => exact ih

namespace Board

/-- What happened on a board, in order. -/
def events (board : Board κ) : List (Event κ) := board.record.toList

@[simp] theorem events_note (board : Board κ) (event : Event κ) :
    (board.note event).events = board.events ++ [event] := by
  simp [events, note]

@[simp] theorem events_subscribe (board : Board κ) (channel : Nat) (kind : κ)
    (source : Option Telling) :
    (board.subscribe channel kind source).events =
      board.events ++ [.subscribed source channel ⟨board.told.size, kind⟩] :=
  events_note _ _

@[simp] theorem events_hand (board : Board κ) (call : Nat) (listener : Listener κ)
    (message : String) :
    (board.hand call listener message).events = board.events ++ [.told call listener message] :=
  events_note _ _

@[simp] theorem events_begin (board : Board κ) (channel : Nat) (source : Option Telling)
    (message : String) :
    (board.begin channel source message).events =
      board.events ++ [.started source board.calls channel message] :=
  events_note _ _

/-- The state of a board is what its record says. -/
structure Consistent (board : Board κ) : Prop where
  registered : ∀ channel, (board.listeners channel).toList = registered channel board.events
  ordered : ((subscribers board.events).map Listener.number).Pairwise (· < ·)
  given : ∀ listener ∈ subscribers board.events, listener.number < board.told.size
  told : ∀ number, board.told.getD number 0 = timesTold number board.events
  called : LuaSession.calls board.events = List.range board.calls
  tellingBegun : ∀ call listener message,
    .told call listener message ∈ board.events → call < board.calls
  actingBegun : ∀ event ∈ board.events, ∀ telling,
    event.source? = some telling → telling.call < board.calls

/-- A board where nothing happened yet is consistent. -/
theorem consistent_empty : ({} : Board κ).Consistent := by
  constructor <;> simp [events, listeners, subscribers, timesTold, LuaSession.calls]

namespace Consistent

variable {board : Board κ}

/-- The listeners of a channel have different numbers. -/
theorem nodup (consistent : board.Consistent) (channel : Nat) :
    ((board.listeners channel).toList.map Listener.number).Nodup := by
  rw [consistent.registered channel]
  have distinct : ((subscribers board.events).map Listener.number).Nodup :=
    consistent.ordered.imp Nat.ne_of_lt
  exact distinct.sublist ((registered_sublist channel board.events).map Listener.number)

/-- The listeners of a channel have numbers that were given out. -/
theorem number_lt (consistent : board.Consistent) {channel : Nat} {listener : Listener κ}
    (member : listener ∈ (board.listeners channel).toList) :
    listener.number < board.told.size := by
  rw [consistent.registered channel] at member
  exact consistent.given listener ((registered_sublist channel board.events).subset member)

theorem runsOn_lt (consistent : board.Consistent) {call channel : Nat}
    (runsOn : RunsOn board.events call channel) : call < board.calls := by
  have begun := runsOn.mem_calls
  rw [consistent.called] at begun
  exact List.mem_range.mp begun

/-- No telling of the next call has happened yet. -/
theorem idle (consistent : board.Consistent) (number : Nat) :
    deeds (some ⟨board.calls, number⟩) board.events = [] := by
  apply deeds_eq_nil
  intro event member _ same
  exact Nat.lt_irrefl _ (consistent.actingBegun event member _ same)

theorem openChannel (consistent : board.Consistent) : board.openChannel.Consistent := by
  obtain ⟨registered, ordered, given, told, called, tellingBegun, actingBegun⟩ := consistent
  refine ⟨?_, ordered, given, told, called, tellingBegun, actingBegun⟩
  intro channel
  rw [show board.openChannel.events = board.events from rfl, ← registered channel]
  simp only [listeners, Board.openChannel, Array.getD_eq_getD_getElem?, Array.getElem?_push]
  split
  next new => simp [new]
  next old => rfl

theorem skipNumber (consistent : board.Consistent) : board.skipNumber.Consistent := by
  obtain ⟨registered, ordered, given, told, called, tellingBegun, actingBegun⟩ := consistent
  refine ⟨registered, ordered, ?_, ?_, called, tellingBegun, actingBegun⟩
  · intro listener member
    rw [Board.skipNumber, Array.size_push]
    exact Nat.lt_succ_of_lt (given listener member)
  · intro number
    rw [show board.skipNumber.events = board.events from rfl, ← told number]
    simp only [Board.skipNumber, Array.getD_eq_getD_getElem?, Array.getElem?_push]
    split
    next new => simp [new]
    next old => rfl

/-- A board stays consistent when its state follows one more event. -/
theorem concat (consistent : board.Consistent) {grown : Board κ} {event : Event κ}
    (recorded : grown.events = board.events ++ [event])
    (registered : ∀ channel, (grown.listeners channel).toList =
      (board.listeners channel).toList ++ LuaSession.registered channel [event])
    (numbers : board.told.size ≤ grown.told.size)
    (fresh : ∀ listener, event.subscriber? = some listener →
      listener.number = board.told.size ∧ board.told.size < grown.told.size)
    (told : ∀ number, grown.told.getD number 0 =
      board.told.getD number 0 + timesTold number [event])
    (called : List.range grown.calls = List.range board.calls ++ LuaSession.calls [event])
    (tellingBegun : ∀ call listener message,
      event = .told call listener message → call < board.calls)
    (actingBegun : ∀ telling, event.source? = some telling → telling.call < board.calls) :
    grown.Consistent := by
  have later : board.calls ≤ grown.calls := by
    have lengths := congrArg List.length called
    simp only [List.length_append, List.length_range] at lengths
    omega
  constructor
  · intro channel
    rw [registered, consistent.registered, recorded, registered_append]
  · rw [recorded, subscribers_append, List.map_append, List.pairwise_append]
    refine ⟨consistent.ordered, ?_, ?_⟩
    · cases subscriber : event.subscriber? <;> simp [subscribers, subscriber]
    · intro old isOld new isNew
      obtain ⟨earlier, known, rfl⟩ := List.mem_map.mp isOld
      obtain ⟨listener, added, rfl⟩ := List.mem_map.mp isNew
      obtain ⟨_, single, subscriber⟩ := List.mem_filterMap.mp added
      rw [List.mem_singleton.mp single] at subscriber
      rw [(fresh listener subscriber).1]
      exact consistent.given earlier known
  · intro listener member
    rw [recorded, subscribers_append] at member
    rcases List.mem_append.mp member with old | new
    · exact Nat.lt_of_lt_of_le (consistent.given listener old) numbers
    · obtain ⟨_, single, subscriber⟩ := List.mem_filterMap.mp new
      rw [List.mem_singleton.mp single] at subscriber
      rw [(fresh listener subscriber).1]
      exact (fresh listener subscriber).2
  · intro number
    rw [told, consistent.told, recorded, timesTold_append]
  · rw [called, recorded, calls_append, consistent.called]
  · intro call listener message member
    rw [recorded] at member
    rcases List.mem_append.mp member with old | new
    · exact Nat.lt_of_lt_of_le (consistent.tellingBegun call listener message old) later
    · exact Nat.lt_of_lt_of_le
        (tellingBegun call listener message (List.mem_singleton.mp new).symm) later
  · intro other member telling source
    rw [recorded] at member
    rcases List.mem_append.mp member with old | new
    · exact Nat.lt_of_lt_of_le (consistent.actingBegun other old telling source) later
    · rw [List.mem_singleton.mp new] at source
      exact Nat.lt_of_lt_of_le (actingBegun telling source) later

theorem note (consistent : board.Consistent) {event : Event κ} (isRemark : event.IsRemark)
    (begun : ∀ telling, event.source? = some telling → telling.call < board.calls) :
    (board.note event).Consistent := by
  apply consistent.concat (events_note board event)
  case actingBegun => exact begun
  all_goals
    cases event <;>
      simp_all [Event.IsRemark, Board.note, listeners, LuaSession.registered, LuaSession.calls,
        timesTold, Event.subscriberOf?, Event.subscriber?, Event.begun?,
        Event.tells]

theorem subscribe (consistent : board.Consistent) {channel : Nat}
    (isOpen : channel < board.channels.size) (kind : κ) {source : Option Telling}
    (begun : ∀ telling, source = some telling → telling.call < board.calls) :
    (board.subscribe channel kind source).Consistent := by
  apply consistent.concat (events_subscribe board channel kind source)
  case actingBegun => exact begun
  case registered =>
    intro other
    by_cases here : channel = other
    · subst here
      simp [Board.subscribe, Board.note, listeners, LuaSession.registered, Event.subscriberOf?,
        Array.getElem_modify, isOpen]
    · simp [Board.subscribe, Board.note, listeners, LuaSession.registered, Event.subscriberOf?,
        Array.getElem?_modify, here]
  case numbers => simp [Board.subscribe, Board.note]
  case fresh =>
    intro listener same
    cases same
    simp [Board.subscribe, Board.note]
  case told =>
    intro number
    simp only [Board.subscribe, Board.note, Array.getD_eq_getD_getElem?, Array.getElem?_push]
    split
    next new => simp [new, timesTold, Event.tells]
    next old => simp [timesTold, Event.tells]
  case called => simp [Board.subscribe, Board.note, LuaSession.calls, Event.begun?]
  case tellingBegun => simp

theorem hand (consistent : board.Consistent) {call : Nat} {listener : Listener κ}
    (begun : call < board.calls) (known : listener.number < board.told.size)
    (message : String) : (board.hand call listener message).Consistent := by
  apply consistent.concat (events_hand board call listener message)
  case registered =>
    simp [Board.hand, Board.note, listeners, LuaSession.registered, Event.subscriberOf?]
  case numbers => simp [Board.hand, Board.note]
  case fresh => simp [Event.subscriber?]
  case told =>
    intro number
    by_cases here : listener.number = number
    · subst here
      simp [Board.hand, Board.note, timesTold, Event.tells, Array.getElem_modify, known]
    · simp [Board.hand, Board.note, timesTold, Event.tells, Array.getElem?_modify, here]
  case called => simp [Board.hand, Board.note, LuaSession.calls, Event.begun?]
  case tellingBegun =>
    intro number other text same
    cases same
    exact begun
  case actingBegun => simp [Event.source?]

theorem «begin» (consistent : board.Consistent) (channel : Nat) {source : Option Telling}
    (begun : ∀ telling, source = some telling → telling.call < board.calls) (message : String) :
    (board.begin channel source message).Consistent := by
  apply consistent.concat (events_begin board channel source message)
  case registered =>
    simp [Board.begin, Board.note, listeners, LuaSession.registered, Event.subscriberOf?]
  case numbers => simp [Board.begin, Board.note]
  case fresh => simp [Event.subscriber?]
  case told => simp [Board.begin, Board.note, timesTold, Event.tells]
  case called =>
    simp [Board.begin, Board.note, LuaSession.calls, Event.begun?, List.range_succ]
  case tellingBegun => simp
  case actingBegun => exact begun

end Consistent

end Board

end LuaSession
