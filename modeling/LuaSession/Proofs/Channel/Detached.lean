import LuaSession.Channel.Conduct
import LuaSession.Proofs.Channel.Quiet

/-!
# Channels with one detached listener

While a session is being opened, its first listener has no channel to act on: it
records what it is told, and it may panic. Publishing on a channel that has no
other listener tells it every message in order, and changes nothing else.
-/

namespace LuaSession

variable {κ : Type}

/-- A listener that has been told so many messages acts on no channel when it is
told some more. -/
def Detached [Audience κ] (kind : κ) (before : Nat) : List String → Prop
  | [] => True
  | message :: messages =>
      (∀ act ∈ Audience.react kind before message, act = .panic) ∧
        Detached kind (before + 1) messages

/-- The kinds of listeners that are meant to have no channel have none. -/
theorem Conduct.detached_detached (kind : Conduct) (messages : List String) (before : Nat) :
    Detached kind.detached before messages := by
  induction messages generalizing before with
  | nil => exact trivial
  | cons message messages ih =>
      refine ⟨?_, ih (before + 1)⟩
      cases kind with
      | panic once => simp only [Conduct.detached, Audience.react, Conduct.react]; split <;> simp
      | _ => simp [Conduct.detached, Audience.react, Conduct.react]

namespace Board

/-- Nobody that has no number yet has been told anything. -/
theorem Consistent.received_eq_nil {board : Board κ} (consistent : board.Consistent) {number : Nat}
    (unused : board.told.size ≤ number) : received number board.events = [] := by
  have never : timesTold number board.events = 0 := by
    rw [← consistent.told number, Array.getD_eq_getD_getElem?, Array.getElem?_eq_none unused]
    rfl
  rw [timesTold, List.countP_eq_zero] at never
  rw [received, List.filterMap_eq_nil_iff]
  intro event member
  have notTold := never event member
  cases event <;> simp_all [Event.tells, Event.toldTo?]

/-- A listener was told some messages, and nothing else has changed. -/
structure Tells (board : Board κ) (number : Nat) (messages : List String) (after : Board κ) :
    Prop where
  channels : after.channels = board.channels
  size : after.told.size = board.told.size
  told : after.told.getD number 0 = board.told.getD number 0 + messages.length
  heard : ∀ other, received other after.events =
    received other board.events ++ (if other = number then messages else [])

namespace Tells

variable {board between after : Board κ} {number : Nat} {messages later : List String}

theorem refl (board : Board κ) (number : Nat) : board.Tells number [] board where
  channels := rfl
  size := rfl
  told := rfl
  heard := by simp

theorem trans (first : board.Tells number messages between)
    (second : between.Tells number later after) : board.Tells number (messages ++ later) after where
  channels := second.channels.trans first.channels
  size := second.size.trans first.size
  told := by rw [second.told, first.told, List.length_append, Nat.add_assoc]
  heard := by
    intro other
    rw [second.heard, first.heard, List.append_assoc]
    split <;> simp

/-- Noting something that is no telling. -/
theorem note {event : Event κ} (tells : board.Tells number messages after)
    (notTold : ∀ other, event.toldTo? other = none) :
    board.Tells number messages (after.note event) where
  channels := tells.channels
  size := tells.size
  told := tells.told
  heard := by
    intro other
    rw [events_note, received_append, tells.heard]
    simp [received, notTold]

theorem hand (call : Nat) (kind : κ) (isGiven : number < board.told.size) (message : String) :
    board.Tells number [message] (board.hand call ⟨number, kind⟩ message) where
  channels := rfl
  size := by simp [Board.hand, Board.note]
  told := by simp [Board.hand, Board.note, Array.getElem_modify, isGiven]
  heard := by
    intro other
    rw [events_hand, received_append]
    by_cases here : number = other
    · simp [received, Event.toldTo?, here]
    · simp [received, Event.toldTo?, here, Ne.symm here]

end Tells

variable {channel number : Nat}

/-- A reaction without a channel to act on changes nothing. -/
theorem perform_detached {nested : Board κ → String → Board κ} {source : Telling}
    {acts : List (Act κ)} (alone : ∀ act ∈ acts, act = .panic) (board : Board κ) :
    (perform nested channel source board acts).1 = board := by
  cases acts with
  | nil => rfl
  | cons act acts =>
      obtain rfl := alone act List.mem_cons_self
      rfl

variable [Audience κ]

theorem tell_detached {nested : Telling → Board κ → String → Board κ} {call : Nat} {kind : κ}
    {board : Board κ} {message : String} (isGiven : number < board.told.size)
    (alone : ∀ act ∈ Audience.react kind (board.told.getD number 0) message, act = .panic) :
    board.Tells number [message] (tell nested channel call message board ⟨number, kind⟩) := by
  have handed : board.Tells number [message] (board.hand call ⟨number, kind⟩ message) :=
    .hand call kind isGiven message
  have unchanged : (perform (nested ⟨call, number⟩) channel ⟨call, number⟩
      (board.hand call ⟨number, kind⟩ message)
      (Audience.react kind (board.told.getD number 0) message)).1 =
        board.hand call ⟨number, kind⟩ message :=
    perform_detached alone _
  rw [tell]
  generalize perform _ _ _ _ _ = performed at unchanged ⊢
  obtain ⟨after, hasPanicked⟩ := performed
  cases unchanged
  cases hasPanicked with
  | false => exact handed
  | true => exact handed.note fun _ => rfl

/-- A call on a channel with one detached listener. -/
theorem call_detached (nested : Telling → Board κ → String → Board κ) {kind : κ} {board : Board κ}
    {message : String} (only : board.listeners channel = #[⟨number, kind⟩])
    (isGiven : number < board.told.size)
    (alone : ∀ act ∈ Audience.react kind (board.told.getD number 0) message, act = .panic) :
    board.Tells number [message]
      (((board.listeners channel).foldl (tell nested channel board.calls message)
        (board.begin channel none message)).note (.returned board.calls)) := by
  have begins : board.Tells number [] (board.begin channel none message) := by
    refine ⟨rfl, rfl, rfl, fun other => ?_⟩
    rw [events_begin, received_append]
    simp [received, Event.toldTo?]
  have tells : (board.begin channel none message).Tells number [message]
      (tell nested channel board.calls message (board.begin channel none message)
        ⟨number, kind⟩) :=
    tell_detached isGiven alone
  rw [only, ← Array.foldl_toList]
  exact (begins.trans tells).note fun _ => rfl

/-- Publishing a message of the host's to one detached listener. -/
theorem publish_detached {kind : κ} {board : Board κ} {message : String}
    (only : board.listeners channel = #[⟨number, kind⟩]) (isGiven : number < board.told.size)
    (alone : ∀ act ∈ Audience.react kind (board.told.getD number 0) message, act = .panic) :
    board.Tells number [message] (board.publish channel message) := by
  rw [publish]
  cases Audience.depth κ <;> exact call_detached _ only isGiven alone

/-- Publishing messages of the host's to one detached listener: it is told all of
them, in order. -/
theorem publishAll_detached {kind : κ} (messages : List String) :
    ∀ board : Board κ, board.listeners channel = #[⟨number, kind⟩] →
      number < board.told.size → Detached kind (board.told.getD number 0) messages →
      board.Tells number messages (board.publishAll channel messages) := by
  induction messages with
  | nil => exact fun board _ _ _ => .refl board number
  | cons message messages ih =>
      intro board only isGiven detached
      have told := publish_detached only isGiven detached.1
      refine told.trans (ih (board.publish channel message) ?_ (told.size ▸ isGiven) ?_)
      · rw [listeners, told.channels]
        exact only
      · rw [told.told]
        exact detached.2

end Board

end LuaSession
