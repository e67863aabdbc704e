import LuaSession.Proofs.Channel.Quiet
import Mathlib.Data.List.Nodup
import Mathlib.Logic.Relation

/-!
# Channels apart

Publishing on a channel is a chain of small moves on that channel. Such a move leaves what was
told on every other channel alone, and it goes by what was told on its own channel only. So two
boards on each of which a channel has heard the same go alike, whatever their other channels
have heard. Listeners are known by their places on the channel.
-/

namespace LuaSession

variable {κ : Type}

/-- To which of some listeners an event tells something, and what. -/
def Event.heardAt? (numbers : List Nat) : Event κ → Option (Nat × String)
  | .told _ listener message => (numbers.idxOf? listener.number).map (·, message)
  | _ => none

/-- A listener is registered on one channel only. -/
theorem number_ne_of_registered {events : List (Event κ)} {channel other : Nat}
    (apart : other ≠ channel) (distinct : ((subscribers events).map Listener.number).Nodup)
    {listener stranger : Listener κ} (isListener : listener ∈ registered channel events)
    (isStranger : stranger ∈ registered other events) : listener.number ≠ stranger.number := by
  induction events with
  | nil => cases isListener
  | cons event events ih =>
      cases event with
      | subscribed source place joined =>
          obtain ⟨new, distinct⟩ := List.nodup_cons.mp distinct
          have later {known : Listener κ} {place : Nat} (isKnown : known ∈ registered place events) :
              joined.number ≠ known.number := by
            intro same
            have isSubscriber := (registered_sublist place events).subset isKnown
            exact new (same ▸ List.mem_map_of_mem isSubscriber)
          have first {known : Listener κ} {channel : Nat}
              (isKnown : known ∈ registered channel (.subscribed source place joined :: events)) :
              (place = channel ∧ known = joined) ∨ known ∈ registered channel events := by
            by_cases here : place = channel
            · simpa [registered, List.filterMap_cons, Event.subscriberOf?, here] using isKnown
            · right
              simpa [registered, List.filterMap_cons, Event.subscriberOf?, here] using isKnown
          rcases first isListener with ⟨here, rfl⟩ | isEarlier
          · rcases first isStranger with ⟨there, rfl⟩ | isLater
            · exact absurd (there.symm.trans here) apart
            · exact later isLater
          · rcases first isStranger with ⟨there, rfl⟩ | isLater
            · exact (later isEarlier).symm
            · exact ih distinct isEarlier isLater
      | _ => exact ih distinct isListener isStranger

namespace Board

theorem Consistent.number_ne {board : Board κ} (consistent : board.Consistent) {channel other : Nat}
    (apart : other ≠ channel) {listener stranger : Listener κ}
    (isListener : listener ∈ (board.listeners channel).toList)
    (isStranger : stranger ∈ (board.listeners other).toList) : listener.number ≠ stranger.number := by
  rw [consistent.registered] at isListener isStranger
  exact number_ne_of_registered apart (consistent.ordered.imp Nat.ne_of_lt) isListener isStranger

/-! ## Moves -/

/-- One thing that happens to a board while a message is published on a channel. -/
inductive Move (channel : Nat) : Board κ → Board κ → Prop where
  | note {board : Board κ} {event : Event κ} (isRemark : event.IsRemark)
      (begun : ∀ telling, event.source? = some telling → telling.call < board.calls) :
      Move channel board (board.note event)
  | subscribe {board : Board κ} {source : Option Telling} (kind : κ)
      (begun : ∀ telling, source = some telling → telling.call < board.calls) :
      Move channel board (board.subscribe channel kind source)
  | begin {board : Board κ} {source : Option Telling} (message : String)
      (begun : ∀ telling, source = some telling → telling.call < board.calls) :
      Move channel board (board.begin channel source message)
  | hand {board : Board κ} {call : Nat} {listener : Listener κ} (begun : call < board.calls)
      (registered : listener ∈ (board.listeners channel).toList) (message : String) :
      Move channel board (board.hand call listener message)

/-- Several such moves. -/
abbrev Moves (channel : Nat) : Board κ → Board κ → Prop := Relation.ReflTransGen (Move channel)

variable {channel other : Nat} {board grown : Board κ}

/-- The numbers of the listeners of a channel, in the order of their registration. -/
def numbers (board : Board κ) (channel : Nat) : List Nat :=
  (board.listeners channel).toList.map Listener.number

/-- The kinds of the listeners of a channel. -/
def kinds (board : Board κ) (channel : Nat) : List κ :=
  (board.listeners channel).toList.map Listener.kind

/-- What the listeners of a channel were told, in order, each one known by its place. -/
def tale (board : Board κ) (channel : Nat) : List (Nat × String) :=
  board.events.filterMap (Event.heardAt? (board.numbers channel))

section Listeners

theorem listeners_subscribe (isOpen : channel < board.channels.size) (kind : κ)
    (source : Option Telling) :
    ((board.subscribe channel kind source).listeners channel).toList =
      (board.listeners channel).toList ++ [⟨board.told.size, kind⟩] := by
  simp [Board.subscribe, Board.note, listeners, Array.getElem_modify, isOpen]

theorem listeners_subscribe_of_ne (apart : other ≠ channel) (kind : κ) (source : Option Telling) :
    (board.subscribe channel kind source).listeners other = board.listeners other := by
  simp [Board.subscribe, Board.note, listeners, Array.getElem?_modify, apart.symm]

/-- What does not change on a board when the listeners of a channel and what was told stay. -/
theorem tale_congr (same : grown.listeners other = board.listeners other)
    (told : grown.events.filterMap (Event.heardAt? (board.numbers other)) =
      board.events.filterMap (Event.heardAt? (board.numbers other))) :
    grown.tale other = board.tale other := by
  rw [tale, numbers, same]
  exact told

end Listeners

/-! ## What a move does -/

namespace Move

variable (move : Move channel board grown)

include move

theorem size : grown.channels.size = board.channels.size := by
  cases move with
  | subscribe kind begun => simp [Board.subscribe, Board.note]
  | _ => rfl

theorem calls_le : board.calls ≤ grown.calls := by
  cases move with
  | «begin» message begun => exact Nat.le_succ _
  | _ => exact Nat.le_refl _

theorem consistent (consistent : board.Consistent) (isOpen : channel < board.channels.size) :
    grown.Consistent := by
  cases move with
  | note isRemark begun => exact consistent.note isRemark begun
  | subscribe kind begun => exact consistent.subscribe isOpen kind begun
  | «begin» message begun => exact consistent.begin channel begun message
  | hand begun registered message =>
      exact consistent.hand begun (consistent.number_lt registered) message

/-- Listeners only join. -/
theorem joins : (board.listeners channel).toList <+: (grown.listeners channel).toList := by
  cases move with
  | subscribe kind begun =>
      by_cases isOpen : channel < board.channels.size
      · rw [listeners_subscribe isOpen]
        exact List.prefix_append _ _
      · simp [Board.subscribe, Board.note, listeners, isOpen]
  | _ => exact List.prefix_refl _

/-- Another channel keeps its listeners. -/
theorem listeners_of_ne (apart : other ≠ channel) : grown.listeners other = board.listeners other := by
  cases move with
  | subscribe kind begun => exact listeners_subscribe_of_ne apart kind _
  | _ => rfl

/-- Nothing is told on another channel. -/
theorem tale_of_ne (consistent : board.Consistent) (apart : other ≠ channel) :
    grown.tale other = board.tale other := by
  apply tale_congr (move.listeners_of_ne apart)
  cases move with
  | note isRemark begun =>
      rw [events_note, List.filterMap_append]
      rename_i event
      cases event <;> first | exact isRemark.elim | simp [Event.heardAt?]
  | subscribe kind begun => simp [Event.heardAt?]
  | «begin» message begun => simp [Event.heardAt?]
  | hand begun registered message =>
      rename_i call listener
      have stranger : listener.number ∉ board.numbers other := by
        intro isThere
        obtain ⟨stranger, isStranger, same⟩ := List.mem_map.mp isThere
        exact consistent.number_ne apart registered isStranger same.symm
      simp [Event.heardAt?, List.idxOf?_eq_none_iff.mpr stranger]

end Move

/-! ## What many moves do -/

namespace Moves

variable (moves : Moves channel board grown)

include moves

theorem size : grown.channels.size = board.channels.size := by
  induction moves with
  | refl => rfl
  | tail _ move ih => exact move.size.trans ih

theorem calls_le : board.calls ≤ grown.calls := by
  induction moves with
  | refl => exact Nat.le_refl _
  | tail _ move ih => exact Nat.le_trans ih move.calls_le

theorem joins : (board.listeners channel).toList <+: (grown.listeners channel).toList := by
  induction moves with
  | refl => exact List.prefix_refl _
  | tail _ move ih => exact ih.trans move.joins

theorem consistent (consistent : board.Consistent) (isOpen : channel < board.channels.size) :
    grown.Consistent := by
  induction moves with
  | refl => exact consistent
  | tail before move ih => exact move.consistent ih ((size before).symm ▸ isOpen)

/-- Another channel hears nothing, and its listeners stay. -/
theorem aside (consistent : board.Consistent) (isOpen : channel < board.channels.size)
    (apart : other ≠ channel) :
    grown.listeners other = board.listeners other ∧ grown.tale other = board.tale other := by
  induction moves with
  | refl => exact ⟨rfl, rfl⟩
  | tail before move ih =>
      obtain ⟨sameListeners, sameTale⟩ := ih
      have between := Moves.consistent before consistent isOpen
      exact ⟨(move.listeners_of_ne apart).trans sameListeners,
        (move.tale_of_ne between apart).trans sameTale⟩

end Moves

/-! ## Publishing is a chain of moves -/

section Publishing

variable {nested : Telling → Board κ → String → Board κ}
  (publishes : ∀ (telling : Telling) (board : Board κ) (message : String),
    telling.call < board.calls → Moves channel board (nested telling board message))

include publishes

theorem perform_moves (source : Telling) (acts : List (Act κ)) (begun : source.call < board.calls) :
    Moves channel board (perform (nested source) channel source board acts).1 := by
  have isBegun (board : Board κ) (begun : source.call < board.calls) :
      ∀ telling, some source = some telling → telling.call < board.calls := by
    intro telling same
    cases same
    exact begun
  induction acts generalizing board with
  | nil => exact .refl
  | cons act acts ih =>
      cases act with
      | subscribe kind =>
          have move : Move channel board (board.subscribe channel kind (some source)) :=
            .subscribe kind (isBegun board begun)
          exact .head move (ih (Nat.lt_of_lt_of_le begun move.calls_le))
      | publish message =>
          have moves := publishes source board message begun
          exact moves.trans (ih (Nat.lt_of_lt_of_le begun moves.calls_le))
      | noteCount =>
          have move : Move channel board
              (board.note (.counted source channel (board.count channel))) :=
            .note trivial (isBegun board begun)
          exact .head move (ih (Nat.lt_of_lt_of_le begun move.calls_le))
      | panic => exact .refl

variable [Audience κ]

theorem tell_moves {call : Nat} {listener : Listener κ} (message : String)
    (begun : call < board.calls) (registered : listener ∈ (board.listeners channel).toList) :
    Moves channel board (tell nested channel call message board listener) := by
  have handed : Move channel board (board.hand call listener message) :=
    .hand begun registered message
  have reacted := perform_moves publishes ⟨call, listener.number⟩
    (Audience.react listener.kind (board.told.getD listener.number 0) message)
    (Nat.lt_of_lt_of_le begun handed.calls_le)
  simp only [tell]
  generalize perform _ _ _ _ _ = performed at reacted ⊢
  obtain ⟨after, hasPanicked⟩ := performed
  have moves : Moves channel board after := .head handed reacted
  cases hasPanicked with
  | false => exact moves
  | true =>
      have panicked : Event.IsRemark (.panicked ⟨call, listener.number⟩ : Event κ) := trivial
      refine moves.tail (.note panicked ?_)
      intro telling same
      cases same
      exact Nat.lt_of_lt_of_le begun moves.calls_le

theorem foldl_tell_moves {call : Nat} (message : String) (audience : List (Listener κ))
    (begun : call < board.calls)
    (registered : ∀ listener ∈ audience, listener ∈ (board.listeners channel).toList) :
    Moves channel board (audience.foldl (tell nested channel call message) board) := by
  induction audience generalizing board with
  | nil => exact .refl
  | cons listener audience ih =>
      obtain ⟨isHere, others⟩ := List.forall_mem_cons.mp registered
      have first := tell_moves publishes message begun isHere
      refine first.trans (ih (Nat.lt_of_lt_of_le begun first.calls_le) ?_)
      exact fun listener member => first.joins.subset (others listener member)

/-- A call that publishes, given how its listeners publish. -/
theorem call_moves {source : Option Telling} (message : String)
    (begun : ∀ telling, source = some telling → telling.call < board.calls) :
    Moves channel board (((board.listeners channel).foldl (tell nested channel board.calls message)
      (board.begin channel source message)).note (.returned board.calls)) := by
  have beginning : Move channel board (board.begin channel source message) := .begin message begun
  have told : Moves channel (board.begin channel source message) _ :=
    foldl_tell_moves publishes message (board.listeners channel).toList (Nat.lt_succ_self _)
      fun _ isListener => isListener
  rw [Array.foldl_toList] at told
  have returned : Event.IsRemark (.returned board.calls : Event κ) := trivial
  refine (Relation.ReflTransGen.head beginning told).tail (.note returned ?_)
  simp [Event.source?]

end Publishing

section Publishing

variable [Audience κ]

theorem publishWithin_moves (depth : Nat) (source : Option Telling) (board : Board κ)
    (message : String) (begun : ∀ telling, source = some telling → telling.call < board.calls) :
    Moves channel board (publishWithin depth channel source board message) := by
  have isBegun {telling : Telling} {board : Board κ} (begun : telling.call < board.calls) :
      ∀ other, some telling = some other → other.call < board.calls := by
    intro other same
    cases same
    exact begun
  induction depth generalizing source board message with
  | zero =>
      refine call_moves (fun telling board message begun => ?_) message begun
      have refused : Event.IsRemark (.refused telling message : Event κ) := trivial
      exact .single (.note refused (isBegun begun))
  | succ depth ih =>
      refine call_moves (fun telling board message begun => ?_) message begun
      exact ih (some telling) board message (isBegun begun)

theorem publishAll_moves (messages : List String) :
    Moves channel board (board.publishAll channel messages) := by
  induction messages generalizing board with
  | nil => exact .refl
  | cons message messages ih =>
      exact (publishWithin_moves (Audience.depth κ) none board message (by simp)).trans ih

end Publishing

/-! ## Two boards -/

section Places

variable {listener : Listener κ} {place : Nat}

theorem idxOf?_number (consistent : board.Consistent)
    (isHere : (board.listeners channel).toList[place]? = some listener) :
    (board.numbers channel).idxOf? listener.number = some place := by
  obtain ⟨inside, same⟩ := List.getElem?_eq_some_iff.mp isHere
  have nodup := consistent.nodup channel
  refine List.idxOf?_eq_some_iff.mpr ⟨by simpa [numbers] using inside, by simp [numbers, same], ?_⟩
  intro earlier isEarlier sameNumber
  have inside : place < (board.numbers channel).length := by simpa [numbers] using inside
  have numbered : (board.numbers channel)[place] = listener.number := by
    simp [numbers, same]
  rw [← numbered] at sameNumber
  exact Nat.ne_of_lt isEarlier ((List.Nodup.getElem_inj_iff nodup).mp sameNumber)

/-- At one place there is one number. -/
theorem number_eq_of_idxOf? {numbers : List Nat} {number number' : Nat}
    (found : numbers.idxOf? number = some place) (found' : numbers.idxOf? number' = some place) :
    number = number' := by
  obtain ⟨_, isFirst, _⟩ := List.idxOf?_eq_some_iff.mp found
  obtain ⟨_, isSecond, _⟩ := List.idxOf?_eq_some_iff.mp found'
  exact isFirst.symm.trans isSecond

/-- Telling a listener goes into the tale of its channel, at its place. -/
theorem tale_hand (consistent : board.Consistent)
    (isHere : (board.listeners channel).toList[place]? = some listener) (call : Nat)
    (message : String) :
    (board.hand call listener message).tale channel = board.tale channel ++ [(place, message)] := by
  have heard : Event.heardAt? (board.numbers channel) (.told call listener message) =
      some (place, message) := by
    rw [Event.heardAt?, idxOf?_number consistent isHere, Option.map_some]
  change ((board.hand call listener message).events.filterMap (Event.heardAt? (board.numbers channel))) = _
  rw [events_hand, List.filterMap_append, List.filterMap_cons_some heard]
  rfl

/-- A listener has been told what the tale has for its place. -/
theorem told_eq_countP (consistent : board.Consistent)
    (isHere : (board.listeners channel).toList[place]? = some listener) :
    board.told.getD listener.number 0 = (board.tale channel).countP (·.1 == place) := by
  rw [consistent.told, tale, List.countP_filterMap, timesTold]
  congr 1
  funext event
  cases event with
  | told call other message =>
      rw [Event.heardAt?, Event.tells]
      by_cases same : other.number = listener.number
      · simp [same, idxOf?_number consistent isHere]
      · have elsewhere : (board.numbers channel).idxOf? other.number ≠ some place :=
          fun isOther => same (number_eq_of_idxOf? isOther (idxOf?_number consistent isHere))
        cases found : (board.numbers channel).idxOf? other.number with
        | none => simp [same]
        | some there =>
            have differs : there ≠ place := fun here => elsewhere (here ▸ found)
            rw [Option.map_some, Option.map_some, Option.getD_some, beq_eq_false_iff_ne.mpr same]
            exact (beq_eq_false_iff_ne.mpr differs).symm
  | _ => rfl

/-- Only numbers that were given out were told anything. -/
theorem Consistent.number_lt_of_told (consistent : board.Consistent) {call : Nat}
    {message : String} (told : .told call listener message ∈ board.events) :
    listener.number < board.told.size := by
  by_contra beyond
  have never := consistent.told listener.number
  rw [Array.getD_eq_getD_getElem?, Array.getElem?_eq_none (Nat.le_of_not_lt beyond),
    Option.getD_none] at never
  have once : 0 < timesTold listener.number board.events :=
    List.countP_pos_iff.mpr ⟨_, told, by simp [Event.tells]⟩
  exact Nat.ne_of_gt once never.symm

/-- Registering a listener does not change what was told. -/
theorem tale_subscribe (consistent : board.Consistent) (isOpen : channel < board.channels.size)
    (kind : κ) (source : Option Telling) :
    (board.subscribe channel kind source).tale channel = board.tale channel := by
  have numbered : (board.subscribe channel kind source).numbers channel =
      board.numbers channel ++ [board.told.size] := by
    simp [numbers, listeners_subscribe isOpen]
  rw [tale, tale, numbered, events_subscribe, List.filterMap_append,
    List.filterMap_cons_none (by rfl), List.filterMap_nil, List.append_nil]
  refine List.filterMap_congr fun event isMember => ?_
  cases event with
  | told call listener message =>
      have known := consistent.number_lt_of_told isMember
      have notNew : [board.told.size].findIdx? (· == listener.number) = none := by
        simpa using Nat.ne_of_gt known
      simp only [Event.heardAt?, List.idxOf?, List.findIdx?_append, notNew, Option.map_none,
        Option.or_none]
  | _ => rfl

end Places

/-- A channel of one board and one of another have heard the same, with listeners of the same
kinds. -/
structure Echoes (channel other : Nat) (board mirror : Board κ) : Prop where
  kinds : board.kinds channel = mirror.kinds other
  tale : board.tale channel = mirror.tale other

/-- A board on which a channel is open. -/
structure Opens (board : Board κ) (channel : Nat) : Prop where
  consistent : board.Consistent
  isOpen : channel < board.channels.size

theorem Opens.moves (opens : board.Opens channel) (moves : Moves channel board grown) :
    grown.Opens channel where
  consistent := moves.consistent opens.consistent opens.isOpen
  isOpen := moves.size.symm ▸ opens.isOpen

/-- A board on which a call is under way on a channel. -/
structure Calling (board : Board κ) (channel call : Nat) : Prop extends board.Opens channel where
  begun : call < board.calls

theorem Calling.moves {call : Nat} (calling : board.Calling channel call)
    (moves : Moves channel board grown) : grown.Calling channel call :=
  ⟨calling.toOpens.moves moves, Nat.lt_of_lt_of_le calling.begun moves.calls_le⟩

theorem tale_note {event : Event κ} (isRemark : event.IsRemark) :
    (board.note event).tale channel = board.tale channel := by
  have listeners : (board.note event).listeners channel = board.listeners channel := rfl
  apply tale_congr listeners
  rw [events_note, List.filterMap_append]
  cases event <;> first | exact isRemark.elim | simp [Event.heardAt?]

theorem tale_begin (source : Option Telling) (message : String) :
    (board.begin other source message).tale channel = board.tale channel := by
  have listeners : (board.begin other source message).listeners channel =
      board.listeners channel := rfl
  apply tale_congr listeners
  simp [Event.heardAt?]

namespace Echoes

variable {mirror : Board κ} (echoes : Echoes channel other board mirror)

include echoes

theorem count : board.count channel = mirror.count other := by
  have sizes := congrArg List.length echoes.kinds
  simpa [Board.kinds, Board.count] using sizes

/-- What is neither a telling nor a registration is not heard. -/
theorem note {event mirrored : Event κ} (isRemark : event.IsRemark)
    (isMirrored : mirrored.IsRemark) :
    Echoes channel other (board.note event) (mirror.note mirrored) where
  kinds := echoes.kinds
  tale := by rw [tale_note isRemark, tale_note isMirrored, echoes.tale]

theorem «begin» (source mirrored : Option Telling) (message : String) :
    Echoes channel other (board.begin channel source message)
      (mirror.begin other mirrored message) where
  kinds := echoes.kinds
  tale := by rw [tale_begin, tale_begin, echoes.tale]

theorem subscribe (opens : board.Opens channel) (mirrorOpens : mirror.Opens other) (kind : κ)
    (source mirrored : Option Telling) :
    Echoes channel other (board.subscribe channel kind source)
      (mirror.subscribe other kind mirrored) where
  kinds := by
    have same := echoes.kinds
    simp only [Board.kinds] at same
    simp only [Board.kinds, listeners_subscribe opens.isOpen,
      listeners_subscribe mirrorOpens.isOpen, List.map_append, same, List.map_cons, List.map_nil]
  tale := by
    rw [tale_subscribe opens.consistent opens.isOpen,
      tale_subscribe mirrorOpens.consistent mirrorOpens.isOpen, echoes.tale]

variable {listener mirrored : Listener κ} {place : Nat}

/-- Listeners at the same place are of the same kind. -/
theorem kind (isHere : (board.listeners channel).toList[place]? = some listener)
    (isThere : (mirror.listeners other).toList[place]? = some mirrored) :
    listener.kind = mirrored.kind := by
  have same : (board.kinds channel)[place]? = (mirror.kinds other)[place]? :=
    congrArg (·[place]?) echoes.kinds
  simpa [Board.kinds, List.getElem?_map, isHere, isThere] using same

theorem hand (consistent : board.Consistent) (mirrorConsistent : mirror.Consistent)
    (isHere : (board.listeners channel).toList[place]? = some listener)
    (isThere : (mirror.listeners other).toList[place]? = some mirrored) (call mirrorCall : Nat)
    (message : String) :
    Echoes channel other (board.hand call listener message)
      (mirror.hand mirrorCall mirrored message) where
  kinds := echoes.kinds
  tale := by
    rw [tale_hand consistent isHere, tale_hand mirrorConsistent isThere, echoes.tale]

end Echoes

section Publishing

variable {nested nested' : Telling → Board κ → String → Board κ} {mirror : Board κ}
  (publishes : ∀ (telling : Telling) (board : Board κ) (message : String),
    telling.call < board.calls → Moves channel board (nested telling board message))
  (publishes' : ∀ (telling : Telling) (board : Board κ) (message : String),
    telling.call < board.calls → Moves other board (nested' telling board message))
  (inner : ∀ (telling telling' : Telling) (board mirror : Board κ) (message : String),
    board.Calling channel telling.call → mirror.Calling other telling'.call →
    Echoes channel other board mirror →
    Echoes channel other (nested telling board message) (nested' telling' mirror message))

include publishes publishes' inner

/-- Listeners that do the same, each on its own board. -/
theorem perform_echoes (source source' : Telling) (acts : List (Act κ))
    (calling : board.Calling channel source.call) (mirrors : mirror.Calling other source'.call)
    (echoes : Echoes channel other board mirror) :
    Echoes channel other (perform (nested source) channel source board acts).1
        (perform (nested' source') other source' mirror acts).1 ∧
      (perform (nested source) channel source board acts).2 =
        (perform (nested' source') other source' mirror acts).2 := by
  have isBegun {telling : Telling} {board : Board κ} (begun : telling.call < board.calls) :
      ∀ other, some telling = some other → other.call < board.calls := by
    intro other same
    cases same
    exact begun
  induction acts generalizing board mirror with
  | nil => exact ⟨echoes, rfl⟩
  | cons act acts ih =>
      cases act with
      | subscribe kind =>
          refine ih (calling.moves (.single (.subscribe kind (isBegun calling.begun))))
            (mirrors.moves (.single (.subscribe kind (isBegun mirrors.begun)))) ?_
          exact echoes.subscribe calling.toOpens mirrors.toOpens kind _ _
      | publish message =>
          exact ih (calling.moves (publishes source board message calling.begun))
            (mirrors.moves (publishes' source' mirror message mirrors.begun))
            (inner source source' board mirror message calling mirrors echoes)
      | noteCount =>
          have counted {source : Telling} {channel count : Nat} :
              Event.IsRemark (.counted source channel count : Event κ) := trivial
          exact ih (calling.moves (.single (.note counted (isBegun calling.begun))))
            (mirrors.moves (.single (.note counted (isBegun mirrors.begun))))
            (echoes.note counted counted)
      | panic => exact ⟨echoes, rfl⟩

variable [Audience κ]

/-- Listeners at the same place are told the same. -/
theorem tell_echoes {call call' : Nat} {listener mirrored : Listener κ} {place : Nat}
    (message : String) (calling : board.Calling channel call) (mirrors : mirror.Calling other call')
    (isHere : (board.listeners channel).toList[place]? = some listener)
    (isThere : (mirror.listeners other).toList[place]? = some mirrored)
    (echoes : Echoes channel other board mirror) :
    Echoes channel other (tell nested channel call message board listener)
      (tell nested' other call' message mirror mirrored) := by
  have sameKind := echoes.kind isHere isThere
  have sameTold : board.told.getD listener.number 0 = mirror.told.getD mirrored.number 0 := by
    rw [told_eq_countP calling.consistent isHere, told_eq_countP mirrors.consistent isThere,
      echoes.tale]
  have handed := calling.moves
    (.single (.hand calling.begun (List.mem_of_getElem? isHere) message))
  have handed' := mirrors.moves
    (.single (.hand mirrors.begun (List.mem_of_getElem? isThere) message))
  obtain ⟨reacted, samePanic⟩ := perform_echoes publishes publishes' inner
    ⟨call, listener.number⟩ ⟨call', mirrored.number⟩
    (Audience.react listener.kind (board.told.getD listener.number 0) message) handed handed'
    (echoes.hand calling.consistent mirrors.consistent isHere isThere call call' message)
  simp only [tell, ← sameKind, ← sameTold]
  generalize perform (nested _) _ _ _ _ = after at reacted samePanic ⊢
  generalize perform (nested' _) _ _ _ _ = after' at reacted samePanic ⊢
  obtain ⟨board, panicked⟩ := after
  obtain ⟨mirror, panicked'⟩ := after'
  obtain rfl : panicked = panicked' := samePanic
  have caught {source : Telling} : Event.IsRemark (.panicked source : Event κ) := trivial
  cases panicked with
  | false => exact reacted
  | true => exact reacted.note caught caught

/-- So are all of several listeners, one after the other. -/
theorem foldl_tell_echoes {call call' : Nat} (message : String)
    (audience audience' earlier earlier' : List (Listener κ)) (calling : board.Calling channel call)
    (mirrors : mirror.Calling other call')
    (areHere : earlier ++ audience <+: (board.listeners channel).toList)
    (areThere : earlier' ++ audience' <+: (mirror.listeners other).toList)
    (behind : earlier.length = earlier'.length) (sizes : audience.length = audience'.length)
    (echoes : Echoes channel other board mirror) :
    Echoes channel other (audience.foldl (tell nested channel call message) board)
      (audience'.foldl (tell nested' other call' message) mirror) := by
  induction audience generalizing board mirror audience' earlier earlier' with
  | nil =>
      obtain rfl := List.eq_nil_of_length_eq_zero sizes.symm
      exact echoes
  | cons listener audience ih =>
      obtain ⟨mirrored, audience', rfl⟩ := List.exists_cons_of_length_eq_add_one sizes.symm
      have isHere : (board.listeners channel).toList[earlier.length]? = some listener := by
        obtain ⟨later, same⟩ := areHere
        simp [← same]
      have isThere : (mirror.listeners other).toList[earlier.length]? = some mirrored := by
        obtain ⟨later, same⟩ := areThere
        simp [← same, behind]
      have told := tell_moves publishes message calling.begun (List.mem_of_getElem? isHere)
      have told' := tell_moves publishes' message mirrors.begun (List.mem_of_getElem? isThere)
      refine ih audience' (earlier ++ [listener]) (earlier' ++ [mirrored]) (calling.moves told)
        (mirrors.moves told') ?_ ?_ (by simp [behind]) (by simpa using sizes) ?_
      · simpa using areHere.trans told.joins
      · simpa using areThere.trans told'.joins
      · exact tell_echoes publishes publishes' inner message calling mirrors isHere isThere echoes

/-- Two calls that publish the same message. -/
theorem call_echoes {source source' : Option Telling} (message : String)
    (opens : board.Opens channel) (mirrors : mirror.Opens other)
    (begun : ∀ telling, source = some telling → telling.call < board.calls)
    (begun' : ∀ telling, source' = some telling → telling.call < mirror.calls)
    (echoes : Echoes channel other board mirror) :
    Echoes channel other
      (((board.listeners channel).foldl (tell nested channel board.calls message)
        (board.begin channel source message)).note (.returned board.calls))
      (((mirror.listeners other).foldl (tell nested' other mirror.calls message)
        (mirror.begin other source' message)).note (.returned mirror.calls)) := by
  have returned {call : Nat} : Event.IsRemark (.returned call : Event κ) := trivial
  have told := foldl_tell_echoes publishes publishes' inner message (board.listeners channel).toList
    (mirror.listeners other).toList [] []
    ⟨opens.moves (.single (.begin message begun)), Nat.lt_succ_self _⟩
    ⟨mirrors.moves (.single (.begin message begun')), Nat.lt_succ_self _⟩
    (List.prefix_refl _) (List.prefix_refl _) rfl echoes.count
    (echoes.begin source source' message)
  rw [Array.foldl_toList, Array.foldl_toList] at told
  exact told.note returned returned

end Publishing

section Publishing

variable [Audience κ] {mirror : Board κ}

theorem publishWithin_echoes (depth : Nat) (source source' : Option Telling) (board mirror : Board κ)
    (message : String) (opens : board.Opens channel) (mirrors : mirror.Opens other)
    (begun : ∀ telling, source = some telling → telling.call < board.calls)
    (begun' : ∀ telling, source' = some telling → telling.call < mirror.calls)
    (echoes : Echoes channel other board mirror) :
    Echoes channel other (publishWithin depth channel source board message)
      (publishWithin depth other source' mirror message) := by
  have isBegun {telling : Telling} {board : Board κ} (begun : telling.call < board.calls) :
      ∀ other, some telling = some other → other.call < board.calls := by
    intro other same
    cases same
    exact begun
  have refused {telling : Telling} {message : String} :
      Event.IsRemark (.refused telling message : Event κ) := trivial
  induction depth generalizing source source' board mirror message with
  | zero =>
      refine call_echoes ?_ ?_ ?_ message opens mirrors begun begun' echoes
      · exact fun telling board message begun => .single (.note refused (isBegun begun))
      · exact fun telling board message begun => .single (.note refused (isBegun begun))
      · exact fun _ _ _ _ _ _ _ echoes => echoes.note refused refused
  | succ depth ih =>
      refine call_echoes ?_ ?_ ?_ message opens mirrors begun begun' echoes
      · exact fun telling board message begun =>
          publishWithin_moves depth (some telling) board message (isBegun begun)
      · exact fun telling board message begun =>
          publishWithin_moves depth (some telling) board message (isBegun begun)
      · exact fun telling telling' board mirror message calling mirrors echoes =>
          ih (some telling) (some telling') board mirror message calling.toOpens mirrors.toOpens
            (isBegun calling.begun) (isBegun mirrors.begun) echoes

/-- Publishing the same messages. -/
theorem publishAll_echoes (messages : List String) (opens : board.Opens channel)
    (mirrors : mirror.Opens other) (echoes : Echoes channel other board mirror) :
    Echoes channel other (board.publishAll channel messages) (mirror.publishAll other messages) := by
  induction messages generalizing board mirror with
  | nil => exact echoes
  | cons message messages ih =>
      have first : Moves channel board (board.publish channel message) :=
        publishWithin_moves _ none board message (by simp)
      have first' : Moves other mirror (mirror.publish other message) :=
        publishWithin_moves _ none mirror message (by simp)
      refine ih (opens.moves first) (mirrors.moves first') ?_
      exact publishWithin_echoes _ none none board mirror message opens mirrors (by simp) (by simp)
        echoes

end Publishing

/-! ## In the beginning, and in the end -/

end Board

end LuaSession
