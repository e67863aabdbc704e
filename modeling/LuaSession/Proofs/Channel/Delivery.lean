import LuaSession.Channel.Desk
import LuaSession.Proofs.Channel.Publishing

/-!
# Exact delivery

A host works on its channels through handles, and listeners work on them in
turn while they are told messages. Whatever steps the host takes, and however
listeners register others, publish and panic, every call returns and has told
its message to exactly the listeners that were registered when it began. How
deep listeners may publish is bounded, but those of a session never come to the
bound.
-/

namespace LuaSession

/-- A listener publishes only what it marks, and nothing about a marked message. -/
theorem Conduct.publish_mem_react {kind : Conduct} {before : Nat} {message text : String}
    (member : .publish text ∈ react kind before message) :
    text = mark ++ message ∧ message.startsWith mark = false := by
  cases kind with
  | republish thenPanic =>
      rw [react] at member
      split at member
      next marked => cases member
      next unmarked =>
          refine ⟨?_, by simpa using unmarked⟩
          rcases List.mem_cons.mp member with same | member
          · cases same
            rfl
          · cases thenPanic <;> simp at member
  | panic once => simp [react] at member
  | subscribe once => simp [react] at member
  | record => simp [react] at member
  | count => simp [react] at member

namespace Desk

variable {κ : Type} [Audience κ]

/-- What happened at a desk, in order. -/
def events (desk : Desk κ) : List (Event κ) := desk.hall.events

/-- The desk after a step with a handle; without such a handle nothing happens. -/
def advance (desk : Desk κ) (turn : Nat × DeskStep κ) : Desk κ :=
  ((desk.step? turn.1 turn.2).map Prod.snd).getD desk

/-- The desk after steps with handles. -/
def run (desk : Desk κ) (turns : List (Nat × DeskStep κ)) : Desk κ := turns.foldl advance desk

/-- What a step with a handle on a channel answers and leaves behind, when it
has added some events to the record. -/
def Carries (desk : Desk κ) (channel : Nat) (answer : DeskAnswer) (news : List (Event κ))
    (after : Desk κ) : DeskStep κ → Prop
  | .open => answer = .number desk.handles.size ∧ news = [] ∧
      after.handles = desk.handles.push desk.hall.channels.size ∧
      registered desk.hall.channels.size desk.events = []
  | .clone => answer = .number desk.handles.size ∧ news = [] ∧
      after.handles = desk.handles.push channel
  | .subscribe kind => answer = .nothing ∧ after.handles = desk.handles ∧
      ∃ number, news = [.subscribed none channel ⟨number, kind⟩]
  | .publish text => answer = .nothing ∧ after.handles = desk.handles ∧
      ∃ call body, news = .started none call channel text :: (body ++ [.returned call]) ∧
        deeds none body = []
  | .accept text => answer = .nothing ∧ after.handles = desk.handles ∧
      ∃ call body, news = .started none call channel text :: (body ++ [.returned call]) ∧
        deeds none body = []
  | .count => answer = .number (registered channel desk.events).length ∧ news = [] ∧ after = desk
  | .describe => news = [] ∧ after = desk
  | .describeAdapter => news = [] ∧ after = desk

/-- A desk that delivers exactly.

Listeners and calls are never mixed up, everything that happened is justified
by what happened before it, and a listener is told messages only by calls that
begin after its registration. Every step does on its handle's channel what it
is for, however many handles there are on the channel. -/
structure Delivers (desk : Desk κ) : Prop where
  listenersDiffer : ((subscribers desk.events).map Listener.number).Nodup
  callsDiffer : (calls desk.events).Nodup
  justified : ∀ before event after, desk.events = before ++ event :: after →
    event.Justified before after
  toldAfter : ∀ before source channel listener after,
    desk.events = before ++ .subscribed source channel listener :: after →
      ∀ call other message, .told call other message ∈ desk.events →
        other.number = listener.number → call ∈ calls after
  carries : ∀ handle channel step, desk.handles[handle]? = some channel →
    ∃ answer news after, desk.step? handle step = some (answer, after) ∧
      after.events = desk.events ++ news ∧ desk.Carries channel answer news after step

/-- What every step keeps of a desk. -/
structure Sound (desk : Desk κ) : Prop where
  consistent : desk.hall.Consistent
  sound : SoundAfter [] desk.events
  nested : WellNested desk.events
  isOpen : ∀ channel ∈ desk.handles, channel < desk.hall.channels.size

theorem sound_initial : (initial : Desk κ).Sound where
  consistent := Board.consistent_empty.openChannel
  sound := by
    trivial
  nested := wellNested_nil
  isOpen := by
    intro channel member
    simp [initial] at member
    simp [initial, Board.openChannel, member]

/-- The board is ready for what the host does with a handle. -/
theorem Sound.ready {desk : Desk κ} (sound : desk.Sound) {channel : Nat}
    (member : channel ∈ desk.handles) : desk.hall.Ready channel none 0 :=
  ⟨sound.consistent, sound.isOpen channel member, by simp, .host⟩

/-- A desk stays sound when its board grows. -/
theorem Sound.grows {desk : Desk κ} (sound : desk.Sound) {news : List (Event κ)}
    {hall : Hall κ} (grows : Board.Grows (fun _ => False) (· = none) desk.hall news hall) :
    ({ desk with hall } : Desk κ).Sound where
  consistent := grows.consistent
  sound := grows.sound_events sound.consistent sound.sound
  nested := grows.nested_events sound.consistent sound.nested
  isOpen := grows.channels ▸ sound.isOpen

/-- Publishing on the channel of a handle. -/
theorem Sound.publish {desk : Desk κ} (sound : desk.Sound) {channel : Nat}
    (member : channel ∈ desk.handles) (text : String) :
    ({ desk with hall := desk.hall.publish channel text } : Desk κ).Sound ∧
      ∃ body, (desk.hall.publish channel text).events = desk.events ++
          .started none desk.hall.calls channel text :: (body ++ [.returned desk.hall.calls]) ∧
        deeds none body = [] := by
  obtain ⟨body, grows, hostless, _⟩ :=
    Board.publishWithin_grows (Audience.depth κ) 0 none desk.hall text (Nat.zero_add _)
      (sound.ready member)
  exact ⟨sound.grows grows, body, grows.recorded, hostless⟩

/-- A step of a sound desk leaves it sound and does what it is for. -/
theorem Sound.step {desk : Desk κ} (sound : desk.Sound) {channel : Nat}
    (member : channel ∈ desk.handles) (step : DeskStep κ) :
    (desk.step channel step).2.Sound ∧
      ∃ news, (desk.step channel step).2.events = desk.events ++ news ∧
        desk.Carries channel (desk.step channel step).1 news (desk.step channel step).2 step := by
  cases step with
  | «open» =>
      refine ⟨⟨sound.consistent.openChannel, sound.sound, sound.nested, ?_⟩, [], ?_, rfl, rfl, rfl, ?_⟩
      · intro other isHandle
        have size : desk.hall.openChannel.channels.size = desk.hall.channels.size + 1 := by
          simp [Board.openChannel]
        rw [Desk.step, size]
        rcases Array.mem_push.mp isHandle with old | rfl
        · exact Nat.lt_succ_of_lt (sound.isOpen other old)
        · exact Nat.lt_succ_self _
      · exact (List.append_nil _).symm
      · rw [events, ← sound.consistent.registered]
        simp [Board.listeners]
  | clone =>
      refine ⟨⟨sound.consistent, sound.sound, sound.nested, ?_⟩, [], (List.append_nil _).symm, rfl, rfl, rfl⟩
      intro other isHandle
      rcases Array.mem_push.mp isHandle with old | rfl
      · exact sound.isOpen other old
      · exact sound.isOpen _ member
  | subscribe kind =>
      have ready := sound.ready member
      have grows := Board.Grows.subscribe ready.consistent ready.isOpen kind ready.isTold
      exact ⟨sound.grows grows, _, grows.recorded, rfl, rfl, _, rfl⟩
  | publish text =>
      obtain ⟨stays, body, recorded, hostless⟩ := sound.publish member text
      exact ⟨stays, _, recorded, rfl, rfl, _, body, rfl, hostless⟩
  | accept text =>
      obtain ⟨stays, body, recorded, hostless⟩ := sound.publish member text
      exact ⟨stays, _, recorded, rfl, rfl, _, body, rfl, hostless⟩
  | count =>
      refine ⟨sound, [], (List.append_nil _).symm, ?_, rfl, rfl⟩
      rw [events, ← sound.consistent.registered channel]
      rfl
  | describe => exact ⟨sound, [], (List.append_nil _).symm, rfl, rfl⟩
  | describeAdapter => exact ⟨sound, [], (List.append_nil _).symm, rfl, rfl⟩

theorem step?_eq_some {desk : Desk κ} {handle channel : Nat}
    (found : desk.handles[handle]? = some channel) (step : DeskStep κ) :
    desk.step? handle step = some (desk.step channel step) := by
  simp [Desk.step?, found]

/-- A desk stays sound through a run. -/
theorem Sound.run {desk : Desk κ} (sound : desk.Sound) (turns : List (Nat × DeskStep κ)) :
    (desk.run turns).Sound := by
  induction turns generalizing desk with
  | nil => exact sound
  | cons turn turns ih =>
      apply ih
      rw [advance]
      cases found : desk.handles[turn.1]? with
      | none => simpa [Desk.step?, found] using sound
      | some channel =>
          rw [step?_eq_some found]
          exact (sound.step (Array.mem_of_getElem? found) turn.2).1

/-- Every event of a sound desk is justified. -/
theorem Sound.justified {desk : Desk κ} (sound : desk.Sound) {before after : List (Event κ)}
    {event : Event κ} (same : desk.events = before ++ event :: after) :
    event.Justified before after := by
  have justified := sound.sound
  rw [same] at justified
  simpa using justified.justified

/-- Over a whole run a call tells its message to the listeners that were
registered when it began. -/
theorem Sound.tellings_eq {desk : Desk κ} (sound : desk.Sound) {source : Option Telling}
    {call channel : Nat} {message : String} {before after : List (Event κ)}
    (start : desk.events = before ++ .started source call channel message :: after) :
    tellings call desk.events = (registered channel before).map (·, message) := by
  obtain ⟨-, -, untold, body, later, rest, toldAll, silent⟩ := sound.justified start
  rw [start, tellings_append, untold, List.nil_append, tellings_cons_of_none rfl, rest,
    tellings_append, toldAll, tellings_cons_of_none rfl, silent, List.append_nil]

/-- Whoever is told something was registered when the call began. -/
theorem Sound.registered_of_told {desk : Desk κ} (sound : desk.Sound) {call : Nat}
    {listener : Listener κ} {message : String}
    (told : .told call listener message ∈ desk.events) :
    ∃ before source channel text after,
      desk.events = before ++ .started source call channel text :: after ∧
        listener ∈ registered channel before := by
  obtain ⟨front, back, place⟩ := List.append_of_mem told
  obtain ⟨⟨channel, source, text, begun⟩, -⟩ := sound.justified place
  have member : .started source call channel text ∈ desk.events := by
    rw [place]
    exact List.mem_append_left _ begun
  obtain ⟨before, after, start⟩ := List.append_of_mem member
  refine ⟨before, source, channel, text, after, start, ?_⟩
  have isTold : (listener, message) ∈ tellings call desk.events :=
    List.mem_filterMap.mpr ⟨_, told, by simp [Event.toldBy?]⟩
  rw [sound.tellings_eq start] at isTold
  obtain ⟨_, known, same⟩ := List.mem_map.mp isTold
  cases same
  exact known

/-- A call tells nobody anything but its message. -/
theorem Sound.message_eq {desk : Desk κ} (sound : desk.Sound) {source : Option Telling}
    {call channel : Nat} {listener : Listener κ} {message text : String}
    (told : .told call listener text ∈ desk.events)
    (begun : .started source call channel message ∈ desk.events) : text = message := by
  obtain ⟨before, after, start⟩ := List.append_of_mem begun
  have isTold : (listener, text) ∈ tellings call desk.events :=
    List.mem_filterMap.mpr ⟨_, told, by simp [Event.toldBy?]⟩
  rw [sound.tellings_eq start] at isTold
  obtain ⟨_, _, same⟩ := List.mem_map.mp isTold
  cases same
  rfl

/-- What is done at a telling is among what the listener's kind does there. -/
theorem Sound.mem_react {desk : Desk κ} (sound : desk.Sound) {event : Event κ}
    (member : event ∈ desk.events) {telling : Telling} (isSource : event.source? = some telling)
    {act : Act κ} (isAct : event.act? = some act) :
    ∃ listener message number, .told telling.call listener message ∈ desk.events ∧
      act ∈ Audience.react listener.kind number message := by
  obtain ⟨before, after, place⟩ := List.append_of_mem member
  obtain ⟨channel, _, listener, message, told, number⟩ := (sound.justified place).isTold isSource
  obtain ⟨front, back, earlier⟩ := List.append_of_mem told
  rw [earlier, List.append_assoc, List.cons_append] at place
  obtain ⟨-, -, done⟩ := sound.justified place
  refine ⟨listener, message, timesTold listener.number front, ?_, ?_⟩
  · rw [place]
    exact List.mem_append_right _ List.mem_cons_self
  · apply mem_of_mem_performed
    rw [← done]
    refine List.mem_filterMap.mpr
      ⟨event, List.mem_append_right _ List.mem_cons_self, ?_⟩
    rw [if_pos (by rw [isSource, number]), isAct]

/-- Whatever steps a host takes, and whatever its listeners do, its desk
delivers exactly. -/
theorem delivers_run (turns : List (Nat × DeskStep κ)) : (initial.run turns).Delivers := by
  have sound : (initial.run turns).Sound := sound_initial.run turns
  generalize initial.run turns = desk at sound
  have listenersDiffer : ((subscribers desk.events).map Listener.number).Nodup :=
    sound.consistent.ordered.imp Nat.ne_of_lt
  constructor
  case listenersDiffer => exact listenersDiffer
  case callsDiffer =>
    rw [events, sound.consistent.called]
    exact List.nodup_range
  case justified => exact fun before event after same => sound.justified same
  case toldAfter =>
    intro before source channel listener after place call other message told number
    obtain ⟨front, starter, room, text, back, start, known⟩ := sound.registered_of_told told
    have subscribed : other ∈ subscribers front := (registered_sublist room front).subset known
    -- Either the call began after the registration, or the listener was
    -- registered twice.
    rw [place] at start
    rcases List.append_eq_append_iff.mp start with ⟨gap, isFront, rest⟩ | ⟨gap, isBefore, rest⟩
    · cases gap with
      | nil => cases rest
      | cons first gap =>
          have rest : after = gap ++ .started starter call room text :: back :=
            (List.cons.inj rest).2
          rw [rest, calls_append]
          exact List.mem_append_right _ List.mem_cons_self
    · have earlier : other ∈ subscribers before := by
        rw [isBefore, subscribers_append]
        exact List.mem_append_left _ subscribed
      rw [place, subscribers_append, List.map_append] at listenersDiffer
      have twice : other.number ∈ (subscribers
          (.subscribed source channel listener :: after)).map Listener.number := by
        rw [number]
        exact List.mem_cons_self
      exact absurd rfl (List.nodup_append.mp listenersDiffer |>.2.2 _
        (List.mem_map_of_mem earlier) _ twice)
  case carries =>
    intro handle channel step found
    obtain ⟨_, news, recorded, carries⟩ := sound.step (Array.mem_of_getElem? found) step
    exact ⟨_, news, _, step?_eq_some found step, recorded, carries⟩

/-- The listeners that a session's host can register publish no deeper than they
may: none of them is ever refused to. -/
theorem run_not_refused (turns : List (Nat × DeskStep)) (telling : Telling) (message : String) :
    .refused telling message ∉ (initial.run turns).events := by
  intro member
  have sound : (initial.run turns).Sound := sound_initial.run turns
  generalize initial.run turns = desk at sound member
  obtain ⟨before, after, place⟩ := List.append_of_mem member
  obtain ⟨-, nests⟩ := sound.justified place
  -- The message that the listener was told had been published by a listener.
  obtain ⟨publisher, channel, text, inside⟩ : ∃ publisher channel text,
      .started (some publisher) telling.call channel text ∈ desk.events := by
    cases nests with
    | @listener _ source call channel text number begun outer =>
        cases outer with
        | @listener _ _ outerCall _ _ outerNumber _ _ =>
            refine ⟨⟨outerCall, outerNumber⟩, channel, text, ?_⟩
            rw [place]
            exact List.mem_append_left _ begun
  obtain ⟨listener, heard, count, told, publishes⟩ := sound.mem_react member rfl rfl
  obtain ⟨_, original, _, _, published⟩ := sound.mem_react inside rfl rfl
  have marked : heard = Conduct.mark ++ original :=
    (sound.message_eq told inside).trans (Conduct.publish_mem_react published).1
  have unmarked := (Conduct.publish_mem_react publishes).2
  rw [marked] at unmarked
  simp at unmarked

end Desk

end LuaSession
