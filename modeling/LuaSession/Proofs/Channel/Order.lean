import LuaSession.Proofs.Channel.Delivery
import LuaSession.Proofs.Channel.Quiet
import Mathlib.Data.List.Sort

/-!
# Production order

Calls are numbered in the order in which they start. A listener is overtaken
when one that was registered before it publishes while both are being told a
message by one call: the inner message reaches it before the outer one. Nothing
else disturbs the order. A listener that is never overtaken is told what is
published on its channel after its registration, in the order in which those
calls start, so that of two such listeners the later one has been told the last
of what the earlier one has been told.
-/

namespace LuaSession

variable {κ : Type}

/-- The call and the message with which an event tells a listener something. -/
def Event.hearing? (number : Nat) : Event κ → Option (Nat × String)
  | .told call listener message => if listener.number = number then some (call, message) else none
  | _ => none

/-- The call and the message that an event begins to publish on a channel. -/
def Event.publication? (channel : Nat) : Event κ → Option (Nat × String)
  | .started _ call place message => if place = channel then some (call, message) else none
  | _ => none

/-- What a listener was told, with the calls that told it, in order. -/
def hearings (number : Nat) (events : List (Event κ)) : List (Nat × String) :=
  events.filterMap (Event.hearing? number)

/-- What was published on a channel, with the calls, in the order of their beginnings. -/
def publications (channel : Nat) (events : List (Event κ)) : List (Nat × String) :=
  events.filterMap (Event.publication? channel)

/-- A listener is overtaken when one with a smaller number publishes while it is
being told something that both of them are told. -/
def Overtaken (events : List (Event κ)) (number : Nat) : Prop :=
  ∃ outer publisher call channel text listener message,
    .started (some ⟨outer, publisher⟩) call channel text ∈ events ∧ publisher < number ∧
      .told outer listener message ∈ events ∧ listener.number = number

@[simp] theorem publications_append (channel : Nat) (front back : List (Event κ)) :
    publications channel (front ++ back) =
      publications channel front ++ publications channel back :=
  List.filterMap_append

theorem mem_hearings {number call : Nat} {message : String} {events : List (Event κ)} :
    (call, message) ∈ hearings number events ↔
      ∃ listener, .told call listener message ∈ events ∧ listener.number = number := by
  constructor
  · intro member
    obtain ⟨event, happened, hears⟩ := List.mem_filterMap.mp member
    cases event with
    | told other listener text =>
        simp only [Event.hearing?, Option.ite_none_right_eq_some, Option.some.injEq,
          Prod.mk.injEq] at hears
        obtain ⟨same, rfl, rfl⟩ := hears
        exact ⟨listener, happened, same⟩
    | _ => cases hears
  · rintro ⟨listener, member, same⟩
    exact List.mem_filterMap.mpr ⟨_, member, by simp [Event.hearing?, same]⟩

theorem mem_publications {channel call : Nat} {message : String} {events : List (Event κ)} :
    (call, message) ∈ publications channel events ↔
      ∃ source, .started source call channel message ∈ events := by
  constructor
  · intro member
    obtain ⟨event, happened, publishes⟩ := List.mem_filterMap.mp member
    cases event with
    | started source other place text =>
        simp only [Event.publication?, Option.ite_none_right_eq_some, Option.some.injEq,
          Prod.mk.injEq] at publishes
        obtain ⟨rfl, rfl, rfl⟩ := publishes
        exact ⟨source, happened⟩
    | _ => cases publishes
  · rintro ⟨source, member⟩
    exact List.mem_filterMap.mpr ⟨_, member, by simp [Event.publication?]⟩

theorem mem_tellings {call : Nat} {listener : Listener κ} {message : String}
    {events : List (Event κ)} :
    (listener, message) ∈ tellings call events ↔ .told call listener message ∈ events := by
  constructor
  · intro member
    obtain ⟨event, happened, tells⟩ := List.mem_filterMap.mp member
    cases event with
    | told other heard text =>
        simp only [Event.toldBy?, Option.ite_none_right_eq_some, Option.some.injEq,
          Prod.mk.injEq] at tells
        obtain ⟨rfl, rfl, rfl⟩ := tells
        exact happened
    | _ => cases tells
  · exact fun happened => List.mem_filterMap.mpr ⟨_, happened, by simp [Event.toldBy?]⟩

/-- The messages of what a listener was told. -/
theorem hearings_messages (number : Nat) (events : List (Event κ)) :
    (hearings number events).map Prod.snd = received number events := by
  rw [hearings, received, List.map_filterMap]
  congr 1
  funext event
  cases event with
  | told call listener message =>
      by_cases here : listener.number = number <;> simp [Event.hearing?, Event.toldTo?, here]
  | _ => rfl

theorem exists_started_of_mem_calls {call : Nat} {events : List (Event κ)}
    (begun : call ∈ calls events) :
    ∃ source channel message before after,
      events = before ++ .started source call channel message :: after := by
  obtain ⟨event, happened, begins⟩ := List.mem_filterMap.mp begun
  cases event with
  | started source other channel message =>
      cases begins
      exact ⟨source, channel, message, List.append_of_mem happened⟩
  | _ => cases begins

theorem subscribers_of_registered {channel : Nat} {listener : Listener κ}
    {events : List (Event κ)} (known : listener ∈ registered channel events) :
    listener ∈ subscribers events :=
  (registered_sublist channel events).subset known

/-- The calls of what was published on a channel are among all calls. -/
theorem publications_sublist (channel : Nat) (events : List (Event κ)) :
    ((publications channel events).map Prod.fst).Sublist (calls events) := by
  induction events with
  | nil => exact List.Sublist.refl _
  | cons event events ih =>
      cases event with
      | started source call place message =>
          by_cases here : place = channel
          · simpa [publications, calls, List.filterMap_cons, Event.publication?, Event.begun?,
              here] using ih
          · simpa [publications, calls, List.filterMap_cons, Event.publication?, Event.begun?,
              here] using ih.cons call
      | _ => exact ih

/-- What happens while an enclosing call still has something to tell happens
before it returns. -/
theorem Enclosed.acts_late {call : Nat} {middle back : List (Event κ)} {listener : Listener κ}
    {message : String}
    (enclosed : Enclosed call (middle ++ .told call listener message :: back)) :
    ∀ event ∈ middle, event.act? ≠ none → Late call event.source? := by
  obtain ⟨body, later, same, within, silent⟩ := enclosed
  intro event member
  apply within
  rcases List.append_eq_append_iff.mp same with ⟨gap, isBody, -⟩ | ⟨gap, isMiddle, rest⟩
  · rw [isBody]
    exact List.mem_append_left _ member
  · -- The telling would come after the return.
    cases gap with
    | nil =>
        rw [isMiddle, List.append_nil] at member
        exact member
    | cons first gap =>
        have rest : later = gap ++ .told call listener message :: back :=
          (List.cons.inj rest).2
        have tells : (listener, message) ∈ tellings call later := by
          rw [rest]
          exact List.mem_filterMap.mpr
            ⟨_, List.mem_append_right _ List.mem_cons_self, by simp [Event.toldBy?]⟩
        rw [silent] at tells
        cases tells

namespace Desk

variable [Audience κ] {desk : Desk κ}

namespace Sound

/-- Calls are numbered in the order in which they start. -/
theorem calls_before (sound : desk.Sound) {source : Option Telling} {call channel : Nat}
    {message : String} {before after : List (Event κ)}
    (start : desk.events = before ++ .started source call channel message :: after) :
    calls before = List.range call := by
  have called : calls desk.events = List.range desk.hall.calls := sound.consistent.called
  have numbered : call = (calls before).length := (sound.justified start).1
  have isPrefix : calls before <+: List.range desk.hall.calls := by
    rw [← called, start, calls_append]
    exact List.prefix_append _ _
  rw [List.prefix_iff_eq_take.mp isPrefix, ← numbered, List.take_range, Nat.min_eq_left]
  rw [numbered]
  simpa using isPrefix.length_le

/-- The calls that start later have greater numbers. -/
theorem lt_of_started_after (sound : desk.Sound) {source : Option Telling}
    {call later channel : Nat} {message : String} {before after : List (Event κ)}
    (start : desk.events = before ++ .started source call channel message :: after)
    (member : later ∈ calls after) : call < later := by
  have ordered : (calls desk.events).Pairwise (· < ·) := by
    rw [show calls desk.events = List.range desk.hall.calls from sound.consistent.called]
    exact List.pairwise_lt_range
  rw [start, calls_append, List.pairwise_append] at ordered
  exact (List.pairwise_cons.mp ordered.2.1).1 later member

/-- A call tells listeners in the order of their numbers. -/
theorem told_in_order (sound : desk.Sound) {front back : List (Event κ)}
    (split : desk.events = front ++ back) {call : Nat} {first second : Listener κ}
    {message text : String} (told : .told call first message ∈ front)
    (toldLater : .told call second text ∈ back) : first.number < second.number := by
  have happened : .told call first message ∈ desk.events := by
    rw [split]
    exact List.mem_append_left _ told
  obtain ⟨before, source, channel, published, after, start, -⟩ := sound.registered_of_told happened
  have ordered : ((tellings call desk.events).map fun telling => telling.1.number).Pairwise
      (· < ·) := by
    rw [sound.tellings_eq start, List.map_map]
    have sublist : (registered channel before).Sublist (subscribers desk.events) := by
      apply (registered_sublist channel before).trans
      rw [start, subscribers_append]
      exact List.sublist_append_left _ _
    exact sound.consistent.ordered.sublist (sublist.map Listener.number)
  rw [split, tellings_append, List.map_append, List.pairwise_append] at ordered
  apply ordered.2.2
  · exact List.mem_map.mpr
      ⟨(first, message), mem_tellings.mpr told, rfl⟩
  · exact List.mem_map.mpr
      ⟨(second, text), mem_tellings.mpr toldLater, rfl⟩

/-- A call that begins while another one is telling was published by a listener
of that one, or within a call that was. -/
theorem exists_inner (sound : desk.Sound) {source : Option Telling}
    {outer channel : Nat} {message text : String} {listener : Listener κ}
    {before middle after : List (Event κ)}
    (start : desk.events = before ++ .started source outer channel message ::
      (middle ++ .told outer listener text :: after)) :
    ∀ call ∈ calls middle, ∃ publisher inner place published front back,
      middle = front ++ .started (some ⟨outer, publisher⟩) inner place published :: back := by
  have enclosed : Enclosed outer (middle ++ .told outer listener text :: after) :=
    sound.nested _ _ _ _ _ _ start
  intro call
  induction call using Nat.strong_induction_on with
  | _ call ih =>
      intro member
      obtain ⟨starter, place, published, front, back, split⟩ := exists_started_of_mem_calls member
      have late : Late outer starter := by
        apply enclosed.acts_late (.started starter call place published)
        · rw [split]
          exact List.mem_append_right _ List.mem_cons_self
        · simp [Event.act?]
      cases starter with
      | none => exact late.elim
      | some telling =>
          obtain ⟨parent, publisher⟩ := telling
          rcases Nat.eq_or_lt_of_le late with same | inside
          · obtain rfl : outer = parent := same
            exact ⟨publisher, call, place, published, front, back, split⟩
          · -- The listener was told by a call that began in between, too.
            have inner : desk.events =
                (before ++ .started source outer channel message :: front) ++
                  .started (some ⟨parent, publisher⟩) call place published ::
                    (back ++ .told outer listener text :: after) := by
              rw [start, split]
              simp
            have runs : parent ∈ calls (before ++ .started source outer channel message :: front) :=
              ((sound.justified inner).2.1 _ rfl).1.mem_calls
            have earlier : parent < call := by
              rw [sound.calls_before inner] at runs
              exact List.mem_range.mp runs
            have among : parent ∈ calls middle := by
              rw [calls_append] at runs
              rcases List.mem_append.mp runs with runs | runs
              · rw [sound.calls_before start] at runs
                exact absurd (List.mem_range.mp runs) (Nat.lt_asymm inside)
              · rcases List.mem_cons.mp runs with same | runs
                · exact absurd same.symm (Nat.ne_of_lt inside)
                · rw [split, calls_append]
                  exact List.mem_append_left _ runs
            exact ih parent earlier among

/-- A listener that a later call tells something first is overtaken. -/
theorem overtaken_of_told (sound : desk.Sound) {front back : List (Event κ)}
    (split : desk.events = front ++ back) {outer inner : Nat} (later : outer < inner)
    {listener other : Listener κ} {message text : String}
    (told : .told inner other message ∈ front) (toldAfter : .told outer listener text ∈ back) :
    Overtaken desk.events listener.number := by
  obtain ⟨front, toldBetween, rfl⟩ := List.append_of_mem told
  obtain ⟨between, rest, rfl⟩ := List.append_of_mem toldAfter
  -- The inner call had begun when it told the listener, and the outer one before it.
  obtain ⟨⟨channel, source, published, begun⟩, -⟩ :=
    sound.justified (split.trans (List.append_assoc _ _ _))
  obtain ⟨front, beforeTold, rfl⟩ := List.append_of_mem begun
  have innerStart : desk.events = front ++ .started source inner channel published ::
      (beforeTold ++ .told inner other message :: toldBetween ++ between ++
        .told outer listener text :: rest) := by
    rw [split]
    simp
  have outerBegun : outer ∈ calls front := by
    rw [sound.calls_before innerStart]
    exact List.mem_range.mpr later
  obtain ⟨starter, place, original, before, gap, rfl⟩ := exists_started_of_mem_calls outerBegun
  have outerStart : desk.events = before ++ .started starter outer place original ::
      (gap ++ .started source inner channel published ::
        (beforeTold ++ .told inner other message :: toldBetween ++ between) ++
        .told outer listener text :: rest) := by
    rw [innerStart]
    simp
  have innerBegun : inner ∈ calls (gap ++ .started source inner channel published ::
      (beforeTold ++ .told inner other message :: toldBetween ++ between)) := by
    rw [calls_append]
    exact List.mem_append_right _ List.mem_cons_self
  obtain ⟨publisher, call, room, echo, ahead, behind, middle⟩ :=
    sound.exists_inner outerStart inner innerBegun
  rw [middle] at outerStart
  -- The publisher was told by the outer call, and before the listener.
  have echoStart : desk.events = (before ++ .started starter outer place original :: ahead) ++
      .started (some ⟨outer, publisher⟩) call room echo ::
        (behind ++ .told outer listener text :: rest) := by
    rw [outerStart]
    simp
  obtain ⟨-, first, heard, toldFirst, isPublisher⟩ :=
    (sound.justified echoStart).2.1 _ rfl
  have smaller : first.number < listener.number := by
    apply sound.told_in_order echoStart toldFirst
    exact List.mem_cons_of_mem _ (List.mem_append_right _ List.mem_cons_self)
  refine ⟨outer, publisher, call, room, echo, listener, text, ?_, ?_, ?_, rfl⟩
  · rw [echoStart]
    exact List.mem_append_right _ List.mem_cons_self
  · have isPublisher : first.number = publisher := isPublisher
    exact isPublisher ▸ smaller
  · rw [split]
    exact List.mem_append_right _ toldAfter

/-- What a listener that is not overtaken is told comes in the order in which
the calls started. -/
theorem hearings_ordered (sound : desk.Sound) {number : Nat}
    (kept : ¬Overtaken desk.events number) :
    (hearings number desk.events).Pairwise fun earlier later => earlier.1 < later.1 := by
  rw [hearings, List.pairwise_filterMap, List.pairwise_iff_forall_sublist]
  intro first second sublist hearing isFirst other isSecond
  obtain ⟨front, back, split, among, rest⟩ := List.cons_sublist_iff.mp sublist
  have amongLater : second ∈ back := List.singleton_sublist.mp rest
  cases first with
  | told call listener message =>
      cases second with
      | told later again text =>
          simp only [Event.hearing?, Option.ite_none_right_eq_some, Option.some.injEq]
            at isFirst isSecond
          obtain ⟨same, rfl⟩ := isFirst
          obtain ⟨rfl, rfl⟩ := isSecond
          rcases Nat.lt_trichotomy call later with before | rfl | after
          · exact before
          · exact absurd (sound.told_in_order split among amongLater) (by omega)
          · exact absurd (sound.overtaken_of_told split after among amongLater) kept
      | _ => cases isSecond
  | _ => cases isFirst

/-- What is published comes in the order in which the calls start. -/
theorem publications_ordered (sound : desk.Sound) (channel : Nat) {before after : List (Event κ)}
    (split : desk.events = before ++ after) :
    (publications channel after).Pairwise fun earlier later => earlier.1 < later.1 := by
  apply List.pairwise_map.mp
  apply List.Pairwise.sublist (publications_sublist channel after)
  have ordered : (calls desk.events).Pairwise (· < ·) := by
    rw [show calls desk.events = List.range desk.hall.calls from sound.consistent.called]
    exact List.pairwise_lt_range
  rw [split, calls_append] at ordered
  exact (List.pairwise_append.mp ordered).2.1

/-- A listener is registered once. -/
theorem subscribed_unique (sound : desk.Sound) {before after : List (Event κ)}
    {source : Option Telling} {channel : Nat} {listener : Listener κ}
    (place : desk.events = before ++ .subscribed source channel listener :: after)
    {other : Listener κ} (same : other.number = listener.number) :
    other ∉ subscribers before ∧ other ∉ subscribers after := by
  have distinct := sound.consistent.ordered
  rw [show desk.hall.events = desk.events from rfl, place, subscribers_append,
    List.map_append, List.pairwise_append] at distinct
  obtain ⟨-, later, earlier⟩ := distinct
  constructor
  · intro member
    have less := earlier other.number (List.mem_map_of_mem member) listener.number
      List.mem_cons_self
    omega
  · intro member
    have less := (List.pairwise_cons.mp later).1 other.number (List.mem_map_of_mem member)
    omega

/-- A listener is told by the calls that begin on its channel after its
registration, and by no others. -/
theorem mem_hearings_iff (sound : desk.Sound) {before after : List (Event κ)}
    {source : Option Telling} {channel : Nat} {listener : Listener κ}
    (place : desk.events = before ++ .subscribed source channel listener :: after)
    (call : Nat) (message : String) :
    (call, message) ∈ hearings listener.number desk.events ↔
      (call, message) ∈ publications channel after := by
  rw [mem_hearings, mem_publications]
  constructor
  · rintro ⟨other, told, same⟩
    obtain ⟨front, starter, room, text, back, start, known⟩ := sound.registered_of_told told
    obtain ⟨notBefore, notAfter⟩ := sound.subscribed_unique place same
    have begun : .started starter call room text ∈ desk.events := by
      rw [start]
      exact List.mem_append_right _ List.mem_cons_self
    rw [sound.message_eq told begun]
    -- The listener was registered on one channel, and by then the call had not begun.
    rw [place] at start
    rcases List.append_eq_append_iff.mp start with ⟨gap, isFront, rest⟩ | ⟨gap, isBefore, rest⟩
    · cases gap with
      | nil => cases rest
      | cons first gap =>
          obtain ⟨rfl, isAfter⟩ := List.cons.inj rest
          have isAfter : after = gap ++ .started starter call room text :: back := isAfter
          subst isAfter
          rw [isFront, registered_append] at known
          rcases List.mem_append.mp known with known | known
          · exact absurd (subscribers_of_registered known) notBefore
          · obtain ⟨event, member, registers⟩ := List.mem_filterMap.mp known
            rcases List.mem_cons.mp member with rfl | member
            · obtain ⟨rfl, -⟩ : channel = room ∧ listener = other := by
                simpa [Event.subscriberOf?] using registers
              exact ⟨starter, List.mem_append_right _ List.mem_cons_self⟩
            · refine absurd ?_ notAfter
              rw [subscribers_append]
              apply List.mem_append_left
              exact subscribers_of_registered (List.mem_filterMap.mpr ⟨event, member, registers⟩)
    · refine absurd (subscribers_of_registered known) ?_
      rw [isBefore, subscribers_append] at notBefore
      exact fun member => notBefore (List.mem_append_left _ member)
  · rintro ⟨starter, begun⟩
    obtain ⟨middle, back, rfl⟩ := List.append_of_mem begun
    have start : desk.events = (before ++ .subscribed source channel listener :: middle) ++
        .started starter call channel message :: back := by
      rw [place]
      simp
    have tells : (listener, message) ∈ tellings call desk.events := by
      rw [sound.tellings_eq start, registered_append]
      refine List.mem_map_of_mem (List.mem_append_right _ ?_)
      exact List.mem_filterMap.mpr ⟨_, List.mem_cons_self, by simp [Event.subscriberOf?]⟩
    exact ⟨listener, mem_tellings.mp tells, rfl⟩

/-- A listener that is not overtaken is told what is published on its channel
after its registration, in the order in which those calls start. -/
theorem hearings_eq (sound : desk.Sound) {before after : List (Event κ)}
    {source : Option Telling} {channel : Nat} {listener : Listener κ}
    (place : desk.events = before ++ .subscribed source channel listener :: after)
    (kept : ¬Overtaken desk.events listener.number) :
    hearings listener.number desk.events = publications channel after := by
  have split : desk.events = (before ++ [.subscribed source channel listener]) ++ after := by
    rw [place]
    simp
  apply List.Pairwise.eq_of_mem_iff (sound.hearings_ordered kept)
    (sound.publications_ordered channel split)
  exact fun hearing => sound.mem_hearings_iff place hearing.1 hearing.2

end Sound

/-- Over every run, however listeners publish in turn, a listener that is not
overtaken hears what is published on its channel after its registration, in the
order in which those calls start. Of what it hears, a listener of the channel that
is registered later and is not overtaken either hears the last part. -/
theorem run_hears_in_order (turns : List (Nat × DeskStep κ)) {before after : List (Event κ)}
    {source : Option Telling} {channel : Nat} {listener : Listener κ}
    (place : (initial.run turns).events = before ++ .subscribed source channel listener :: after)
    (kept : ¬Overtaken (initial.run turns).events listener.number) :
    hearings listener.number (initial.run turns).events = publications channel after ∧
      ∀ between starter later rest,
        after = between ++ .subscribed starter channel later :: rest →
        ¬Overtaken (initial.run turns).events later.number →
          received later.number (initial.run turns).events <:+
            received listener.number (initial.run turns).events := by
  have sound : (initial.run turns).Sound := sound_initial.run turns
  generalize initial.run turns = desk at *
  have heard := sound.hearings_eq place kept
  refine ⟨heard, ?_⟩
  rintro between starter later rest rfl keptLater
  have placeLater : desk.events = (before ++ .subscribed source channel listener :: between) ++
      .subscribed starter channel later :: rest := by
    rw [place]
    simp
  rw [← hearings_messages, ← hearings_messages, heard, sound.hearings_eq placeLater keptLater,
    publications_append, List.map_append]
  exact List.suffix_append _ _

/-- A recorder that is registered before a republisher hears in order, and the
republisher hears the last part of that. -/
theorem recorder_before_republisher_hears_in_order :
    hearings 0 (initial.run [(0, .subscribe .record), (0, .subscribe (.republish false)),
        (0, .publish "m")] : Desk).events = [(0, "m"), (1, "re:m")] ∧
      received 1 (initial.run [(0, .subscribe .record), (0, .subscribe (.republish false)),
        (0, .publish "m")] : Desk).events <:+
      received 0 (initial.run [(0, .subscribe .record), (0, .subscribe (.republish false)),
        (0, .publish "m")] : Desk).events := by
  have recorded : (initial.run [(0, .subscribe .record), (0, .subscribe (.republish false)),
      (0, .publish "m")] : Desk).events =
      [.subscribed none 0 ⟨0, .record⟩, .subscribed none 0 ⟨1, .republish false⟩,
        .started none 0 0 "m", .told 0 ⟨0, .record⟩ "m", .told 0 ⟨1, .republish false⟩ "m",
        .started (some ⟨0, 1⟩) 1 0 "re:m", .told 1 ⟨0, .record⟩ "re:m",
        .told 1 ⟨1, .republish false⟩ "re:m", .returned 1, .returned 0] := by
    decide +kernel
  have kept : ∀ number < 2, ¬Overtaken (initial.run [(0, .subscribe .record),
      (0, .subscribe (.republish false)), (0, .publish "m")] : Desk).events number := by
    rintro number small ⟨outer, publisher, call, channel, text, listener, message, begun, less, -⟩
    rw [recorded] at begun
    simp at begun
    omega
  obtain ⟨heard, last⟩ :=
    run_hears_in_order _ (recorded.trans (List.nil_append _).symm) (kept 0 (by decide))
  exact ⟨heard, last [] none ⟨1, .republish false⟩ _ rfl (kept 1 (by decide))⟩

/-- A recorder that is registered after a republisher hears the republished
message before the message itself, so what it hears is no last part of what the
republisher hears. -/
theorem recorder_after_republisher_hears_out_of_order :
    received 0 (initial.run [(0, .subscribe (.republish false)), (0, .subscribe .record),
        (0, .publish "m")] : Desk).events = ["m", "re:m"] ∧
      received 1 (initial.run [(0, .subscribe (.republish false)), (0, .subscribe .record),
        (0, .publish "m")] : Desk).events = ["re:m", "m"] ∧
      publications 0 (initial.run [(0, .subscribe (.republish false)), (0, .subscribe .record),
        (0, .publish "m")] : Desk).events = [(0, "m"), (1, "re:m")] := by
  decide +kernel

end Desk

end LuaSession
