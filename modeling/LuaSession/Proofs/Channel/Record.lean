import LuaSession.Channel

/-!
# Reading the record of a board

The record of a board says in order what happened. Who is registered where, what
a call told, what a listener did and what the host did are all read off the
events. An event is justified when it agrees with the events before it and is
answered as it has to be by those after it; a sound record has no other events.
-/

namespace LuaSession

variable {κ : Type}

/-! ## Views of events -/

/-- The listener that an event registers on a channel. -/
def Event.subscriberOf? (channel : Nat) : Event κ → Option (Listener κ)
  | .subscribed _ place listener => if place = channel then some listener else none
  | _ => none

/-- The listener that an event registers on some channel. -/
def Event.subscriber? : Event κ → Option (Listener κ)
  | .subscribed _ _ listener => some listener
  | _ => none

/-- The call that an event begins. -/
def Event.begun? : Event κ → Option Nat
  | .started _ call _ _ => some call
  | _ => none

/-- The listener, with its message, that an event tells for a call. -/
def Event.toldBy? (call : Nat) : Event κ → Option (Listener κ × String)
  | .told number listener message => if number = call then some (listener, message) else none
  | _ => none

/-- The telling at which a listener does what an event says. -/
def Event.source? : Event κ → Option Telling
  | .subscribed source _ _ => source
  | .started source _ _ _ => source
  | .told _ _ _ => none
  | .counted source _ _ => some source
  | .panicked source => some source
  | .refused source _ => some source
  | .returned _ => none

/-- The act that an event carries out. -/
def Event.act? : Event κ → Option (Act κ)
  | .subscribed _ _ listener => some (.subscribe listener.kind)
  | .started _ _ _ message => some (.publish message)
  | .told _ _ _ => none
  | .counted _ _ _ => some .noteCount
  | .panicked _ => some .panic
  | .refused _ message => some (.publish message)
  | .returned _ => none

/-- Does an event tell a listener something? -/
def Event.tells (number : Nat) : Event κ → Bool
  | .told _ listener _ => listener.number == number
  | _ => false

/-- The listeners registered on a channel, in the order of their registration. -/
def registered (channel : Nat) (events : List (Event κ)) : List (Listener κ) :=
  events.filterMap (Event.subscriberOf? channel)

/-- The listeners registered on any channel. -/
def subscribers (events : List (Event κ)) : List (Listener κ) := events.filterMap Event.subscriber?

/-- The calls that have begun. -/
def calls (events : List (Event κ)) : List Nat := events.filterMap Event.begun?

/-- Whom a call told, and what. -/
def tellings (call : Nat) (events : List (Event κ)) : List (Listener κ × String) :=
  events.filterMap (Event.toldBy? call)

/-- How often a listener was told something. -/
def timesTold (number : Nat) (events : List (Event κ)) : Nat := events.countP (Event.tells number)

/-- What a listener did at a telling, or the host did without one. -/
def deeds (source : Option Telling) (events : List (Event κ)) : List (Act κ) :=
  events.filterMap fun event => if event.source? = source then event.act? else none

/-- A call has begun on a channel. -/
def RunsOn (events : List (Event κ)) (call channel : Nat) : Prop :=
  ∃ source message, .started source call channel message ∈ events

/-- A listener is told something by a call that has begun on a channel. -/
def IsTold (events : List (Event κ)) (telling : Telling) (channel : Nat) : Prop :=
  RunsOn events telling.call channel ∧
    ∃ listener message, .told telling.call listener message ∈ events ∧
      listener.number = telling.listener

/-- How deep a source is nested: a listener is one call deeper than the source of
the call that tells it. -/
inductive Nests (events : List (Event κ)) : (level : Nat) → Option Telling → Prop where
  | host : Nests events 0 none
  | listener {level : Nat} {source : Option Telling} {call channel : Nat} {message : String}
      (number : Nat) (begun : .started source call channel message ∈ events)
      (outer : Nests events level source) : Nests events (level + 1) (some ⟨call, number⟩)

/-- The acts of a reaction that happen: those up to the first panic. -/
def performed : List (Act κ) → List (Act κ)
  | [] => []
  | .panic :: _ => [.panic]
  | act :: acts => act :: performed acts

/-! ## How views grow -/

@[simp] theorem registered_nil (channel : Nat) : registered channel ([] : List (Event κ)) = [] :=
  rfl

@[simp] theorem registered_append (channel : Nat) (front back : List (Event κ)) :
    registered channel (front ++ back) = registered channel front ++ registered channel back :=
  List.filterMap_append

@[simp] theorem subscribers_append (front back : List (Event κ)) :
    subscribers (front ++ back) = subscribers front ++ subscribers back :=
  List.filterMap_append

@[simp] theorem calls_append (front back : List (Event κ)) :
    calls (front ++ back) = calls front ++ calls back :=
  List.filterMap_append

@[simp] theorem tellings_append (call : Nat) (front back : List (Event κ)) :
    tellings call (front ++ back) = tellings call front ++ tellings call back :=
  List.filterMap_append

theorem tellings_cons_of_none {call : Nat} {event : Event κ} {events : List (Event κ)}
    (silent : event.toldBy? call = none) :
    tellings call (event :: events) = tellings call events :=
  List.filterMap_cons_none silent

@[simp] theorem timesTold_append (number : Nat) (front back : List (Event κ)) :
    timesTold number (front ++ back) = timesTold number front + timesTold number back :=
  List.countP_append

@[simp] theorem deeds_append (source : Option Telling) (front back : List (Event κ)) :
    deeds source (front ++ back) = deeds source front ++ deeds source back :=
  List.filterMap_append

theorem RunsOn.append {events : List (Event κ)} {call channel : Nat}
    (runsOn : RunsOn events call channel) (more : List (Event κ)) :
    RunsOn (events ++ more) call channel := by
  obtain ⟨source, message, member⟩ := runsOn
  exact ⟨source, message, List.mem_append_left more member⟩

theorem IsTold.append {events : List (Event κ)} {telling : Telling} {channel : Nat}
    (isTold : IsTold events telling channel) (more : List (Event κ)) :
    IsTold (events ++ more) telling channel := by
  obtain ⟨runsOn, listener, message, member, number⟩ := isTold
  exact ⟨runsOn.append more, listener, message, List.mem_append_left more member, number⟩

theorem Nests.append {events : List (Event κ)} {level : Nat} {source : Option Telling}
    (nests : Nests events level source) (more : List (Event κ)) :
    Nests (events ++ more) level source := by
  induction nests with
  | host => exact .host
  | listener number begun _ ih => exact .listener number (List.mem_append_left more begun) ih

/-- A call that runs has begun. -/
theorem RunsOn.mem_calls {events : List (Event κ)} {call channel : Nat}
    (runsOn : RunsOn events call channel) : call ∈ calls events := by
  obtain ⟨source, message, member⟩ := runsOn
  exact List.mem_filterMap.mpr ⟨_, member, rfl⟩

/-- A call tells nothing where no event tells something for it. -/
theorem tellings_eq_nil {call : Nat} {events : List (Event κ)}
    (silent : ∀ listener message, .told call listener message ∉ events) :
    tellings call events = [] := by
  apply List.filterMap_eq_nil_iff.mpr
  intro event member
  cases event with
  | told number listener message =>
      have other : number ≠ call := by
        intro same
        exact silent listener message (same ▸ member)
      simp [Event.toldBy?, other]
  | _ => rfl

/-- Nothing is done from a source where nothing is done that has this source. -/
theorem deeds_eq_nil {source : Option Telling} {events : List (Event κ)}
    (idle : ∀ event ∈ events, event.act? ≠ none → event.source? ≠ source) :
    deeds source events = [] := by
  apply List.filterMap_eq_nil_iff.mpr
  intro event member
  by_cases acts : event.act? = none
  · rw [acts, ite_self]
  · rw [if_neg (idle event member acts)]

theorem mem_of_mem_performed {act : Act κ} {acts : List (Act κ)} (member : act ∈ performed acts) :
    act ∈ acts := by
  induction acts with
  | nil => exact member
  | cons first acts ih =>
      cases first with
      | panic =>
          rw [List.mem_singleton.mp member]
          exact List.mem_cons_self
      | _ =>
          rcases List.mem_cons.mp member with rfl | member
          · exact List.mem_cons_self
          · exact List.mem_cons_of_mem _ (ih member)

/-! ## Justified events -/

variable [Audience κ]

/-- An event agrees with the events before it and is answered by those after it.

A call returns, and tells its message to the listeners that were registered when
it began, in their order and to nobody else. A listener acts only when it is told
something, and on the channel where it is told: it does what its kind does, up to
a panic, and has done none of it before. Only a listener that is nested as deep as
listeners may publish is refused to. -/
def Event.Justified (before after : List (Event κ)) : Event κ → Prop
  | .subscribed source channel listener =>
      (∀ other ∈ subscribers before, other.number < listener.number) ∧
        ∀ telling, source = some telling → IsTold before telling channel
  | .started source call channel message =>
      call = (calls before).length ∧
        (∀ telling, source = some telling → IsTold before telling channel) ∧
        tellings call before = [] ∧
        ∃ body later, after = body ++ .returned call :: later ∧
          tellings call body = (registered channel before).map (·, message) ∧
          tellings call later = []
  | .told call listener message =>
      (∃ channel, RunsOn before call channel) ∧
        deeds (some ⟨call, listener.number⟩) before = [] ∧
        deeds (some ⟨call, listener.number⟩) after =
          performed (Audience.react listener.kind (timesTold listener.number before) message)
  | .counted source channel count =>
      IsTold before source channel ∧ count = (registered channel before).length
  | .panicked source => ∃ channel, IsTold before source channel
  | .refused source _ =>
      (∃ channel, IsTold before source channel) ∧
        Nests before (Audience.depth κ + 1) (some source)
  | .returned _ => True

/-- Whoever acts is told something. -/
theorem Event.Justified.isTold {before after : List (Event κ)} {event : Event κ}
    (justified : event.Justified before after) {telling : Telling}
    (isSource : event.source? = some telling) : ∃ channel, IsTold before telling channel := by
  cases event with
  | subscribed source channel listener => exact ⟨channel, justified.2 telling isSource⟩
  | started source call channel message => exact ⟨channel, justified.2.1 telling isSource⟩
  | told call listener message => cases isSource
  | counted source channel count =>
      cases isSource
      exact ⟨channel, justified.1⟩
  | panicked source =>
      cases isSource
      exact justified
  | refused source message =>
      cases isSource
      exact justified.1
  | returned call => cases isSource

/-- Every one of the events that follow earlier ones is justified. -/
def SoundAfter : (earlier : List (Event κ)) → List (Event κ) → Prop
  | _, [] => True
  | earlier, event :: events =>
      event.Justified earlier events ∧ SoundAfter (earlier ++ [event]) events

/-- Further events do not take up what an event has settled. -/
def Event.Undisturbed (more : List (Event κ)) : Event κ → Prop
  | .started _ call _ _ => tellings call more = []
  | .told call listener _ => deeds (some ⟨call, listener.number⟩) more = []
  | _ => True

theorem Event.Justified.append {before after more : List (Event κ)} {event : Event κ}
    (justified : event.Justified before after) (undisturbed : event.Undisturbed more) :
    event.Justified before (after ++ more) := by
  cases event with
  | started source call channel message =>
      obtain ⟨numbered, isTold, untold, body, later, same, told, silent⟩ := justified
      refine ⟨numbered, isTold, untold, body, later ++ more, ?_, told, ?_⟩
      · rw [same, List.append_assoc, List.cons_append]
      · rw [tellings_append, silent, List.nil_append]
        exact undisturbed
  | told call listener message =>
      obtain ⟨runsOn, idle, done⟩ := justified
      refine ⟨runsOn, idle, ?_⟩
      rw [deeds_append, done, show deeds _ more = [] from undisturbed, List.append_nil]
  | _ => exact justified

theorem SoundAfter.append {earlier front back : List (Event κ)}
    (frontSound : SoundAfter earlier front) (backSound : SoundAfter (earlier ++ front) back)
    (undisturbed : ∀ event ∈ front, event.Undisturbed back) :
    SoundAfter earlier (front ++ back) := by
  induction front generalizing earlier with
  | nil => simpa using backSound
  | cons event front ih =>
      obtain ⟨justified, rest⟩ := frontSound
      refine ⟨justified.append (undisturbed event List.mem_cons_self), ih rest ?_ ?_⟩
      · simpa using backSound
      · exact fun other member => undisturbed other (List.mem_cons_of_mem event member)

/-- What soundness says at each place. -/
theorem SoundAfter.justified {earlier before after : List (Event κ)} {event : Event κ}
    (sound : SoundAfter earlier (before ++ event :: after)) :
    event.Justified (earlier ++ before) after := by
  induction before generalizing earlier with
  | nil => simpa using sound.1
  | cons first before ih => simpa using ih sound.2

end LuaSession
