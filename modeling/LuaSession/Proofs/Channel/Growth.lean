import LuaSession.Proofs.Channel.Consistent

/-!
# How a record grows

While a call runs, the record grows by a stretch of events. A stretch may go on
with tellings that began before it, and all else in it belongs to calls that
begin in it. Stretches that keep out of each other's tellings can be put
together, and the events of the whole are justified if those of its parts are.

Calls are nested in the record as they are on the machine: between the beginning
of a call and its return, only listeners act that the call or a later one tells.
-/

namespace LuaSession

variable {κ : Type}

/-- A source is a telling by a call with at least the given number. -/
def Late (calls : Nat) : Option Telling → Prop
  | none => False
  | some telling => calls ≤ telling.call

/-- What is later than many calls is later than fewer. -/
theorem Late.of_le {few many : Nat} {source : Option Telling} (fewer : few ≤ many)
    (late : Late many source) : Late few source := by
  cases source with
  | none => exact late
  | some telling => exact Nat.le_trans fewer late

/-- What follows the beginning of a call: it returns and tells nothing more, and
until then whoever acts is told by the call or by a later one. -/
def Enclosed (call : Nat) (after : List (Event κ)) : Prop :=
  ∃ body later, after = body ++ .returned call :: later ∧
    (∀ event ∈ body, event.act? ≠ none → Late call event.source?) ∧ tellings call later = []

/-- Every call that begins encloses what happens until it returns. -/
def WellNested (events : List (Event κ)) : Prop :=
  ∀ before source call channel message after,
    events = before ++ .started source call channel message :: after → Enclosed call after

theorem wellNested_nil : WellNested ([] : List (Event κ)) := by
  intro before source call channel message after same
  simp at same

/-- A call stays enclosed when it tells nothing in what is appended. -/
theorem Enclosed.append {call : Nat} {after more : List (Event κ)} (enclosed : Enclosed call after)
    (silent : tellings call more = []) : Enclosed call (after ++ more) := by
  obtain ⟨body, later, rfl, within, untold⟩ := enclosed
  refine ⟨body, later ++ more, ?_, within, ?_⟩
  · rw [List.append_assoc, List.cons_append]
  · rw [tellings_append, untold, silent, List.append_nil]

theorem WellNested.cons {event : Event κ} {events : List (Event κ)} (nested : WellNested events)
    (encloses : ∀ source call channel message,
      event = .started source call channel message → Enclosed call events) :
    WellNested (event :: events) := by
  intro before source call channel message after same
  cases before with
  | nil =>
      obtain ⟨rfl, rfl⟩ := List.cons.inj same
      exact encloses source call channel message rfl
  | cons first before => exact nested before source call channel message after (List.cons.inj same).2

theorem WellNested.append {front back : List (Event κ)} (first : WellNested front)
    (second : WellNested back) (silent : ∀ call ∈ calls front, tellings call back = []) :
    WellNested (front ++ back) := by
  induction front with
  | nil => exact second
  | cons event front ih =>
      have rest : WellNested (front ++ back) := by
        apply ih
        · intro before source call channel message after same
          exact first (event :: before) source call channel message after
            (congrArg (event :: ·) same)
        · intro call member
          apply silent
          rw [← List.singleton_append, calls_append]
          exact List.mem_append_right _ member
      apply rest.cons
      rintro source call channel message rfl
      apply Enclosed.append (first [] source call channel message front rfl)
      exact silent call List.mem_cons_self

namespace Board

variable [Audience κ]

/-- A board has grown by a stretch of events. Of earlier calls' business, the
stretch has only the given tellings and what was done from the given sources. -/
structure Grows (tells : Telling → Prop) (acts : Option Telling → Prop) (board : Board κ)
    (news : List (Event κ)) (grown : Board κ) : Prop where
  consistent : grown.Consistent
  recorded : grown.events = board.events ++ news
  channels : grown.channels.size = board.channels.size
  numbers : board.told.size ≤ grown.told.size
  later : board.calls ≤ grown.calls
  sound : SoundAfter board.events news
  nested : WellNested news
  beginsLate : ∀ call ∈ LuaSession.calls news, board.calls ≤ call
  tellsLate : ∀ call listener message, .told call listener message ∈ news →
    board.calls ≤ call ∨ tells ⟨call, listener.number⟩
  actsLate : ∀ event ∈ news, event.act? ≠ none →
    Late board.calls event.source? ∨ acts event.source?

namespace Grows

variable {tells moreTells : Telling → Prop} {acts moreActs : Option Telling → Prop}
  {board between grown : Board κ} {news more : List (Event κ)}

/-- Without events a board stays as it is. -/
theorem refl (consistent : board.Consistent) : Grows tells acts board [] board where
  consistent := consistent
  recorded := (List.append_nil _).symm
  channels := rfl
  numbers := Nat.le_refl _
  later := Nat.le_refl _
  sound := trivial
  nested := wellNested_nil
  beginsLate := by simp [LuaSession.calls]
  tellsLate := by simp
  actsLate := by simp

theorem mono (grows : Grows tells acts board news grown)
    (tellsMore : ∀ telling, tells telling → moreTells telling)
    (actsMore : ∀ source, acts source → moreActs source) :
    Grows moreTells moreActs board news grown where
  consistent := grows.consistent
  recorded := grows.recorded
  channels := grows.channels
  numbers := grows.numbers
  later := grows.later
  sound := grows.sound
  nested := grows.nested
  beginsLate := grows.beginsLate
  tellsLate := by
    intro call listener message member
    exact (grows.tellsLate call listener message member).imp_right (tellsMore _)
  actsLate := by
    intro event member act
    exact (grows.actsLate event member act).imp_right (actsMore _)

/-- A call that began before a stretch and has no tellings in it tells nothing
there. -/
theorem tellings_eq_nil (grows : Grows tells acts board news grown) {call : Nat}
    (early : call < board.calls)
    (others : ∀ telling, tells telling → telling.call ≠ call) : tellings call news = [] := by
  apply LuaSession.tellings_eq_nil
  intro listener message member
  rcases grows.tellsLate call listener message member with late | given
  · omega
  · exact others _ given rfl

/-- A source that is not late and not among the given ones does nothing in a
stretch. -/
theorem deeds_eq_nil (grows : Grows tells acts board news grown) {source : Option Telling}
    (early : ¬Late board.calls source) (others : ¬acts source) : deeds source news = [] := by
  apply LuaSession.deeds_eq_nil
  intro event member act same
  rcases grows.actsLate event member act with late | given
  · exact early (same ▸ late)
  · exact others (same ▸ given)

/-- What happened before a stretch is left undisturbed, if the stretch goes on
with no telling of its own and of no call of its own. -/
theorem undisturbed (grows : Grows tells acts board news grown) (consistent : board.Consistent)
    {event : Event κ} (member : event ∈ board.events)
    (callsApart : ∀ telling, tells telling → event.begun? ≠ some telling.call)
    (tellingsApart : ∀ telling, acts (some telling) → ∀ listener message,
      event = .told telling.call listener message → listener.number ≠ telling.listener) :
    event.Undisturbed news := by
  cases event with
  | started source call channel message =>
      apply grows.tellings_eq_nil (consistent.runsOn_lt ⟨source, message, member⟩)
      rintro telling given rfl
      exact callsApart telling given rfl
  | told call listener message =>
      apply grows.deeds_eq_nil
      · exact Nat.not_le_of_lt (consistent.tellingBegun call listener message member)
      · intro given
        exact tellingsApart _ given listener message rfl rfl
  | _ => trivial

/-- Two stretches in a row are a stretch. -/
theorem append (first : Grows tells acts board news between)
    (second : Grows moreTells moreActs between more grown)
    (tellsEarly : ∀ telling, moreTells telling → telling.call < board.calls)
    (actsApart : ∀ telling, moreActs (some telling) →
      telling.call < board.calls ∧ ¬tells telling) :
    Grows (fun telling => tells telling ∨ moreTells telling)
      (fun source => acts source ∨ moreActs source) board (news ++ more) grown where
  consistent := second.consistent
  recorded := by rw [second.recorded, first.recorded, List.append_assoc]
  channels := second.channels.trans first.channels
  numbers := Nat.le_trans first.numbers second.numbers
  later := Nat.le_trans first.later second.later
  sound := by
    apply first.sound.append
    · rw [← first.recorded]
      exact second.sound
    · intro event member
      have recorded : event ∈ between.events := by
        rw [first.recorded]
        exact List.mem_append_right _ member
      apply second.undisturbed first.consistent recorded
      · intro telling given begun
        exact Nat.not_le_of_lt (tellsEarly telling given)
          (first.beginsLate _ (List.mem_filterMap.mpr ⟨event, member, begun⟩))
      · rintro telling given listener message rfl same
        obtain ⟨early, apart⟩ := actsApart telling given
        rcases first.tellsLate _ listener message member with late | told
        · exact Nat.not_le_of_lt early late
        · rw [same] at told
          exact apart told
  nested := by
    apply first.nested.append second.nested
    intro call member
    have begun : call < between.calls := by
      apply List.mem_range.mp
      rw [← first.consistent.called, first.recorded, calls_append]
      exact List.mem_append_right _ member
    apply second.tellings_eq_nil begun
    rintro telling given rfl
    exact Nat.not_le_of_lt (tellsEarly telling given) (first.beginsLate _ member)
  beginsLate := by
    intro call member
    rw [calls_append] at member
    rcases List.mem_append.mp member with member | member
    · exact first.beginsLate call member
    · exact Nat.le_trans first.later (second.beginsLate call member)
  tellsLate := by
    intro call listener message member
    rcases List.mem_append.mp member with member | member
    · exact (first.tellsLate call listener message member).imp_right .inl
    · rcases second.tellsLate call listener message member with late | given
      · exact .inl (Nat.le_trans first.later late)
      · exact .inr (.inr given)
  actsLate := by
    intro event member act
    rcases List.mem_append.mp member with member | member
    · exact (first.actsLate event member act).imp_right .inl
    · rcases second.actsLate event member act with late | given
      · exact .inl (late.of_le first.later)
      · exact .inr (.inr given)

/-- A sound record stays sound when the host makes it grow. -/
theorem sound_events (grows : Grows (fun _ => False) (· = none) board news grown)
    (consistent : board.Consistent) (sound : SoundAfter [] board.events) :
    SoundAfter [] grown.events := by
  rw [grows.recorded]
  apply sound.append grows.sound
  intro event member
  exact grows.undisturbed consistent member (fun _ given => given.elim) (by simp)

/-- Calls stay nested when the host makes a record grow. -/
theorem nested_events (grows : Grows (fun _ => False) (· = none) board news grown)
    (consistent : board.Consistent) (nested : WellNested board.events) :
    WellNested grown.events := by
  rw [grows.recorded]
  apply nested.append grows.nested
  intro call member
  apply grows.tellings_eq_nil
  · rw [consistent.called] at member
    exact List.mem_range.mp member
  · exact fun _ given => given.elim

/-- A stretch can be opened by an event that it justifies, and that lets it take
up the tellings of a call that is later for the board before. -/
theorem cons {event : Event κ} (rest : Grows tells acts between news grown)
    (recorded : between.events = board.events ++ [event])
    (channels : between.channels.size = board.channels.size)
    (numbers : board.told.size ≤ between.told.size) (later : board.calls ≤ between.calls)
    (justified : event.Justified board.events news)
    (encloses : ∀ source call channel message,
      event = .started source call channel message → Enclosed call news)
    (beginsLate : ∀ call, event.begun? = some call → board.calls ≤ call)
    (tellsLate : ∀ telling, (∃ listener message, event = .told telling.call listener message ∧
      listener.number = telling.listener) ∨ tells telling →
        board.calls ≤ telling.call ∨ moreTells telling)
    (actsLate : ∀ source, (event.act? ≠ none ∧ event.source? = source) ∨ acts source →
      Late board.calls source ∨ moreActs source) :
    Grows moreTells moreActs board (event :: news) grown where
  consistent := rest.consistent
  recorded := by rw [rest.recorded, recorded, List.append_assoc, List.singleton_append]
  channels := rest.channels.trans channels
  numbers := Nat.le_trans numbers rest.numbers
  later := Nat.le_trans later rest.later
  sound := ⟨justified, recorded ▸ rest.sound⟩
  nested := rest.nested.cons encloses
  beginsLate := by
    intro call member
    rcases List.mem_filterMap.mp member with ⟨other, member, begun⟩
    rcases List.mem_cons.mp member with rfl | member
    · exact beginsLate call begun
    · exact Nat.le_trans later
        (rest.beginsLate call (List.mem_filterMap.mpr ⟨other, member, begun⟩))
  tellsLate := by
    intro call listener message member
    rcases List.mem_cons.mp member with same | member
    · exact tellsLate ⟨call, listener.number⟩ (.inl ⟨listener, message, same.symm, rfl⟩)
    · rcases rest.tellsLate call listener message member with late | given
      · exact .inl (Nat.le_trans later late)
      · exact tellsLate _ (.inr given)
  actsLate := by
    intro other member act
    rcases List.mem_cons.mp member with rfl | member
    · exact actsLate _ (.inl ⟨act, rfl⟩)
    · rcases rest.actsLate other member act with late | given
      · exact .inl (late.of_le later)
      · exact actsLate _ (.inr given)

/-- A justified event by itself, from a given source. -/
theorem single {event : Event κ} {source : Option Telling} (consistent : grown.Consistent)
    (recorded : grown.events = board.events ++ [event])
    (channels : grown.channels.size = board.channels.size)
    (numbers : board.told.size ≤ grown.told.size) (later : board.calls ≤ grown.calls)
    (justified : event.Justified board.events []) (notBegun : event.begun? = none)
    (notTold : ∀ call listener message, event ≠ .told call listener message)
    (isSource : event.act? ≠ none → event.source? = source) :
    Grows (fun _ => False) (· = source) board [event] grown := by
  apply cons (refl consistent : Grows (fun _ => False) (fun _ => False) grown [] grown)
    recorded channels numbers later justified
  · rintro source call channel message rfl
    cases notBegun
  · intro call begun
    rw [notBegun] at begun
    cases begun
  · rintro telling (⟨listener, message, told, _⟩ | given)
    · exact absurd told (notTold _ _ _)
    · exact given.elim
  · rintro other (⟨act, same⟩ | given)
    · exact .inr (same ▸ isSource act)
    · exact given.elim

/-- Noting something. -/
theorem note {event : Event κ} {source : Option Telling} (consistent : board.Consistent)
    (isRemark : event.IsRemark)
    (begun : ∀ telling, event.source? = some telling → telling.call < board.calls)
    (justified : event.Justified board.events [])
    (isSource : event.act? ≠ none → event.source? = source) :
    Grows (fun _ => False) (· = source) board [event] (board.note event) := by
  apply single (consistent.note isRemark begun) (events_note board event) rfl (Nat.le_refl _)
    (Nat.le_refl _) justified
  · cases event <;> first | rfl | exact isRemark.elim
  · rintro call listener message rfl
    exact isRemark
  · exact isSource

/-- Registering a listener. -/
theorem subscribe (consistent : board.Consistent) {channel : Nat}
    (isOpen : channel < board.channels.size) (kind : κ) {source : Option Telling}
    (isTold : ∀ telling, source = some telling → IsTold board.events telling channel) :
    Grows (fun _ => False) (· = source) board
      [.subscribed source channel ⟨board.told.size, kind⟩]
      (board.subscribe channel kind source) := by
  apply single
  case consistent =>
    apply consistent.subscribe isOpen
    exact fun telling same => consistent.runsOn_lt (isTold telling same).1
  case recorded => exact events_subscribe board channel kind source
  case justified =>
    exact ⟨consistent.given, isTold⟩
  case isSource => exact fun _ => rfl
  all_goals simp [Board.subscribe, Board.note, Event.begun?]

end Grows

end Board

end LuaSession
