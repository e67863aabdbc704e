import LuaSession.Proofs.Channel.Growth

/-!
# Publishing

A call that publishes makes the record grow by a stretch from its beginning to
its return, in which it tells each listener registered at the start exactly
once. The listeners' own calls are stretches within it, down to any depth.
-/

namespace LuaSession.Board

variable {κ : Type}

/-- What is needed of a board to work on a channel for a source at some level. -/
structure Ready (board : Board κ) (channel : Nat) (source : Option Telling) (level : Nat) :
    Prop where
  consistent : board.Consistent
  isOpen : channel < board.channels.size
  isTold : ∀ telling, source = some telling → IsTold board.events telling channel
  nests : Nests board.events level source

/-- What is needed of a board where a call tells listeners of a channel. -/
structure Running (board : Board κ) (channel call level : Nat) : Prop where
  consistent : board.Consistent
  isOpen : channel < board.channels.size
  runsOn : RunsOn board.events call channel
  nests : ∀ number, Nests board.events level (some ⟨call, number⟩)

namespace Ready

variable {tells : Telling → Prop} {acts : Option Telling → Prop}
  {board grown : Board κ} {news : List (Event κ)} {channel level : Nat} {source : Option Telling}

/-- The source's call has begun. -/
theorem begun (ready : board.Ready channel source level) (telling : Telling)
    (same : source = some telling) : telling.call < board.calls :=
  ready.consistent.runsOn_lt (ready.isTold telling same).1

/-- A source has begun before anything that is later. -/
theorem not_late (ready : board.Ready channel source level) : ¬Late board.calls source := by
  cases source with
  | none => exact id
  | some telling => exact Nat.not_le_of_lt (ready.begun telling rfl)

variable [Audience κ]

/-- A board stays ready when it grows. -/
theorem grows (ready : board.Ready channel source level)
    (grows : Grows tells acts board news grown) : grown.Ready channel source level where
  consistent := grows.consistent
  isOpen := grows.channels ▸ ready.isOpen
  isTold := by
    intro telling same
    rw [grows.recorded]
    exact (ready.isTold telling same).append news
  nests := by
    rw [grows.recorded]
    exact ready.nests.append news

end Ready

namespace Running

variable {tells : Telling → Prop} {acts : Option Telling → Prop}
  {board grown : Board κ} {news : List (Event κ)} {channel call level : Nat}

theorem begun (running : board.Running channel call level) : call < board.calls :=
  running.consistent.runsOn_lt running.runsOn

/-- Once a listener of the call has its message, it can act. -/
theorem hand (running : board.Running channel call level) {listener : Listener κ}
    (known : listener.number < board.told.size) (message : String) :
    (board.hand call listener message).Ready channel (some ⟨call, listener.number⟩) level where
  consistent := running.consistent.hand running.begun known message
  isOpen := running.isOpen
  isTold := by
    intro telling same
    cases same
    rw [events_hand]
    exact ⟨running.runsOn.append _, listener, message,
      List.mem_append_right _ List.mem_cons_self, rfl⟩
  nests := by
    rw [events_hand]
    exact (running.nests listener.number).append _

variable [Audience κ]

/-- A call goes on when the board grows. -/
theorem grows (running : board.Running channel call level)
    (grows : Grows tells acts board news grown) : grown.Running channel call level where
  consistent := grows.consistent
  isOpen := grows.channels ▸ running.isOpen
  runsOn := by
    rw [grows.recorded]
    exact running.runsOn.append news
  nests := by
    intro number
    rw [grows.recorded]
    exact (running.nests number).append news

end Running

variable [Audience κ]

/-- A way to publish on behalf of a listener records just that, whether or not
the listener may publish. -/
def Publishes (nested : Board κ → String → Board κ) (channel : Nat) (source : Telling)
    (level : Nat) : Prop :=
  ∀ board message, board.Ready channel (some source) level →
    ∃ news, Grows (fun _ => False) (· = some source) board news (nested board message) ∧
      deeds (some source) news = [.publish message]

/-- Performing acts records them up to the first panic, which is not recorded
before it is caught. -/
theorem perform_grows {nested : Board κ → String → Board κ} {channel level : Nat}
    {source : Telling} (publishes : Publishes nested channel source level)
    (acts : List (Act κ)) :
    ∀ board : Board κ, board.Ready channel (some source) level →
      ∃ news, Grows (fun _ => False) (· = some source) board news
          (perform nested channel source board acts).1 ∧
        deeds (some source) news ++
            (if (perform nested channel source board acts).2 then [.panic] else []) =
          performed acts := by
  induction acts with
  | nil =>
      intro board ready
      exact ⟨[], .refl ready.consistent, rfl⟩
  | cons act acts ih =>
      intro board ready
      -- An act that does not panic is followed by the others.
      have goOn : ∀ (news : List (Event κ)) (grown : Board κ),
          Grows (fun _ => False) (· = some source) board news grown →
          deeds (some source) news = [act] →
          ∃ news, Grows (fun _ => False) (· = some source) board news
              (perform nested channel source grown acts).1 ∧
            deeds (some source) news ++
                (if (perform nested channel source grown acts).2 then [.panic] else []) =
              act :: performed acts := by
        intro news grown grows done
        obtain ⟨more, others, doneLater⟩ := ih grown (ready.grows grows)
        have both := grows.append others (fun _ given => given.elim) fun telling same =>
          ⟨ready.begun telling same.symm, id⟩
        refine ⟨news ++ more, both.mono (by simp) (by simp), ?_⟩
        rw [deeds_append, done, List.append_assoc, doneLater, List.singleton_append]
      cases act with
      | subscribe kind =>
          apply goOn _ _ (.subscribe ready.consistent ready.isOpen kind ready.isTold)
          simp [deeds, Event.source?, Event.act?]
      | publish message =>
          obtain ⟨news, grows, done⟩ := publishes board message ready
          exact goOn news _ grows done
      | noteCount =>
          have counted : Event.Justified board.events []
              (.counted source channel (board.count channel)) := by
            refine ⟨ready.isTold source rfl, ?_⟩
            rw [← ready.consistent.registered channel]
            simp [count]
          have isRemark : Event.IsRemark
              (.counted source channel (board.count channel) : Event κ) := trivial
          apply goOn _ _ (.note ready.consistent isRemark ready.begun counted fun _ => rfl)
          simp [deeds, Event.source?, Event.act?]
      | panic => exact ⟨[], .refl ready.consistent, rfl⟩

/-- Telling a listener records one telling and, after it, what the listener
does then. -/
theorem tell_grows {nested : Telling → Board κ → String → Board κ} {channel level call : Nat}
    {listener : Listener κ} (publishes : Publishes (nested ⟨call, listener.number⟩) channel
      ⟨call, listener.number⟩ level) {board : Board κ} (message : String)
    (running : board.Running channel call level)
    (known : listener.number < board.told.size)
    (idle : deeds (some ⟨call, listener.number⟩) board.events = []) :
    ∃ news, Grows (· = ⟨call, listener.number⟩) (· = some ⟨call, listener.number⟩) board news
        (tell nested channel call message board listener) ∧
      tellings call news = [(listener, message)] := by
  have begun : call < board.calls := running.begun
  have handed := running.hand known message
  -- What is recorded after the telling: the acts of the reaction, with its panic.
  have reacted : ∃ news, Grows (fun _ => False) (· = some ⟨call, listener.number⟩)
        (board.hand call listener message) news
        (tell nested channel call message board listener) ∧
      deeds (some ⟨call, listener.number⟩) news =
        performed (Audience.react listener.kind (timesTold listener.number board.events)
          message) := by
    obtain ⟨news, grows, done⟩ := perform_grows publishes
      (Audience.react listener.kind (timesTold listener.number board.events) message) _ handed
    rw [tell, running.consistent.told]
    generalize perform _ _ _ _ _ = performed at grows done ⊢
    obtain ⟨after, hasPanicked⟩ := performed
    cases hasPanicked with
    | false => exact ⟨news, grows, by simpa using done⟩
    | true =>
        have isRemark : Event.IsRemark
            (.panicked ⟨call, listener.number⟩ : Event κ) := trivial
        have panicked := Grows.note (handed.grows grows).consistent isRemark
          (handed.grows grows).begun ⟨channel, (handed.grows grows).isTold _ rfl⟩ fun _ => rfl
        have both := grows.append panicked (fun _ given => given.elim) fun telling same =>
          ⟨handed.begun telling same.symm, id⟩
        refine ⟨news ++ [.panicked ⟨call, listener.number⟩],
          both.mono (by simp) (by simp [Event.source?]), ?_⟩
        rw [deeds_append, ← done]
        simp [deeds, Event.source?, Event.act?]
  obtain ⟨news, grows, done⟩ := reacted
  have justified : Event.Justified board.events news (.told call listener message) :=
    ⟨⟨channel, running.runsOn⟩, idle, done⟩
  refine ⟨.told call listener message :: news, ?_, ?_⟩
  · apply grows.cons (events_hand board call listener message) rfl _ (Nat.le_refl _) justified
    · simp
    · simp [Event.begun?]
    · rintro telling (⟨other, text, same, number⟩ | given)
      · cases same
        exact .inr (by rw [number])
      · exact given.elim
    · rintro source (⟨act, same⟩ | given)
      · exact absurd rfl act
      · exact .inr given
    · simp [hand, Board.note]
  · have silent : tellings call news = [] :=
      grows.tellings_eq_nil begun fun _ given => given.elim
    rw [← List.singleton_append, tellings_append, silent]
    simp [tellings, Event.toldBy?]

/-- A telling of a call to one of some listeners. -/
def IsAmong (call : Nat) (listeners : List (Listener κ)) (telling : Telling) : Prop :=
  telling.call = call ∧ telling.listener ∈ listeners.map Listener.number

/-- Telling different listeners one after the other records one telling of each,
in order. -/
theorem foldl_tell_grows {nested : Telling → Board κ → String → Board κ}
    {channel level call : Nat}
    (publishes : ∀ number, Publishes (nested ⟨call, number⟩) channel ⟨call, number⟩ level)
    (message : String) (listeners : List (Listener κ)) :
    ∀ board : Board κ, board.Running channel call level →
      (listeners.map Listener.number).Nodup →
      (∀ listener ∈ listeners, listener.number < board.told.size) →
      (∀ listener ∈ listeners, deeds (some ⟨call, listener.number⟩) board.events = []) →
      ∃ news, Grows (IsAmong call listeners)
          (fun source => ∃ telling, source = some telling ∧ IsAmong call listeners telling)
          board news (listeners.foldl (tell nested channel call message) board) ∧
        tellings call news = listeners.map (·, message) := by
  induction listeners with
  | nil =>
      intro board running _ _ _
      exact ⟨[], .refl running.consistent, rfl⟩
  | cons listener listeners ih =>
      intro board running nodup known idle
      obtain ⟨notAmong, nodup⟩ := List.nodup_cons.mp nodup
      have begun : call < board.calls := running.begun
      obtain ⟨news, grows, told⟩ := tell_grows (publishes listener.number) message running
        (known listener List.mem_cons_self) (idle listener List.mem_cons_self)
      have stillIdle : ∀ other ∈ listeners, deeds (some ⟨call, other.number⟩)
          (tell nested channel call message board listener).events = [] := by
        intro other member
        rw [grows.recorded, deeds_append, idle other (List.mem_cons_of_mem listener member),
          List.nil_append]
        apply grows.deeds_eq_nil
        · exact Nat.not_le_of_lt begun
        · intro same
          apply notAmong
          simp only [Option.some.injEq, Telling.mk.injEq, true_and] at same
          rw [← same]
          exact List.mem_map_of_mem member
      obtain ⟨more, others, toldOthers⟩ := ih _ (running.grows grows) nodup
        (fun other member => Nat.lt_of_lt_of_le
          (known other (List.mem_cons_of_mem listener member)) grows.numbers) stillIdle
      have widen : ∀ telling : Telling,
          telling = ⟨call, listener.number⟩ ∨ IsAmong call listeners telling →
            IsAmong call (listener :: listeners) telling := by
        rintro telling (rfl | ⟨same, among⟩)
        · exact ⟨rfl, List.mem_cons_self⟩
        · exact ⟨same, List.mem_cons_of_mem _ among⟩
      have both := grows.append others (fun telling among => among.1 ▸ begun) ?_
      refine ⟨news ++ more, both.mono ?_ ?_, ?_⟩
      · exact widen
      · rintro source (same | ⟨telling, same, among⟩)
        · exact ⟨_, same, widen _ (.inl rfl)⟩
        · exact ⟨telling, same, widen _ (.inr among)⟩
      · rw [tellings_append, told, toldOthers]
        rfl
      · rintro telling ⟨_, same, isCall, among⟩
        cases same
        refine ⟨isCall ▸ begun, ?_⟩
        rintro rfl
        exact notAmong among

/-- A call records its beginning, what it tells the listeners registered then
with all they do, and its return. -/
theorem call_grows {nested : Telling → Board κ → String → Board κ} {channel level : Nat}
    (publishes : ∀ telling, Publishes (nested telling) channel telling (level + 1))
    {source : Option Telling} {board : Board κ} (message : String)
    (ready : board.Ready channel source level) :
    ∃ body, Grows (fun _ => False) (· = source) board
        (.started source board.calls channel message :: (body ++ [.returned board.calls]))
        (((board.listeners channel).foldl (tell nested channel board.calls message)
          (board.begin channel source message)).note (.returned board.calls)) ∧
      deeds none body = [] ∧ deeds source body = [] := by
  have consistent := ready.consistent
  have begun := consistent.begin channel ready.begun message
  have recorded : .started source board.calls channel message ∈
      (board.begin channel source message).events := by
    simp
  have running : (board.begin channel source message).Running channel board.calls (level + 1) := by
    refine ⟨begun, ready.isOpen, ⟨source, message, recorded⟩, ?_⟩
    intro number
    apply Nests.listener number recorded
    rw [events_begin]
    exact ready.nests.append _
  have idle : ∀ number, deeds (some ⟨board.calls, number⟩)
      (board.begin channel source message).events = [] := by
    intro number
    have notSource : source ≠ some ⟨board.calls, number⟩ :=
      fun same => Nat.lt_irrefl _ (ready.begun _ same)
    rw [events_begin, deeds_append, consistent.idle, List.nil_append]
    simp [deeds, Event.source?, notSource]
  obtain ⟨body, grows, told⟩ := foldl_tell_grows (fun number => publishes ⟨board.calls, number⟩)
    message (board.listeners channel).toList (board.begin channel source message) running
    (consistent.nodup channel)
    (fun listener member => consistent.number_lt member) fun listener _ => idle listener.number
  rw [Array.foldl_toList] at grows
  have isRemark : Event.IsRemark (.returned board.calls : Event κ) := trivial
  have noSource : ∀ telling, Event.source? (.returned board.calls : Event κ) = some telling →
      telling.call < ((board.listeners channel).foldl (tell nested channel board.calls message)
        (board.begin channel source message)).calls := by
    simp [Event.source?]
  have returned : Grows (fun _ => False) (· = source) _ [.returned board.calls] _ :=
    .note grows.consistent isRemark noSource trivial fun act => absurd rfl act
  have both := grows.append returned (fun _ given => given.elim) ?_
  · have justified : Event.Justified board.events (body ++ [.returned board.calls])
        (.started source board.calls channel message) := by
      refine ⟨?_, ready.isTold, ?_, body, [], rfl, ?_, rfl⟩
      · rw [consistent.called, List.length_range]
      · apply tellings_eq_nil
        intro listener text member
        exact Nat.lt_irrefl _ (consistent.tellingBegun _ listener text member)
      · rw [told, consistent.registered channel]
    refine ⟨body, ?_, ?_, ?_⟩
    · apply both.cons (events_begin board channel source message) rfl (Nat.le_refl _)
        (Nat.le_succ _) justified
      · intro _ call _ _ same
        cases same
        refine ⟨body, [], rfl, ?_, rfl⟩
        intro event member act
        rcases grows.actsLate event member act with late | ⟨telling, isSource, among⟩
        · exact late.of_le (Nat.le_succ _)
        · rw [isSource]
          exact Nat.le_of_eq among.1.symm
      · simp [Event.begun?]
      · rintro telling (⟨_, _, same, _⟩ | among | given)
        · cases same
        · exact .inl (Nat.le_of_eq among.1.symm)
        · exact given.elim
      · rintro other (⟨_, same⟩ | ⟨telling, same, among⟩ | same)
        · exact .inr same.symm
        · left
          rw [same]
          exact Nat.le_of_eq among.1.symm
        · exact .inr same
    · exact grows.deeds_eq_nil id (by simp)
    · apply grows.deeds_eq_nil
      · exact ready.not_late ∘ Late.of_le (Nat.le_succ _)
      · rintro ⟨telling, same, isCall, _⟩
        exact Nat.ne_of_lt (ready.begun telling same) isCall
  · intro telling same
    have early : telling.call < board.calls := ready.begun telling same.symm
    exact ⟨Nat.lt_succ_of_lt early, fun among => Nat.ne_of_lt early among.1⟩

/-- Publishing a message records a call, from its beginning to its return, in
which the host does nothing. -/
theorem publishWithin_grows (depth : Nat) {channel : Nat} :
    ∀ (level : Nat) (source : Option Telling) (board : Board κ) (message : String),
      level + depth = Audience.depth κ → board.Ready channel source level →
      ∃ body, Grows (fun _ => False) (· = source) board
          (.started source board.calls channel message :: (body ++ [.returned board.calls]))
          (publishWithin depth channel source board message) ∧
        deeds none body = [] ∧ deeds source body = [] := by
  induction depth with
  | zero =>
      intro level source board message deepest ready
      apply call_grows _ message ready
      intro telling board message ready
      have isRemark : Event.IsRemark (.refused telling message : Event κ) := trivial
      have justified : Event.Justified board.events [] (.refused telling message) := by
        rw [Event.Justified, ← deepest]
        exact ⟨⟨channel, ready.isTold telling rfl⟩, ready.nests⟩
      exact ⟨_, .note ready.consistent isRemark ready.begun justified fun _ => rfl,
        by simp [deeds, Event.source?, Event.act?]⟩
  | succ depth ih =>
      intro level source board message within ready
      apply call_grows _ message ready
      intro telling board message ready
      obtain ⟨body, grows, _, idle⟩ :=
        ih (level + 1) (some telling) board message (by omega) ready
      refine ⟨_, grows, ?_⟩
      rw [← List.singleton_append, deeds_append, deeds_append, idle]
      simp [deeds, Event.source?, Event.act?]

/-- Publishing messages of the host's keeps a board ready for it. -/
theorem publishAll_ready {channel : Nat} (messages : List String) :
    ∀ board : Board κ, board.Ready channel none 0 →
      (board.publishAll channel messages).Ready channel none 0 ∧
        (board.publishAll channel messages).channels.size = board.channels.size := by
  induction messages with
  | nil => exact fun board ready => ⟨ready, rfl⟩
  | cons message messages ih =>
      intro board ready
      obtain ⟨body, grows, _⟩ := publishWithin_grows (Audience.depth κ) 0 none board message
        (Nat.zero_add _) ready
      obtain ⟨readyLater, sizeLater⟩ := ih (board.publish channel message) (ready.grows grows)
      exact ⟨readyLater, sizeLater.trans grows.channels⟩

end LuaSession.Board
