import LuaSession.Proofs.Channel.Detached
import LuaSession.Proofs.Host.Execution
import LuaSession.Proofs.Session.Beginning
import LuaSession.Proofs.Session.Keeping

/-!
# Opening a session

A session is opened or it is not. When it is not, nobody has been told anything.
When it is, its first listener is the only one on its channel and has been told
what the first script has written, and nobody is ever told why the first script
has failed, if it has.
-/

namespace LuaSession

open LuaSession.Script

/-! ## Scripts that cannot publish -/

/-- No function of the host publishes, and nothing was published. -/
structure Script.Store.IsUnpublished (s : Store) : Prop where
  noPublisher : ¬s.HasPublisher
  onlyWrites : s.HasOnlyWrites

/-- Functions that are new or have changed are not the host's. -/
theorem Script.Change.native_eq {s t : Store} (change : Change s t) {ref : Nat}
    {function : HostFunction} {setting : Setting}
    (isHost : t.native ref = .host function setting) : s.native ref = .host function setting := by
  cases change with
  | put table key value =>
      rw [Store.put] at isHost
      split at isHost <;> exact isHost
  | sweep table test =>
      rw [Store.sweep] at isHost
      split at isHost <;> exact isHost
  | newNative native own =>
      rw [Store.newNative, Store.native, Array.getD_eq_getD_getElem?, Array.getElem?_push] at isHost
      split at isHost
      · exact absurd isHost (own function setting)
      · rw [← Array.getD_eq_getD_getElem?] at isHost
        exact isHost
  | setNative other native own =>
      rw [Store.setNative, Store.native, Array.getD_eq_getD_getElem?,
        Array.getElem?_setIfInBounds] at isHost
      split at isHost
      · split at isHost
        · exact absurd isHost (own function setting)
        next outside =>
          rw [Store.native, Array.getD_eq_getD_getElem?, Array.getElem?_eq_none]
          · exact isHost
          · omega
      · rw [← Array.getD_eq_getD_getElem?] at isHost
        exact isHost
  | _ => exact isHost

/-- What is given out is a write. -/
theorem Script.Change.emitted {s t : Store} (change : Change s t) :
    t.world.emitted = s.world.emitted ∨
      ∃ text, t.world.emitted = s.world.emitted.push (.written text) := by
  cases change with
  | put table key value => exact .inl (congrArg World.emitted (Store.world_put s table key value))
  | sweep table test =>
      left
      rw [Store.sweep]
      split <;> rfl
  | written text => exact .inr ⟨text, rfl⟩
  | world world same => exact .inl same
  | _ => exact .inl rfl

instance : Stable Store.IsUnpublished where
  change := by
    rintro s t change ⟨noPublisher, onlyWrites⟩
    constructor
    · rintro ⟨ref, function, setting, isHost, publishes⟩
      exact noPublisher ⟨ref, function, setting, change.native_eq isHost, publishes⟩
    · intro emission member
      obtain same | ⟨text, pushed⟩ := change.emitted
      · exact onlyWrites emission (same ▸ member)
      · rw [pushed, Array.toList_push, List.mem_append, List.mem_singleton] at member
        obtain old | rfl := member
        · exact onlyWrites emission old
        · exact ⟨text, rfl⟩
  publish was publishes := absurd publishes was.noPublisher

namespace Session

/-- A store with open libraries has given nothing out, and has no function of the
host. -/
theorem isUnpublished_openStore {settings : Settings} {store : Store}
    (opened : openStore settings = .ok store) : store.IsUnpublished := by
  have made := openStore_eq opened
  have natives : store.heap.natives = #[] := by
    rw [made]
    cases settings.libraries <;> rfl
  have emitted : store.world.emitted = #[] := by
    rw [made]
    cases settings.libraries <;> rfl
  constructor
  · rintro ⟨ref, function, setting, isHost, publishes⟩
    rw [Store.native, natives] at isHost
    cases isHost
    exact absurd publishes (by decide)
  · simp [Store.HasOnlyWrites, emitted]

/-- The session in which the first script runs. -/
def beginning (store : Store) : Session :=
  { interpreter := { store }, setting := { chunkName := Bootstrap.chunkName, scope := store.scope } }

/-- A session whose first script has ended, and how it has ended. -/
def begun (settings : Settings) (scope : Nat) (ending : Option Library.Hosted.Ending)
    (interpreter : Interpreter) : Session :=
  { interpreter, setting := { chunkName := settings.chunkName, scope }
    isRedirected := ending.isNone }

/-- Opening a session when the run of its first script comes to an end. -/
theorem create_of_performed {settings : Settings} {store : Store}
    (opened : openStore settings = .ok store) {bootstrap : String}
    {ending : Option Library.Hosted.Ending} {after : Interpreter}
    (performed : ({ store } : Interpreter).perform (Library.Hosted.runScript
      { chunkName := Bootstrap.chunkName, scope := store.scope } bootstrap.toUTF8) =
        (.ok ending, after)) :
    create settings bootstrap = .ok
      { value := (), messages := after.store.world.emitted.toList.map Emission.text
        session := begun settings store.scope ending ⟨after.store.delivered, after.threads⟩ } := by
  simp only [create, opened, bind, Except.bind, pure, Except.pure, Session.run, Session.perform,
    performed]
  cases ending <;> rfl

/-- Opening a session when its first script ends: the messages are what that
script has written, and why it has failed is not among them. -/
theorem create_eq_begun {settings : Settings} {store : Store}
    (opened : openStore settings = .ok store) {bootstrap : String}
    {ending : Option Library.Hosted.Ending} {final : Store}
    (ends : (beginning store).Ends bootstrap ending final) :
    ∃ threads, create settings bootstrap = .ok
      { value := (), messages := final.writes
        session := begun settings store.scope ending ⟨final.delivered, threads⟩ } := by
  have fresh := Interpreter.keeps_start .nothing (isUnpublished_openStore opened)
  obtain ⟨threads, performed, keeps⟩ := ends.keeps fresh
  change ({ store } : Interpreter).perform (Library.Hosted.runScript
    { chunkName := Bootstrap.chunkName, scope := store.scope } bootstrap.toUTF8) = _ at performed
  refine ⟨threads, ?_⟩
  rw [create_of_performed opened performed, ← keeps.store.onlyWrites.texts]

/-- Running a script does not depend on where its output goes. -/
theorem execute_isRedirected (session : Session) (isRedirected : Bool) (source : String) :
    { session with isRedirected }.execute source =
      { session.execute source with
        session := { (session.execute source).session with isRedirected } } :=
  rfl

/-- Executing a script that ends: the messages are what it has written and, after
that, why it has failed, if it has. -/
theorem Ends.execute {session : Session} {source : String} {ending : Option Library.Hosted.Ending}
    {final : Store} (ends : session.Ends source ending final) (onlyWrites : final.HasOnlyWrites) :
    ∃ threads, session.execute source =
      { value := ()
        messages := final.writes ++ (ending.map Library.Hosted.Ending.message).toList
        session := { session with interpreter := { store := final.delivered, threads } } } := by
  obtain ⟨threads, ran⟩ := ends.run
  refine ⟨threads, ?_⟩
  rw [← onlyWrites.texts]
  simp only [Session.execute, ran]

end Session

namespace Host

open Library.Hosted

variable {κ : Type} [Audience κ]

/-- When a session cannot be opened, the host is as it was, but for the number of
the listener that there would have been. -/
theorem open_error {host : Host κ} {settings : Settings} {error : HostError}
    (failed : Session.openStore settings = .error error) (bootstrap : String) (sink : κ) :
    host.open settings bootstrap sink =
      (.error error, { host with hall := host.hall.skipNumber }) := by
  have notCreated : Session.create settings bootstrap = .error error := by
    simp [Session.create, failed, bind, Except.bind]
  rw [Host.open, notCreated]

/-- When a session can be opened and its first script ends, it is there, and its
first listener has been told what the script has written. -/
theorem open_ok {host : Host κ} (sound : host.Sound) {settings : Settings} {store : Store}
    (opened : Session.openStore settings = .ok store) {bootstrap : String}
    {ending : Option Ending} {final : Store}
    (ends : (Session.beginning store).Ends bootstrap ending final) {sink : κ}
    (detached : Detached sink 0 final.writes) :
    ∃ hall threads, host.open settings bootstrap sink =
      (.opened host.members.size ending.isNone,
        { hall
          members := host.members.push
            ⟨Session.begun settings store.scope ending ⟨final.delivered, threads⟩,
              host.hall.channels.size⟩
          disk := host.disk }) ∧
      hall.channels = host.hall.channels.push #[⟨host.hall.told.size, sink⟩] ∧
      hall.told.size = host.hall.told.size + 1 ∧
      ∀ number, received number hall.events = received number host.hall.events ++
        (if number = host.hall.told.size then final.writes else []) := by
  obtain ⟨threads, created⟩ := Session.create_eq_begun opened ends
  obtain ⟨ready, _⟩ := sound.ready_open sink
  obtain ⟨hall, members, disk⟩ := host
  have channels : (hall.openChannel.subscribe hall.channels.size sink).channels =
      hall.channels.push #[⟨hall.told.size, sink⟩] := by
    refine Array.ext_getElem? fun channel => ?_
    simp only [Board.subscribe, Board.note, Board.openChannel, Array.getElem?_modify,
      Array.getElem?_push]
    grind
  have size : (hall.openChannel.subscribe hall.channels.size sink).told.size =
      hall.told.size + 1 := by
    simp [Board.subscribe, Board.note, Board.openChannel]
  have unheard : (hall.openChannel.subscribe hall.channels.size sink).told.getD hall.told.size 0 =
      0 := by
    simp [Board.subscribe, Board.note, Board.openChannel]
  have only : (hall.openChannel.subscribe hall.channels.size sink).listeners hall.channels.size =
      #[⟨hall.told.size, sink⟩] := by
    simp [Board.listeners, channels]
  have told := Board.publishAll_detached final.writes _ only (size ▸ Nat.lt_succ_self _)
    (unheard.symm ▸ detached)
  refine ⟨_, threads, ?_, told.channels.trans channels, told.size.trans size, ?_⟩
  · rw [Host.open, created]
    rfl
  · intro number
    rw [told.heard, Board.events_subscribe, received_append]
    simp [received, Event.toldTo?, Board.openChannel, Board.events]

/-- Executing a script that ends, in a session whose listeners are quiet. -/
theorem Sound.executes {host : Host κ} (sound : host.Sound) {index : Nat} {member : Member}
    (found : host.members[index]? = some member) {source : String} {ending : Option Ending}
    {final : Store} (ends : (member.session.withDisk host.disk).Ends source ending final)
    (onlyWrites : final.HasOnlyWrites) {quiet : κ → Prop} (quiets : Quiet quiet)
    (areQuiet : ∀ listener ∈ (host.hall.listeners member.channel).toList, quiet listener.kind) :
    ∃ after session, host.step? index (.execute source) = some (.nothing, after) ∧
      (∀ listener ∈ (host.hall.listeners member.channel).toList,
        received listener.number after.hall.events =
          received listener.number host.hall.events ++
            (final.writes ++ (ending.map Ending.message).toList)) ∧
      after.members[index]? = some ⟨session, member.channel⟩ ∧
      session.store = final.delivered.withDisk {} ∧
      session.setting = member.session.setting ∧
      session.isRedirected = member.session.isRedirected := by
  obtain ⟨threads, executed⟩ := ends.execute onlyWrites
  have hall := hall_letWork host found (·.execute source)
  have members := getElem?_letWork host found (·.execute source) index
  simp only [executed, reduceIte] at hall members
  obtain ⟨_, heard⟩ := Board.publishAll_hears quiets
    (final.writes ++ (ending.map Ending.message).toList) host.hall (sound.ready found) areQuiet
  refine ⟨(host.letWork index (·.execute source)).2, _, step?_eq_some found _, ?_,
    members, rfl, rfl, rfl⟩
  intro listener member
  rw [hall]
  exact heard listener member

/-- The contract of opening a session, whatever its settings, its first script and
its first listener, which has no channel to act on by then.

Either the session cannot be opened; then nobody is told anything, and the host
has the sessions it had. Or it is opened, and output is redirected just when the
first script has come to an end without failing. Its channel has the first
listener only, which has been told what the first script has written, in order,
and nothing else; nobody else has been told anything, and listeners that come
later have been told nothing. What the session does from then on is what its
store and its settings make it do: a script that is executed in it is told of in
the same way whether the first script has failed or not. -/
theorem open_contract {host : Host κ} (reachable : Reachable host) (settings : Settings)
    (bootstrap : String) (sink : κ) :
    (∀ error, Session.openStore settings = .error error →
      ∃ after, host.open settings bootstrap sink = (.error error, after) ∧
        after.hall.events = host.hall.events ∧
        after.hall.channels = host.hall.channels ∧
        after.members = host.members) ∧
    ∀ store, Session.openStore settings = .ok store →
    ∀ ending final, (Session.beginning store).Ends bootstrap ending final →
    Detached sink 0 final.writes →
    ∃ after session,
      host.open settings bootstrap sink =
        (.opened host.members.size ending.isNone, after) ∧
      after.members = host.members.push ⟨session, host.hall.channels.size⟩ ∧
      session.isRedirected = ending.isNone ∧
      session.setting = { chunkName := settings.chunkName, scope := store.scope } ∧
      session.store = final.delivered ∧
      after.hall.channels = host.hall.channels.push #[⟨host.hall.told.size, sink⟩] ∧
      received host.hall.told.size after.hall.events = final.writes ∧
      (∀ number, number ≠ host.hall.told.size →
        received number after.hall.events = received number host.hall.events) ∧
      (∀ number, host.hall.told.size < number → received number after.hall.events = []) ∧
      ∀ source later finalLater, (session.withDisk after.disk).Ends source later finalLater →
        finalLater.HasOnlyWrites → ∀ quiet : κ → Prop, Quiet quiet → quiet sink →
        ∃ executed worked, after.step? host.members.size (.execute source) =
            some (.nothing, executed) ∧
          received host.hall.told.size executed.hall.events =
            final.writes ++ (finalLater.writes ++ (later.map Ending.message).toList) ∧
          executed.members[host.members.size]? = some ⟨worked, host.hall.channels.size⟩ ∧
          worked.store = finalLater.delivered.withDisk {} ∧
          worked.setting = session.setting ∧
          worked.isRedirected = session.isRedirected := by
  refine ⟨fun error failed => ⟨_, open_error failed bootstrap sink, rfl, rfl, rfl⟩, ?_⟩
  intro store opened ending final ends detached
  obtain ⟨hall, threads, isOpened, channels, size, heard⟩ :=
    open_ok reachable.sound opened ends detached
  have consistent := reachable.sound.consistent
  have heardBySink : received host.hall.told.size hall.events = final.writes := by
    rw [heard, consistent.received_eq_nil (Nat.le_refl _), if_pos rfl, List.nil_append]
  have heardByOthers : ∀ number, number ≠ host.hall.told.size →
      received number hall.events = received number host.hall.events := by
    intro number isOther
    rw [heard, if_neg isOther, List.append_nil]
  refine ⟨_, _, isOpened, rfl, rfl, rfl, rfl, channels, heardBySink, heardByOthers, ?_, ?_⟩
  · intro number isLater
    rw [heardByOthers number (Nat.ne_of_gt isLater)]
    exact consistent.received_eq_nil (Nat.le_of_lt isLater)
  · intro source later finalLater endsLater onlyWrites quiet quiets isQuiet
    have sound := reachable.sound.open settings bootstrap sink
    rw [isOpened] at sound
    have only : hall.listeners host.hall.channels.size = #[⟨host.hall.told.size, sink⟩] := by
      simp [Board.listeners, channels]
    obtain ⟨executed, worked, stepped, told, found, stored, same⟩ :=
      sound.executes Array.getElem?_push_size endsLater onlyWrites quiets
        (by simpa [only] using isQuiet)
    refine ⟨executed, worked, stepped, ?_, found, stored, same⟩
    have toldSink := told ⟨host.hall.told.size, sink⟩ (by simp [only])
    rw [toldSink, heardBySink]

/-- A text that begins like a compiled script, and is none, is never loaded. -/
theorem loadForHost_escape (interpreter : Interpreter) (scope : Nat) :
    ∃ failure, interpreter.perform
      (loadForHost { chunkName := Bootstrap.chunkName, scope } "\x1b".toUTF8) =
        (.ok (.error failure), interpreter) := by
  have noZero : s!"={Bootstrap.chunkName}".toUTF8.toList.findIdx? (· == 0) = none := by
    rw [Utf8.toList_toUTF8]
    decide
  have isCompiled : Syntax.isCompiled "\x1b".toUTF8 = true := by
    rw [Syntax.isCompiled, Utf8.toList_toUTF8]
    decide
  have isShort : Syntax.compiledMark.toList.isPrefixOf "\x1b".toUTF8.toList = false := by
    rw [Syntax.compiledMark, Utf8.toList_toUTF8, Utf8.toList_toUTF8]
    decide
  have refused : (Library.Loading.modeError? "t".toUTF8 "binary").isSome = true := by
    rw [Library.Loading.modeError?, Utf8.toList_toUTF8, Utf8.toList_toUTF8]
    decide
  obtain ⟨message, refused⟩ := Option.isSome_iff_exists.mp refused
  rw [loadForHost]
  simp only [noZero, isShort, Library.Loading.load, isCompiled, Bool.false_eq_true, reduceIte,
    refused]
  exact ⟨_, rfl⟩

/-- A session is opened with a first script that cannot be loaded: its output is
not redirected, and its first listener has been told nothing. -/
theorem open_contract_escape :
    ∃ after : Host, ({} : Host).open {} "\x1b" .record = (.opened 0 false, after) ∧
      received 0 after.hall.events = [] := by
  have opened : Session.openStore {} =
      .ok (Session.makeScope (Library.openLibraries .safe {})) := rfl
  obtain ⟨failure, loaded⟩ := loadForHost_escape
    { store := Session.makeScope (Library.openLibraries .safe {}) }
    (Session.makeScope (Library.openLibraries .safe {})).scope
  have silent : (Session.makeScope (Library.openLibraries .safe {})).writes = [] := rfl
  obtain ⟨after, session, isOpened, _, _, _, _, _, heard, _⟩ :=
    (open_contract (κ := Conduct) .start {} "\x1b" .record).2 _ opened _ _ (.notLoaded loaded)
      (silent ▸ trivial)
  exact ⟨after, isOpened, heard.trans silent⟩

end Host

end LuaSession
