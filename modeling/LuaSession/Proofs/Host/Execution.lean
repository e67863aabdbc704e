import LuaSession.Proofs.Channel.Quiet
import LuaSession.Proofs.Host.Reachable
import LuaSession.Proofs.Session.Ending
import LuaSession.Proofs.Text.Encoding

/-!
# Executing a script

However a script ends, the host gets it executed: every listener hears what the
script has written, write by write, and then why it has failed, if it has. What
the script has bound by then stays bound.
-/

namespace LuaSession

open LuaSession.Script

/-- The text of a message that is a write to the adapter. -/
def Script.Emission.written? : Emission → Option String
  | .written text => some text
  | .published _ => none

/-- The texts of the writes that the adapter has accepted, in order. -/
def Script.Store.writes (s : Store) : List String :=
  s.world.emitted.toList.filterMap Emission.written?

/-- No function of the host has published anything. -/
def Script.Store.HasOnlyWrites (s : Store) : Prop :=
  ∀ emission ∈ s.world.emitted.toList, ∃ text, emission = .written text

/-- If there are only writes, they are all messages. -/
theorem Script.Store.HasOnlyWrites.texts {s : Store} (onlyWrites : s.HasOnlyWrites) :
    s.world.emitted.toList.map Emission.text = s.writes := by
  rw [HasOnlyWrites] at onlyWrites
  rw [writes]
  generalize s.world.emitted.toList = emissions at onlyWrites ⊢
  induction emissions with
  | nil => rfl
  | cons emission emissions ih =>
      obtain ⟨text, rfl⟩ := onlyWrites emission List.mem_cons_self
      have others := ih fun other member => onlyWrites other (List.mem_cons_of_mem _ member)
      rw [List.map_cons, others]
      rfl

/-- Under a name that has a zero byte, nothing is loaded. -/
theorem Library.Hosted.loadForHost_zeroByte (interpreter : Interpreter) {setting : Setting}
    (named : setting.chunkName = "\x00") (source : Bytes) :
    interpreter.perform (loadForHost setting source) =
      (.ok (.error (.runtime
        "invalid name: nul byte found in provided data at position: 1")), interpreter) := by
  have place : s!"={setting.chunkName}".toUTF8.toList.findIdx? (· == 0) = some 1 := by
    rw [named, Utf8.toList_toUTF8]
    decide
  rw [loadForHost]
  dsimp only
  rw [place]
  rfl

/-- A session keeps the name that its settings give. -/
theorem Session.chunkName_create {settings : Settings} {bootstrap : String}
    {outcome : Outcome Unit} (created : create settings bootstrap = .ok outcome) :
    outcome.session.chunkName = settings.chunkName := by
  rw [create] at created
  cases opened : openStore settings with
  | error error => simp [opened, bind, Except.bind] at created
  | ok store =>
      simp only [opened, bind, Except.bind, pure, Except.pure, Except.ok.injEq] at created
      rw [← created]
      rfl

/-- Without a limit on memory a session can always be opened. -/
theorem Session.exists_create {settings : Settings} (noLimit : settings.memoryLimit = none)
    (bootstrap : String) : ∃ outcome, create settings bootstrap = .ok outcome := by
  simp [create, openStore, noLimit, bind, Except.bind, pure, Except.pure]

namespace Host

open Library.Hosted

variable {κ : Type} [Audience κ]

/-- A new session's channel has quiet listeners, if its first one is quiet. -/
theorem quiet_open {host : Host κ} (sound : host.Sound) {settings : Settings}
    {bootstrap : String} {sink : κ} {outcome : Outcome Unit}
    (created : Session.create settings bootstrap = .ok outcome) {quiet : κ → Prop}
    (quiets : Quiet quiet) (isQuiet : quiet sink) :
    (host.open settings bootstrap sink).2.members[host.members.size]? =
        some ⟨outcome.session, host.hall.channels.size⟩ ∧
      ∀ listener ∈ ((host.open settings bootstrap sink).2.hall.listeners
        host.hall.channels.size).toList, quiet listener.kind := by
  obtain ⟨ready, _⟩ := sound.ready_open sink
  obtain ⟨hall, members, disk⟩ := host
  have first : ((hall.openChannel.subscribe hall.channels.size sink).listeners
      hall.channels.size).toList = [⟨hall.told.size, sink⟩] := by
    simp [Board.subscribe, Board.note, Board.openChannel, Board.listeners,
      Array.getElem_modify]
  have sinkQuiet : ∀ listener ∈ ((hall.openChannel.subscribe hall.channels.size sink).listeners
      hall.channels.size).toList, quiet listener.kind := by
    intro listener member
    rw [first, List.mem_singleton] at member
    rw [member]
    exact isQuiet
  obtain ⟨⟨more, joined, moreQuiet⟩, _⟩ :=
    Board.publishAll_hears quiets outcome.messages _ ready sinkQuiet
  rw [Host.open, created]
  refine ⟨Array.getElem?_push_size, ?_⟩
  intro listener member
  dsimp only at member
  rw [joined] at member
  rcases List.mem_append.mp member with member | member
  · exact sinkQuiet listener member
  · exact moreQuiet listener member

/-- Listeners that publish nothing register none that do. -/
theorem quiet_conduct :
    Quiet fun kind : Conduct => ∀ thenPanic, kind ≠ .republish thenPanic where
  silent := by
    intro kind isQuiet before message text
    cases kind with
    | republish thenPanic => exact absurd rfl (isQuiet thenPanic)
    | panic once => simp only [Audience.react, Conduct.react]; split <;> simp
    | subscribe once => simp only [Audience.react, Conduct.react]; split <;> simp
    | _ => simp [Audience.react, Conduct.react]
  closed := by
    intro kind isQuiet before message other
    cases kind with
    | republish thenPanic => exact absurd rfl (isQuiet thenPanic)
    | panic once => simp only [Audience.react, Conduct.react]; split <;> simp
    | subscribe once =>
        simp only [Audience.react, Conduct.react]
        split
        · simp
        · rintro member
          cases List.mem_singleton.mp member
          simp
    | _ => simp [Audience.react, Conduct.react]

/-- There is a host with one session of a given name, whose listeners are quiet. -/
theorem exists_reachable (name : String) :
    ∃ (host : Host) (outcome : Outcome Unit), Reachable host ∧
      host.members[0]? = some ⟨outcome.session, 0⟩ ∧
      (∀ listener ∈ (host.hall.listeners 0).toList,
        ∀ thenPanic, listener.kind ≠ .republish thenPanic) ∧
      outcome.session.chunkName = name ∧ outcome.session.IsDelivered := by
  have noLimit : ({ chunkName := name } : Settings).memoryLimit = none := rfl
  obtain ⟨outcome, created⟩ := Session.exists_create noLimit ""
  have sinkQuiet : ∀ thenPanic, Conduct.record ≠ .republish thenPanic := by simp
  obtain ⟨found, areQuiet⟩ := quiet_open (sound_start : ({} : Host).Sound) created quiet_conduct
    sinkQuiet
  exact ⟨_, outcome, .opened .start _ _ _, found, areQuiet, Session.chunkName_create created,
    Session.isDelivered_create created⟩

/-- The contract of executing a script. A script that ends is executed, however
it ends. Each listener that was registered before is told exactly the texts of
the writes that the adapter has accepted, in order, and after them the failure
of the run, if it has failed; these are writes of this run, since the session
had none left. The store of the session is the one in which the script has
ended, with all it has bound, and the session is the same in all else. -/
theorem execute_contract {host : Host κ} (reachable : Reachable host) {index : Nat}
    {member : Member} (found : host.members[index]? = some member) {source : String}
    {ending : Option Ending} {final : Store}
    (ends : (member.session.withDisk host.disk).Ends source ending final)
    (onlyWrites : final.HasOnlyWrites) {quiet : κ → Prop} (quiets : Quiet quiet)
    (areQuiet : ∀ listener ∈ (host.hall.listeners member.channel).toList,
      quiet listener.kind) :
    member.session.IsDelivered ∧
    ((member.session.withDisk host.disk).run member.session.chunkName source).value =
      ending.map Ending.message ∧
    ∃ after session, host.step? index (.execute source) = some (.nothing, after) ∧
      (∀ listener ∈ (host.hall.listeners member.channel).toList,
        received listener.number after.hall.events =
          received listener.number host.hall.events ++
            (final.writes ++ (ending.map Ending.message).toList)) ∧
      (∃ more, (after.hall.listeners member.channel).toList =
        (host.hall.listeners member.channel).toList ++ more) ∧
      after.members[index]? = some ⟨session, member.channel⟩ ∧
      session.store = final.delivered.withDisk {} ∧
      session.scopeTable = final.table member.session.setting.scope ∧
      session.setting = member.session.setting ∧
      session.isRedirected = member.session.isRedirected ∧
      after.disk = final.world.disk ∧
      ∀ other, other ≠ index → after.members[other]? = host.members[other]? := by
  obtain ⟨threads, ran⟩ := ends.run
  have executed : (member.session.withDisk host.disk).execute source =
      { value := ()
        messages := final.writes ++ (ending.map Ending.message).toList
        session :=
          { member.session with interpreter := { store := final.delivered, threads } } } := by
    rw [← onlyWrites.texts]
    simp only [Session.execute, ran]
    rfl
  have hall := hall_letWork host found (·.execute source)
  have members := getElem?_letWork host found (·.execute source)
  have disk := disk_letWork host found (·.execute source)
  simp only [executed] at hall members disk
  obtain ⟨⟨more, joined, _⟩, heard⟩ := Board.publishAll_hears quiets
    (final.writes ++ (ending.map Ending.message).toList) host.hall
    (reachable.sound.ready found) areQuiet
  refine ⟨reachable.sound.delivered index member found, congrArg Outcome.value ran,
    (host.letWork index (·.execute source)).2, _, step?_eq_some found _, ?_, ⟨more, ?_⟩,
    (members index).trans (if_pos rfl), rfl, rfl, rfl, rfl, disk, ?_⟩
  · intro listener member
    rw [hall]
    exact heard listener member
  · rw [hall]
    exact joined
  · intro other different
    exact (members other).trans (if_neg different)

/-- There is a host where, in a session whose name has a zero byte, every script
fails to load, and that is all that its listeners hear. -/
theorem execute_contract_zeroByte :
    ∃ host after : Host, Reachable host ∧
      host.step? 0 (.execute "x = 1") = some (.nothing, after) ∧
      ∀ listener ∈ (host.hall.listeners 0).toList,
        received listener.number after.hall.events =
          received listener.number host.hall.events ++
            [(Failure.runtime
              "invalid name: nul byte found in provided data at position: 1").describe] := by
  obtain ⟨host, outcome, reachable, found, areQuiet, named, delivered⟩ := exists_reachable "\x00"
  have ends : (outcome.session.withDisk host.disk).Ends "x = 1"
      (some (.failed (.runtime "invalid name: nul byte found in provided data at position: 1")))
      (outcome.session.withDisk host.disk).store := by
    apply Session.Ends.notLoaded
    exact loadForHost_zeroByte _ named _
  have nothingWritten : (outcome.session.withDisk host.disk).store.world.emitted = #[] :=
    delivered
  obtain ⟨_, _, after, session, stepped, heard, _⟩ := execute_contract reachable found ends
    (by simp [Store.HasOnlyWrites, nothingWritten]) quiet_conduct areQuiet
  have silent : (outcome.session.withDisk host.disk).store.writes = [] := by
    rw [Store.writes, nothingWritten]
    rfl
  refine ⟨host, after, reachable, stepped, ?_⟩
  intro listener member
  rw [heard listener member, silent]
  rfl

end Host

end LuaSession
