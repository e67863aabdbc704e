import LuaSession.Host
import LuaSession.Proofs.Channel.Publishing

/-!
# Reachable hosts

A host is reached by opening sessions, working with them and putting files into
its directory. Whatever its scripts and listeners have done until then, its
board is consistent, every session has its channel, and no message that a
session has given out is left undelivered.
-/

namespace LuaSession

open LuaSession.Script

/-- No message of a session is left undelivered. -/
def Session.IsDelivered (session : Session) : Prop := session.store.world.emitted = #[]

/-- Putting a value into a table leaves the world alone. -/
theorem Script.Store.world_put (s : Store) (ref : Nat) (key value : Value) :
    (s.put ref key value).world = s.world := by
  rw [put]
  split <;> rfl

namespace HostValue

mutual

/-- Making a value leaves the world alone. -/
theorem world_make (setting : Setting) (value : HostValue) (s : Store) :
    (value.make setting s).2.world = s.world := by
  cases value with
  | list values =>
      rw [make]
      exact world_makeElements setting values 1 {} s
  | map entries =>
      rw [make]
      exact world_makeFields setting entries {} s
  | _ => rfl

theorem world_makeElements (setting : Setting) (values : List HostValue) (index : Nat)
    (table : Table) (s : Store) :
    (makeElements setting values index table s).2.world = s.world := by
  cases values with
  | nil => rfl
  | cons value rest =>
      rw [makeElements]
      exact (world_makeElements setting rest _ _ _).trans (world_make setting value s)

theorem world_makeFields (setting : Setting) (entries : List (String × HostValue))
    (table : Table) (s : Store) :
    (makeFields setting entries table s).2.world = s.world := by
  cases entries with
  | nil => rfl
  | cons entry rest =>
      obtain ⟨name, value⟩ := entry
      rw [makeFields]
      exact (world_makeFields setting rest _ _).trans (world_make setting value s)

end

end HostValue

namespace Session

/-- What a script gives out is all among its messages. -/
theorem isDelivered_execute (session : Session) (source : String) :
    (session.execute source).session.IsDelivered := rfl

theorem isDelivered_get (session : Session) (name : String) (wanted : Wanted) :
    (session.get name wanted).session.IsDelivered := rfl

theorem IsDelivered.withDisk {session : Session} (delivered : session.IsDelivered)
    (disk : Disk) : (session.withDisk disk).IsDelivered := delivered

theorem IsDelivered.set {session : Session} (delivered : session.IsDelivered) (name : String)
    (value : HostValue) : (session.set name value).IsDelivered := by
  change ((value.make session.setting session.store).2.put session.setting.scope
    (.ofString name) (value.make session.setting session.store).1).world.emitted = #[]
  rw [Store.world_put, HostValue.world_make]
  exact delivered

/-- A session that has just been opened has nothing left to deliver. -/
theorem isDelivered_create {settings : Settings} {bootstrap : String} {outcome : Outcome Unit}
    (created : create settings bootstrap = .ok outcome) : outcome.session.IsDelivered := by
  rw [create] at created
  cases opened : openStore settings with
  | error error => simp [opened, bind, Except.bind] at created
  | ok store =>
      simp only [opened, bind, Except.bind, pure, Except.pure, Except.ok.injEq] at created
      rw [← created]
      rfl

end Session

namespace Host

variable {κ : Type}

/-- What holds of every reachable host. -/
structure Sound (host : Host κ) : Prop where
  consistent : host.hall.Consistent
  isOpen : ∀ (index : Nat) (member : Member), host.members[index]? = some member →
    member.channel < host.hall.channels.size
  delivered : ∀ (index : Nat) (member : Member), host.members[index]? = some member →
    member.session.IsDelivered

/-- The board is ready for what the host does with a session's channel. -/
theorem Sound.ready {host : Host κ} (sound : host.Sound) {index : Nat} {member : Member}
    (found : host.members[index]? = some member) : host.hall.Ready member.channel none 0 :=
  ⟨sound.consistent, sound.isOpen index member found, by simp, .host⟩

theorem sound_start : ({} : Host κ).Sound where
  consistent := Board.consistent_empty
  isOpen := by simp
  delivered := by simp

variable [Audience κ]

/-- A host that is reached from one without sessions. -/
inductive Reachable : Host κ → Prop where
  | start : Reachable {}
  | opened {host : Host κ} (reachable : Reachable host) (settings : Settings)
      (bootstrap : String) (sink : κ) : Reachable (host.open settings bootstrap sink).2
  | stepped {host after : Host κ} {index : Nat} {step : HostStep κ} {answer : HostAnswer}
      (reachable : Reachable host) (taken : host.step? index step = some (answer, after)) :
      Reachable after
  | filed {host : Host κ} (reachable : Reachable host) (name contents : Bytes) :
      Reachable (host.putFile name contents)

/-- A new channel with its first listener is ready for messages. -/
theorem Sound.ready_open {host : Host κ} (sound : host.Sound) (sink : κ) :
    (host.hall.openChannel.subscribe host.hall.channels.size sink).Ready
        host.hall.channels.size none 0 ∧
      (host.hall.openChannel.subscribe host.hall.channels.size sink).channels.size =
        host.hall.channels.size + 1 := by
  have size : host.hall.openChannel.channels.size = host.hall.channels.size + 1 := by
    simp [Board.openChannel]
  have isOpen : host.hall.channels.size < host.hall.openChannel.channels.size :=
    size ▸ Nat.lt_succ_self _
  have subscribed : Board.Grows (fun _ => False) (· = none) host.hall.openChannel _
      (host.hall.openChannel.subscribe host.hall.channels.size sink) :=
    .subscribe sound.consistent.openChannel isOpen sink (by simp)
  exact ⟨⟨subscribed.consistent, subscribed.channels ▸ isOpen, by simp, .host⟩,
    subscribed.channels.trans size⟩

theorem Sound.open {host : Host κ} (sound : host.Sound) (settings : Settings)
    (bootstrap : String) (sink : κ) : (host.open settings bootstrap sink).2.Sound := by
  rw [Host.open]
  cases created : Session.create settings bootstrap with
  | error error => exact ⟨sound.consistent.skipNumber, sound.isOpen, sound.delivered⟩
  | ok outcome =>
      obtain ⟨fresh, opened⟩ := sound.ready_open sink
      obtain ⟨ready, size⟩ := Board.publishAll_ready outcome.messages _ fresh
      obtain ⟨hall, members, disk⟩ := host
      refine ⟨ready.consistent, ?_, ?_⟩
      · intro index member found
        rw [Array.getElem?_push] at found
        split at found
        · cases found
          exact ready.isOpen
        · rw [size, opened]
          exact Nat.lt_succ_of_lt (sound.isOpen index member found)
      · intro index member found
        rw [Array.getElem?_push] at found
        split at found
        · cases found
          exact Session.isDelivered_create created
        · exact sound.delivered index member found

/-- The sessions after one of them has worked. -/
theorem getElem?_letWork {α : Type} (host : Host κ) {index : Nat} {member : Member}
    (found : host.members[index]? = some member) (work : Session → Outcome α) (other : Nat) :
    (host.letWork index work).2.members[other]? =
      if other = index then
        some ⟨(work (member.session.withDisk host.disk)).session.withDisk {}, member.channel⟩
      else host.members[other]? := by
  obtain ⟨hall, members, disk⟩ := host
  have inside : index < members.size := (Array.getElem?_eq_some_iff.mp found).1
  have current : members.getD index default = member := by
    rw [Array.getD_eq_getD_getElem?, found, Option.getD_some]
  simp only [letWork, current, Array.getElem?_setIfInBounds]
  by_cases here : other = index
  · simp [here, inside]
  · simp [here, Ne.symm here]

/-- The board after a session has worked. -/
theorem hall_letWork {α : Type} (host : Host κ) {index : Nat} {member : Member}
    (found : host.members[index]? = some member) (work : Session → Outcome α) :
    (host.letWork index work).2.hall =
      host.hall.publishAll member.channel (work (member.session.withDisk host.disk)).messages := by
  obtain ⟨hall, members, disk⟩ := host
  have current : members.getD index default = member := by
    rw [Array.getD_eq_getD_getElem?, found, Option.getD_some]
  simp only [letWork, current]

/-- The files after a session has worked. -/
theorem disk_letWork {α : Type} (host : Host κ) {index : Nat} {member : Member}
    (found : host.members[index]? = some member) (work : Session → Outcome α) :
    (host.letWork index work).2.disk =
      (work (member.session.withDisk host.disk)).session.store.world.disk := by
  obtain ⟨hall, members, disk⟩ := host
  have current : members.getD index default = member := by
    rw [Array.getD_eq_getD_getElem?, found, Option.getD_some]
  simp only [letWork, current]

/-- Work that leaves no message undelivered. -/
theorem Sound.letWork {α : Type} {host : Host κ} (sound : host.Sound) {index : Nat}
    {member : Member} (found : host.members[index]? = some member) {work : Session → Outcome α}
    (delivers : ∀ session, (work session).session.IsDelivered) :
    (host.letWork index work).2.Sound := by
  obtain ⟨ready, size⟩ := Board.publishAll_ready
    (work (member.session.withDisk host.disk)).messages _ (sound.ready found)
  rw [← hall_letWork host found work] at ready size
  refine ⟨ready.consistent, ?_, ?_⟩
  · intro other worker isWorker
    rw [getElem?_letWork host found] at isWorker
    split at isWorker
    · cases isWorker
      exact ready.isOpen
    · rw [size]
      exact sound.isOpen other worker isWorker
  · intro other worker isWorker
    rw [getElem?_letWork host found] at isWorker
    split at isWorker
    · cases isWorker
      exact (delivers _).withDisk {}
    · exact sound.delivered other worker isWorker

/-- A step with a session that there is. -/
theorem step?_eq_some {host : Host κ} {index : Nat} {member : Member}
    (found : host.members[index]? = some member) (step : HostStep κ) :
    host.step? index step = some (host.step index step) :=
  if_pos (Array.getElem?_eq_some_iff.mp found).1

theorem Sound.step {host after : Host κ} (sound : host.Sound) {index : Nat}
    {step : HostStep κ} {answer : HostAnswer}
    (taken : host.step? index step = some (answer, after)) : after.Sound := by
  cases found : host.members[index]? with
  | none =>
      rw [step?, if_neg (by simpa using found)] at taken
      cases taken
  | some member =>
      have current : host.members.getD index default = member := by
        rw [Array.getD_eq_getD_getElem?, found, Option.getD_some]
      have ready := sound.ready found
      rw [step?_eq_some found, Option.some.injEq] at taken
      have same : (host.step index step).2 = after := congrArg Prod.snd taken
      rw [← same]
      cases step with
      | execute source =>
          change (host.letWork index (·.execute source)).2.Sound
          exact sound.letWork found fun session => session.isDelivered_execute source
      | observe kind =>
          simp only [Host.step, current]
          have grows := Board.Grows.subscribe ready.consistent ready.isOpen kind ready.isTold
          exact ⟨grows.consistent, grows.channels ▸ sound.isOpen, sound.delivered⟩
      | publish text =>
          simp only [Host.step, current]
          obtain ⟨readyLater, size⟩ := Board.publishAll_ready [text] host.hall ready
          exact ⟨readyLater.consistent, size ▸ sound.isOpen, sound.delivered⟩
      | set name value =>
          refine ⟨sound.consistent, ?_, ?_⟩
          · intro other worker isWorker
            simp only [Host.step, Array.getElem?_modify] at isWorker
            split at isWorker
            · obtain ⟨before, isBefore, rfl⟩ := Option.map_eq_some_iff.mp isWorker
              exact sound.isOpen other before isBefore
            · exact sound.isOpen other worker isWorker
          · intro other worker isWorker
            simp only [Host.step, Array.getElem?_modify] at isWorker
            split at isWorker
            · obtain ⟨before, isBefore, rfl⟩ := Option.map_eq_some_iff.mp isWorker
              exact (sound.delivered other before isBefore).set name value
            · exact sound.delivered other worker isWorker
      | get name wanted =>
          have worked : (host.step index (.get name wanted)).2 =
              (host.letWork index (·.get name wanted)).2 := by
            simp only [Host.step]
            split <;> simp [*]
          rw [worked]
          exact sound.letWork found fun session => session.isDelivered_get name wanted
      | listeners => exact sound
      | redirected => exact sound
      | describe => exact sound
      | names => exact sound
      | contains name => exact sound

/-- Every reachable host is sound. -/
theorem Reachable.sound {host : Host κ} (reachable : Reachable host) : host.Sound := by
  induction reachable with
  | start => exact sound_start
  | opened _ settings bootstrap sink ih => exact ih.open settings bootstrap sink
  | stepped _ taken ih => exact ih.step taken
  | filed _ name contents ih => exact ⟨ih.consistent, ih.isOpen, ih.delivered⟩

end Host

end LuaSession
