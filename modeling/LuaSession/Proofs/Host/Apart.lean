import LuaSession.Proofs.Channel.Apart
import LuaSession.Proofs.Host.Opening
import LuaSession.Proofs.Host.Panics

/-!
# Engines apart

A host keeps its engines apart: each has a session and a channel of its own. Whatever else the
host does, with other engines and with its files, an engine whose scripts use no files answers
every step as it does in a host of its own, and its listeners are told the same in the same
order. Only their numbers, and that of the engine, are others.
-/

namespace LuaSession

open LuaSession.Script

variable {κ : Type}

/-! ## Scripts that use no files -/

/-- Whatever files there are, some work of a session comes to the same and leaves them alone. -/
def Session.Spares {α : Type} (session : Session) (work : Session → Outcome α) : Prop :=
  ∀ disk, work (session.withDisk disk) =
    { work (session.withDisk {}) with session := (work (session.withDisk {})).session.withDisk disk }

/-- Where some work uses no files, nothing depends on them. -/
theorem Session.Spares.on {α : Type} {session : Session}
    {work : Session → Outcome α} (spares : session.Spares work) (disk : Disk) :
    (work (session.withDisk disk)).value = (work (session.withDisk {})).value ∧
    (work (session.withDisk disk)).messages = (work (session.withDisk {})).messages ∧
    (work (session.withDisk disk)).session.withDisk {} =
      (work (session.withDisk {})).session.withDisk {} := by
  rw [spares disk]
  exact ⟨rfl, rfl, rfl⟩

/-- What a step has a session do uses no files. -/
def Session.SparesFiles (session : Session) : HostStep κ → Prop
  | .execute source => session.Spares (·.execute source)
  | .get name wanted => session.Spares (·.get name wanted)
  | _ => True

/-- The step that an action does with an engine. -/
def HostAction.with? (index : Nat) : HostAction κ → Option (HostStep κ)
  | .step other taken => if other = index then some taken else none
  | _ => none

namespace Host

variable {host alone : Host κ} {index other place : Nat} {member : Member}

/-! ## What a step does -/

theorem getD_members (found : host.members[index]? = some member) :
    host.members.getD index default = member := by
  rw [Array.getD_eq_getD_getElem?, found, Option.getD_some]

variable [Audience κ]

section Step

/-- Executing a script lets the session work. -/
theorem step_execute (host : Host κ) (index : Nat) (source : String) :
    (host.step index (.execute source)).2 = (host.letWork index (·.execute source)).2 := rfl

/-- So does asking for a value. -/
theorem step_get (host : Host κ) (index : Nat) (name : String) (wanted : Wanted) :
    (host.step index (.get name wanted)).2 = (host.letWork index (·.get name wanted)).2 := by
  simp only [Host.step]
  split <;> simp [*]

variable (found : host.members[index]? = some member)

include found

/-- A step publishes and registers on its engine's channel only. -/
theorem moves_step (taken : HostStep κ) :
    Board.Moves member.channel host.hall (host.step index taken).2.hall := by
  cases taken with
  | execute source =>
      rw [step_execute, hall_letWork host found]
      exact Board.publishAll_moves _
  | observe kind =>
      simp only [Host.step, getD_members found]
      exact .single (.subscribe kind (by simp))
  | publish text =>
      simp only [Host.step, getD_members found]
      exact Board.publishAll_moves [text]
  | get name wanted =>
      rw [step_get, hall_letWork host found]
      exact Board.publishAll_moves _
  | _ => exact .refl

/-- The other engines stay as they are. -/
theorem members_step_of_ne (taken : HostStep κ) (apart : other ≠ index) :
    (host.step index taken).2.members[other]? = host.members[other]? := by
  cases taken with
  | execute source =>
      rw [step_execute, getElem?_letWork host found, if_neg apart]
  | set name value => simp [Host.step, Array.getElem?_modify, apart.symm]
  | get name wanted =>
      rw [step_get, getElem?_letWork host found, if_neg apart]
  | _ => rfl

/-- An engine keeps its channel. -/
theorem exists_member_step (taken : HostStep κ) :
    ∃ later, (host.step index taken).2.members[index]? = some later ∧
      later.channel = member.channel := by
  cases taken with
  | execute source =>
      rw [step_execute, getElem?_letWork host found, if_pos rfl]
      exact ⟨_, rfl, rfl⟩
  | set name value =>
      refine ⟨{ member with session := member.session.set name value }, ?_, rfl⟩
      simp [Host.step, Array.getElem?_modify, found]
  | get name wanted =>
      rw [step_get, getElem?_letWork host found, if_pos rfl]
      exact ⟨_, rfl, rfl⟩
  | _ => exact ⟨member, found, rfl⟩

end Step

/-! ## Engines have channels of their own -/

/-- No two engines share a channel. -/
def Separate (host : Host κ) : Prop :=
  ∀ (index other : Nat) (member stranger : Member), host.members[index]? = some member →
    host.members[other]? = some stranger → other ≠ index → stranger.channel ≠ member.channel

theorem Separate.step {after : Host κ} (separate : host.Separate) {taken : HostStep κ}
    {answer : HostAnswer} (stepped : host.step? index taken = some (answer, after)) :
    after.Separate := by
  cases found : host.members[index]? with
  | none =>
      rw [step?, if_neg (by simpa using found)] at stepped
      cases stepped
  | some member =>
      rw [step?_eq_some found, Option.some.injEq] at stepped
      obtain rfl : (host.step index taken).2 = after := congrArg Prod.snd stepped
      have before {here : Nat} {later : Member}
          (isLater : (host.step index taken).2.members[here]? = some later) :
          ∃ earlier, host.members[here]? = some earlier ∧ later.channel = earlier.channel := by
        by_cases same : here = index
        · subst same
          obtain ⟨_, isThere, channel⟩ := exists_member_step found taken
          cases isThere.symm.trans isLater
          exact ⟨member, found, channel⟩
        · rw [members_step_of_ne found taken same] at isLater
          exact ⟨later, isLater, rfl⟩
      intro here there resident stranger isResident isStranger apart
      obtain ⟨_, wasResident, sameResident⟩ := before isResident
      obtain ⟨_, wasStranger, sameStranger⟩ := before isStranger
      rw [sameResident, sameStranger]
      exact separate here there _ _ wasResident wasStranger apart

theorem Separate.open (separate : host.Separate) (sound : host.Sound) (settings : Settings)
    (bootstrap : String) (sink : κ) : (host.open settings bootstrap sink).2.Separate := by
  rw [Host.open]
  cases Session.create settings bootstrap with
  | error error => exact separate
  | ok outcome =>
      obtain ⟨hall, members, disk⟩ := host
      intro here there resident stranger isResident isStranger apart
      rw [Array.getElem?_push] at isResident isStranger
      split at isResident
      next isNew =>
        cases isResident
        rw [if_neg (isNew ▸ apart)] at isStranger
        exact Nat.ne_of_lt (sound.isOpen there stranger isStranger)
      next isOld =>
        split at isStranger
        next isNew =>
          cases isStranger
          exact Nat.ne_of_gt (sound.isOpen here resident isResident)
        next _ => exact separate here there resident stranger isResident isStranger apart

theorem Reachable.separate (reachable : Reachable host) : host.Separate := by
  induction reachable with
  | start => simp [Separate]
  | opened before settings bootstrap sink ih => exact ih.open before.sound settings bootstrap sink
  | stepped _ taken ih => exact ih.step taken
  | filed _ name contents ih => exact ih

/-! ## An engine by itself -/

/-- An engine of one host and one of another have the same session, and their listeners, which
are of the same kinds, have been told the same. -/
structure Resembles (host : Host κ) (index : Nat) (alone : Host κ) (place : Nat)
    (member single : Member) : Prop where
  found : host.members[index]? = some member
  foundAlone : alone.members[place]? = some single
  session : single.session = member.session
  echoes : Board.Echoes member.channel single.channel host.hall alone.hall

/-- What becomes of two engines that resemble each other when they do the same: they answer the
same, and still resemble each other. -/
def GoAlike {α : Type} (index place : Nat) (result resultAlone : α × Host κ) : Prop :=
  result.1 = resultAlone.1 ∧
    ∃ member single, Resembles result.2 index resultAlone.2 place member single

theorem value_letWork {α : Type} (found : host.members[index]? = some member)
    (work : Session → Outcome α) :
    (host.letWork index work).1 = (work (member.session.withDisk host.disk)).value := by
  obtain ⟨hall, members, disk⟩ := host
  simp only [letWork, getD_members found]

namespace Resembles

variable {single : Member} (resembles : Resembles host index alone place member single)
  (sound : host.Sound) (soundAlone : alone.Sound)

include resembles sound

section Alone

include soundAlone

theorem letWork {α : Type} {work : Session → Outcome α} (spares : member.session.Spares work) :
    GoAlike index place (host.letWork index work) (alone.letWork place work) := by
  obtain ⟨found, foundAlone, session, echoes⟩ := resembles
  obtain ⟨value, messages, later⟩ := spares.on host.disk
  obtain ⟨valueAlone, messagesAlone, laterAlone⟩ := spares.on alone.disk
  refine ⟨?_, _, _, (getElem?_letWork host found work index).trans (if_pos rfl),
    (getElem?_letWork alone foundAlone work place).trans (if_pos rfl), ?_, ?_⟩
  · rw [value_letWork found, value_letWork foundAlone, session, value, valueAlone]
  · rw [session, later, laterAlone]
  · rw [hall_letWork host found, hall_letWork alone foundAlone, session, messages, messagesAlone]
    exact Board.publishAll_echoes _ ⟨sound.consistent, sound.isOpen index member found⟩
      ⟨soundAlone.consistent, soundAlone.isOpen place single foundAlone⟩ echoes

/-- A step with both engines. -/
theorem step {taken : HostStep κ} (spares : member.session.SparesFiles taken) :
    GoAlike index place (host.step index taken) (alone.step place taken) := by
  have current := getD_members resembles.found
  have currentAlone := getD_members resembles.foundAlone
  have session := resembles.session
  have echoes := resembles.echoes
  have opens : host.hall.Opens member.channel :=
    ⟨sound.consistent, sound.isOpen index member resembles.found⟩
  have opensAlone : alone.hall.Opens single.channel :=
    ⟨soundAlone.consistent, soundAlone.isOpen place single resembles.foundAlone⟩
  cases taken with
  | execute source =>
      have work : member.session.Spares (·.execute source) := spares
      obtain ⟨_, later⟩ := resembles.letWork sound soundAlone work
      exact ⟨rfl, later⟩
  | observe kind =>
      simp only [Host.step, current, currentAlone]
      exact ⟨rfl, member, single, resembles.found, resembles.foundAlone, session,
        echoes.subscribe opens opensAlone kind none none⟩
  | publish text =>
      simp only [Host.step, current, currentAlone]
      exact ⟨rfl, member, single, resembles.found, resembles.foundAlone, session,
        Board.publishAll_echoes [text] opens opensAlone echoes⟩
  | listeners =>
      simp only [Host.step, current, currentAlone, echoes.count]
      exact ⟨rfl, member, single, resembles⟩
  | redirected =>
      simp only [Host.step, current, currentAlone, session]
      exact ⟨rfl, member, single, resembles⟩
  | describe =>
      have shown : alone.hall.describe single.channel = host.hall.describe member.channel := by
        unfold Board.describe
        rw [echoes.count]
      have described : alone.describe single = host.describe member := by
        unfold Host.describe
        rw [shown, session]
      simp only [Host.step, current, currentAlone, described]
      exact ⟨rfl, member, single, resembles⟩
  | names =>
      simp only [Host.step, current, currentAlone, session]
      exact ⟨rfl, member, single, resembles⟩
  | contains name =>
      simp only [Host.step, current, currentAlone, session]
      exact ⟨rfl, member, single, resembles⟩
  | set name value =>
      refine ⟨rfl, { member with session := member.session.set name value },
        { single with session := single.session.set name value }, ?_, ?_, ?_, echoes⟩
      · simp [Host.step, Array.getElem?_modify, resembles.found]
      · simp [Host.step, Array.getElem?_modify, resembles.foundAlone]
      · rw [session]
  | get name wanted =>
      have work : member.session.Spares (·.get name wanted) := spares
      obtain ⟨same, later⟩ := resembles.letWork sound soundAlone work
      simp only [Host.step]
      generalize host.letWork index (·.get name wanted) = result at same later ⊢
      generalize alone.letWork place (·.get name wanted) = resultAlone at same later ⊢
      obtain ⟨value, after⟩ := result
      obtain ⟨valueAlone, afterAlone⟩ := resultAlone
      obtain rfl : value = valueAlone := same
      cases value with
      | ok reading => exact ⟨rfl, later⟩
      | error error => exact ⟨rfl, later⟩

end Alone

/-- A step with another engine of the first host. -/
theorem step_of_ne (separate : host.Separate) {stranger : Member} (apart : other ≠ index)
    (isThere : host.members[other]? = some stranger) (taken : HostStep κ) :
    Resembles (host.step other taken).2 index alone place member single where
  found := (members_step_of_ne isThere taken apart.symm).trans resembles.found
  foundAlone := resembles.foundAlone
  session := resembles.session
  echoes := by
    have channels : member.channel ≠ stranger.channel :=
      separate other index stranger member isThere resembles.found apart.symm
    obtain ⟨sameListeners, sameTale⟩ := (moves_step isThere taken).aside sound.consistent
      (sound.isOpen other stranger isThere) channels
    constructor
    · rw [Board.kinds, sameListeners]
      exact resembles.echoes.kinds
    · rw [sameTale]
      exact resembles.echoes.tale

/-- Opening another engine in the first host. -/
theorem «open» (settings : Settings) (bootstrap : String) (sink : κ) :
    Resembles (host.open settings bootstrap sink).2 index alone place member single := by
  have isOpen := sound.isOpen index member resembles.found
  rw [Host.open]
  cases Session.create settings bootstrap with
  | error error =>
      have echoes : Board.Echoes member.channel single.channel host.hall.skipNumber alone.hall :=
        ⟨resembles.echoes.kinds, resembles.echoes.tale⟩
      exact ⟨resembles.found, resembles.foundAlone, resembles.session, echoes⟩
  | ok outcome =>
      obtain ⟨hall, members, disk⟩ := host
      have inside : index < members.size := (Array.getElem?_eq_some_iff.mp resembles.found).1
      have apart : member.channel ≠ hall.channels.size := Nat.ne_of_lt isOpen
      have opened : hall.openChannel.listeners member.channel = hall.listeners member.channel := by
        simp [Board.openChannel, Board.listeners, Array.getElem?_push, apart]
      have moves : Board.Moves hall.channels.size hall.openChannel
          ((hall.openChannel.subscribe hall.channels.size sink).publishAll hall.channels.size
            outcome.messages) :=
        .head (.subscribe sink (by simp)) (Board.publishAll_moves _)
      obtain ⟨sameListeners, sameTale⟩ := moves.aside sound.consistent.openChannel
        (by simp [Board.openChannel]) apart
      refine ⟨?_, resembles.foundAlone, resembles.session, ?_, ?_⟩
      · exact (Array.getElem?_push.trans (if_neg (Nat.ne_of_lt inside))).trans resembles.found
      · rw [Board.kinds, sameListeners, opened]
        exact resembles.echoes.kinds
      · rw [sameTale, ← resembles.echoes.tale, Board.tale, Board.numbers, opened]
        rfl

end Resembles

/-! ## Whole runs -/

theorem Reachable.act (reachable : Reachable host) (action : HostAction κ) :
    Reachable (host.act action).2 := by
  cases action with
  | «open» settings bootstrap sink => exact reachable.opened settings bootstrap sink
  | step index taken =>
      simp only [Host.act]
      cases stepped : host.step? index taken with
      | none => exact reachable
      | some result =>
          obtain ⟨answer, after⟩ := result
          exact reachable.stepped stepped
  | putFile name contents => exact reachable.filed name contents

theorem Reachable.run (reachable : Reachable host) (actions : List (HostAction κ)) :
    Reachable (host.run actions).2 := by
  induction actions generalizing host with
  | nil => exact reachable
  | cons action actions ih => exact ih (reachable.act action)

/-- What is done with others leaves an engine alone. -/
theorem Resembles.act {single : Member} (resembles : Resembles host index alone place member single)
    (reachable : Reachable host) {action : HostAction κ} (others : action.with? index = none) :
    Resembles (host.act action).2 index alone place member single := by
  cases action with
  | «open» settings bootstrap sink => exact resembles.open reachable.sound settings bootstrap sink
  | step other taken =>
      have apart : other ≠ index := by simpa [HostAction.with?] using others
      cases isThere : host.members[other]? with
      | none =>
          have missing : host.step? other taken = none := if_neg (by simpa using isThere)
          simp only [Host.act, missing]
          exact resembles
      | some stranger =>
          simp only [Host.act, step?_eq_some isThere]
          exact resembles.step_of_ne reachable.sound reachable.separate apart isThere taken
  | putFile name contents =>
      exact ⟨resembles.found, resembles.foundAlone, resembles.session, resembles.echoes⟩

/-- The steps that are done with an engine. -/
def stepsWith (index : Nat) (actions : List (HostAction κ)) : List (HostStep κ) :=
  actions.filterMap (·.with? index)

/-- The answers to the steps that are done with an engine. -/
def answersOf (index : Nat) (actions : List (HostAction κ)) (answers : List (Option HostAnswer)) :
    List HostAnswer :=
  (actions.zip answers).filterMap fun (action, answer) =>
    if (action.with? index).isSome then answer else none

/-- Steps with an engine, none of which uses files. -/
def SparesFiles (host : Host κ) (index : Nat) : List (HostStep κ) → Prop
  | [] => True
  | taken :: rest =>
      (∀ member, host.members[index]? = some member → member.session.SparesFiles taken) ∧
        (host.step index taken).2.SparesFiles index rest

/-- Two engines that resemble each other go alike as long as the same is done with both, whatever
is done with others in the first host. -/
theorem Resembles.run {single : Member} (resembles : Resembles host index alone place member single)
    (reachable : Reachable host) (reachableAlone : Reachable alone)
    (actions : List (HostAction κ))
    (spares : alone.SparesFiles place (stepsWith index actions)) :
    (answersOf index actions (host.run actions).1).map some =
        (alone.run ((stepsWith index actions).map (.step place))).1 ∧
      ∃ later laterAlone, Resembles (host.run actions).2 index
        (alone.run ((stepsWith index actions).map (.step place))).2 place later laterAlone := by
  induction actions generalizing host alone member single with
  | nil => exact ⟨rfl, member, single, resembles⟩
  | cons action actions ih =>
      cases own : action.with? index with
      | none =>
          have steps : stepsWith index (action :: actions) = stepsWith index actions :=
            List.filterMap_cons_none own
          rw [steps] at spares ⊢
          obtain ⟨answers, later⟩ :=
            ih (resembles.act reachable own) (reachable.act action) reachableAlone spares
          refine ⟨?_, later⟩
          rw [← answers]
          simp [answersOf, Host.run, own]
      | some taken =>
          have steps : stepsWith index (action :: actions) = taken :: stepsWith index actions :=
            List.filterMap_cons_some own
          rw [steps] at spares ⊢
          obtain rfl : action = .step index taken := by
            cases action with
            | step other step =>
                by_cases same : other = index
                · simp_all [HostAction.with?]
                · simp [HostAction.with?, same] at own
            | _ => cases own
          have first := resembles.step reachable.sound reachableAlone.sound
            (resembles.session ▸ spares.1 single resembles.foundAlone)
          have acted : host.act (.step index taken) =
              (some (host.step index taken).1, (host.step index taken).2) := by
            simp only [Host.act, step?_eq_some resembles.found]
          have actedAlone : alone.act (.step place taken) =
              (some (alone.step place taken).1, (alone.step place taken).2) := by
            simp only [Host.act, step?_eq_some resembles.foundAlone]
          have reached := reachable.act (.step index taken)
          have reachedAlone := reachableAlone.act (.step place taken)
          rw [acted] at reached
          rw [actedAlone] at reachedAlone
          obtain ⟨same, _, _, after⟩ := first
          obtain ⟨answers, later⟩ := ih after reached reachedAlone spares.2
          simp only [List.map_cons, Host.run, acted, actedAlone]
          refine ⟨?_, later⟩
          rw [← answers, ← same]
          simp [answersOf, own]

end Host

end LuaSession
