import LuaSession.Host
import LuaSession.Proofs.Channel.Panics

/-!
# Hosts whose listeners panic

A host is told what to do, one thing after the other, with listeners that may panic
and once more with listeners that do the same and do not. The two runs go alike: all
that the host gets for what it does, its sessions with all that their scripts have
bound, its files, and what every listener was told and has noted.
-/

namespace LuaSession

variable {φ κ : Type}

/-- Something that a host does: it opens a session, does a step with one, or puts a
file into its directory. -/
inductive HostAction (κ : Type := Conduct) where
  | «open» (settings : Settings) (bootstrap : String) (sink : κ)
  | step (index : Nat) (taken : HostStep κ)
  | putFile (name contents : Bytes)

/-- A step, with the listener that it may register as one of another kind. -/
def HostStep.map (plain : φ → κ) : HostStep φ → HostStep κ
  | .execute source => .execute source
  | .observe kind => .observe (plain kind)
  | .publish text => .publish text
  | .listeners => .listeners
  | .redirected => .redirected
  | .describe => .describe
  | .names => .names
  | .contains name => .contains name
  | .set name value => .set name value
  | .get name wanted => .get name wanted

/-- An action, with the listener that it may register as one of another kind. -/
def HostAction.map (plain : φ → κ) : HostAction φ → HostAction κ
  | .open settings bootstrap sink => .open settings bootstrap (plain sink)
  | .step index taken => .step index (taken.map plain)
  | .putFile name contents => .putFile name contents

namespace Host

section Running

variable [Audience κ]

/-- Do something; there is no answer when there is no such session. -/
def act (host : Host κ) : HostAction κ → Option HostAnswer × Host κ
  | .open settings bootstrap sink =>
      let (answer, host) := host.open settings bootstrap sink
      (some answer, host)
  | .step index taken =>
      match host.step? index taken with
      | some (answer, host) => (some answer, host)
      | none => (none, host)
  | .putFile name contents => (none, host.putFile name contents)

/-- Do several things one after the other, with the answer to each. -/
def run (host : Host κ) : List (HostAction κ) → List (Option HostAnswer) × Host κ
  | [] => ([], host)
  | action :: actions =>
      let (answer, host) := host.act action
      let (answers, host) := host.run actions
      (answer :: answers, host)

end Running

/-- A host with fragile listeners and one with plain ones to which the same has
happened, but for panics. -/
structure Mirrors (plain : φ → κ) (host : Host φ) (other : Host κ) : Prop where
  hall : Board.Mirrors plain host.hall other.hall
  members : other.members = host.members
  disk : other.disk = host.disk

/-- Results and the hosts after them, which mirror each other. -/
structure Alike {α : Type} (plain : φ → κ) (result : α × Host φ) (other : α × Host κ) : Prop where
  same : other.1 = result.1
  mirrors : Mirrors plain result.2 other.2

namespace Mirrors

variable {plain : φ → κ} {host : Host φ} {other : Host κ}

theorem start (plain : φ → κ) : Mirrors plain {} {} := ⟨.empty plain, rfl, rfl⟩

variable (mirrors : Mirrors plain host other)

include mirrors

theorem putFile (name contents : Bytes) :
    Mirrors plain (host.putFile name contents) (other.putFile name contents) where
  hall := mirrors.hall
  members := mirrors.members
  disk := by rw [Host.putFile, Host.putFile, mirrors.disk]

/-- A session is shown by the same text. -/
theorem describe (member : Member) : other.describe member = host.describe member := by
  have shown : other.hall.describe member.channel = host.hall.describe member.channel := by
    unfold Board.describe
    rw [mirrors.hall.count]
  unfold Host.describe
  rw [shown]

variable [Audience φ] [Audience κ] (fragile : Fragile plain)

include fragile

/-- Working with a session: only what it gives out gets to the listeners. -/
theorem letWork {α : Type} (index : Nat) (work : Session → Outcome α) :
    Alike plain (host.letWork index work) (other.letWork index work) := by
  obtain ⟨hall, members, disk⟩ := host
  obtain ⟨otherHall, _, _⟩ := other
  obtain ⟨halls, rfl, rfl⟩ := mirrors
  exact ⟨rfl, Board.publishAll_mirrors fragile halls _, rfl, rfl⟩

theorem «open» (settings : Settings) (bootstrap : String) (sink : φ) :
    Alike plain (host.open settings bootstrap sink)
      (other.open settings bootstrap (plain sink)) := by
  obtain ⟨hall, members, disk⟩ := host
  obtain ⟨otherHall, _, _⟩ := other
  obtain ⟨halls, rfl, rfl⟩ := mirrors
  have channels : otherHall.channels.size = hall.channels.size := by
    rw [halls.channels, Array.size_map]
  rw [Host.open, Host.open]
  cases Session.create settings bootstrap with
  | error error => exact ⟨rfl, halls.skipNumber, rfl, rfl⟩
  | ok outcome =>
      simp only [channels]
      exact ⟨rfl, Board.publishAll_mirrors fragile (halls.openChannel.subscribe _ sink none) _,
        rfl, rfl⟩

/-- A step with a session. -/
theorem step (index : Nat) (taken : HostStep φ) :
    Alike plain (host.step index taken) (other.step index (taken.map plain)) := by
  have members := mirrors.members
  have halls := mirrors.hall
  cases taken with
  | execute source => exact ⟨rfl, (mirrors.letWork fragile index (·.execute source)).mirrors⟩
  | observe kind =>
      simp only [Host.step, HostStep.map, members]
      exact ⟨rfl, halls.subscribe _ kind none, rfl, mirrors.disk⟩
  | publish text =>
      simp only [Host.step, HostStep.map, members]
      exact ⟨rfl, Board.publish_mirrors fragile halls text, rfl, mirrors.disk⟩
  | listeners =>
      simp only [Host.step, HostStep.map, members, halls.count]
      exact ⟨rfl, mirrors⟩
  | redirected =>
      simp only [Host.step, HostStep.map, members]
      exact ⟨rfl, mirrors⟩
  | describe =>
      simp only [Host.step, HostStep.map, members, mirrors.describe]
      exact ⟨rfl, mirrors⟩
  | names =>
      simp only [Host.step, HostStep.map, members]
      exact ⟨rfl, mirrors⟩
  | contains name =>
      simp only [Host.step, HostStep.map, members]
      exact ⟨rfl, mirrors⟩
  | set name value =>
      simp only [Host.step, HostStep.map, members]
      exact ⟨rfl, halls, rfl, mirrors.disk⟩
  | get name wanted =>
      have worked := mirrors.letWork fragile index (·.get name wanted)
      simp only [Host.step, HostStep.map]
      generalize host.letWork index (·.get name wanted) = result at worked ⊢
      generalize other.letWork index (·.get name wanted) = otherResult at worked ⊢
      obtain ⟨value, after⟩ := result
      obtain ⟨otherValue, otherAfter⟩ := otherResult
      obtain ⟨same, after⟩ := worked
      obtain rfl : otherValue = value := same
      cases otherValue with
      | ok reading => exact ⟨rfl, after⟩
      | error error => exact ⟨rfl, after⟩

theorem act (action : HostAction φ) :
    Alike plain (host.act action) (other.act (action.map plain)) := by
  cases action with
  | «open» settings bootstrap sink =>
      have opened := mirrors.open fragile settings bootstrap sink
      exact ⟨congrArg some opened.same, opened.mirrors⟩
  | step index taken =>
      have stepped := mirrors.step fragile index taken
      simp only [Host.act, HostAction.map, Host.step?, mirrors.members]
      by_cases inside : index < host.members.size
      · simp only [if_pos inside]
        exact ⟨congrArg some stepped.same, stepped.mirrors⟩
      · simp only [if_neg inside]
        exact ⟨rfl, mirrors⟩
  | putFile name contents => exact ⟨rfl, mirrors.putFile name contents⟩

theorem run (actions : List (HostAction φ)) :
    Alike plain (host.run actions) (other.run (actions.map (HostAction.map plain))) := by
  induction actions generalizing host other with
  | nil => exact ⟨rfl, mirrors⟩
  | cons action actions ih =>
      have acted := mirrors.act fragile action
      have rest := ih acted.mirrors
      refine ⟨?_, rest.mirrors⟩
      simp only [Host.run, List.map_cons, acted.same, rest.same]

end Mirrors

end Host

/-- A listener of some kind that may panic when it has done what that kind does; so
may those that it registers. -/
structure Nervous (κ : Type) where
  kind : κ
  /-- Does it panic, given how many messages it has had before? -/
  panics : Nat → String → Bool

namespace Nervous

/-- An act, whose new listener may panic as its maker may. -/
def passOn (panics : Nat → String → Bool) : Act κ → Act (Nervous κ)
  | .subscribe kind => .subscribe ⟨kind, panics⟩
  | .publish message => .publish message
  | .noteCount => .noteCount
  | .panic => .panic

theorem map_passOn (panics : Nat → String → Bool) (act : Act κ) :
    (passOn panics act).map Nervous.kind = act := by
  cases act <;> rfl

variable [Audience κ]

instance : Audience (Nervous κ) where
  react listener before message :=
    (Audience.react listener.kind before message).map (passOn listener.panics) ++
      if listener.panics before message then [.panic] else []
  depth := Audience.depth κ

/-- Whatever messages they panic at, they do what the plain ones do. -/
theorem fragile : Fragile (Nervous.kind : Nervous κ → κ) where
  depth := rfl
  react listener before message := by
    have plainly : ((Audience.react listener.kind before message).map
        (passOn listener.panics)).map (Act.map Nervous.kind) =
        Audience.react listener.kind before message := by
      rw [List.map_map]
      exact (List.map_congr_left fun act _ => map_passOn listener.panics act).trans (List.map_id _)
    simp only [Audience.react, MayPanicAfter, List.map_append, plainly]
    split
    · exact .inr rfl
    · exact .inl (List.append_nil _)

end Nervous

end LuaSession
