import LuaSession.Channel.Desk
import LuaSession.Session.Scope
import LuaSession.Text.Quoted

/-!
# Hosts

A host keeps several sessions, each with a channel of its own, and one directory
of files that all of them see. The messages of a session are published on its
channel.
-/

namespace LuaSession

open LuaSession.Script

/-- A session and its channel. -/
structure Member where
  session : Session
  channel : Nat
  deriving Inhabited

/-- A host with its sessions. -/
structure Host (κ : Type := Conduct) where
  hall : Hall κ := {}
  members : Array Member := #[]
  disk : Disk := {}

/-- What a host does with a session. -/
inductive HostStep (κ : Type := Conduct) where
  | execute (source : String)
  | observe (kind : κ)
  | publish (text : String)
  | listeners
  | redirected
  | describe
  | names
  | contains (name : String)
  | set (name : String) (value : HostValue)
  | get (name : String) (wanted : Wanted)

/-- What a host gets for a step. -/
inductive HostAnswer where
  | nothing
  | number (value : Nat)
  | truth (value : Bool)
  | text (value : String)
  | names (values : List String)
  | reading (value : Reading)
  | error (error : HostError)
  /-- A new session, by its number. -/
  | opened (index : Nat) (isRedirected : Bool)

namespace Host

variable {κ : Type}

/-- The directory, with a file put into it; names hold no slashes. -/
def putFile (host : Host κ) (name : Bytes) (contents : Bytes) : Host κ :=
  { host with disk := host.disk.putFile name contents }

/-- The contents of a file of the directory. -/
def contentsOf? (host : Host κ) (name : Bytes) : Option Bytes := host.disk.contentsOf? name

variable [Audience κ]

/-- Open a session whose messages a first listener gets. The listener has its
number even if the session cannot be opened. -/
def «open» (host : Host κ) (settings : Settings) (bootstrap : String) (sink : κ) :
    HostAnswer × Host κ :=
  match Session.create settings bootstrap with
  | .error error => (.error error, { host with hall := host.hall.skipNumber })
  | .ok outcome =>
      let { hall, members, disk } := host
      let channel := hall.channels.size
      let hall := hall.openChannel.subscribe channel sink
      let hall := hall.publishAll channel outcome.messages
      let session := outcome.session
      (.opened members.size session.isRedirected,
        { hall, disk, members := members.push { session, channel } })

/-- Let a session work in the directory and publish its messages. -/
def letWork {α : Type} (host : Host κ) (index : Nat) (work : Session → Outcome α) :
    α × Host κ :=
  let { hall, members, disk } := host
  let { session, channel } := members.getD index default
  let members := members.setIfInBounds index default
  let outcome := work (session.withDisk disk)
  let disk := outcome.session.store.world.disk
  let session := outcome.session.withDisk {}
  (outcome.value,
    { hall := hall.publishAll channel outcome.messages
      members := members.setIfInBounds index { session, channel }
      disk })

/-- The text that shows a session. -/
def describe (host : Host κ) (member : Member) : String :=
  let fields := [
    s!"chunk_name: {Text.quote member.session.chunkName}",
    s!"output_redirected: {member.session.isRedirected}",
    s!"channel: {host.hall.describe member.channel}" ]
  "ScriptEngine \x7b " ++ ", ".intercalate fields ++ " \x7d"

/-- Do a step with a session. -/
def step (host : Host κ) (index : Nat) (step : HostStep κ) : HostAnswer × Host κ :=
  let member := host.members.getD index default
  match step with
  | .execute source => (.nothing, (host.letWork index (·.execute source)).2)
  | .observe kind => (.nothing, { host with hall := host.hall.subscribe member.channel kind })
  | .publish text => (.nothing, { host with hall := host.hall.publish member.channel text })
  | .listeners => (.number (host.hall.count member.channel), host)
  | .redirected => (.truth member.session.isRedirected, host)
  | .describe => (.text (host.describe member), host)
  | .names => (.names member.session.names, host)
  | .contains name => (.truth (member.session.contains name), host)
  | .set name value =>
      (.nothing, { host with members := host.members.modify index fun member =>
        { member with session := member.session.set name value } })
  | .get name wanted =>
      match host.letWork index (·.get name wanted) with
      | (.ok reading, host) => (.reading reading, host)
      | (.error error, host) => (.error error, host)

/-- Do a step with a session, if there is such a session. -/
def step? (host : Host κ) (index : Nat) (step : HostStep κ) : Option (HostAnswer × Host κ) :=
  if index < host.members.size then some (host.step index step) else none

end Host

end LuaSession
