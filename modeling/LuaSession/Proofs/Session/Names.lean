import LuaSession.Proofs.Host.Opening
import LuaSession.Proofs.Machine.Moments
import LuaSession.Proofs.Session.Beginning
import LuaSession.Proofs.Session.Environment
import LuaSession.Session.Scope

/-!
# What names mean in a session

Whatever its scripts and its host do with a session, it has one scope from first to
last: scripts start with it as their environment, and it has what was assigned last
to each of its names. While it falls back on the globals as it did at first, a name
means what was assigned last, or else what the globals have.
-/

namespace LuaSession

open LuaSession.Script LuaSession.Library

/-! ## Values of the host -/

namespace HostValue

variable {J : Store → Prop}

mutual

/-- Making a value takes new tables and new functions. -/
theorem make_keeps (newTable : ∀ s table, J s → J (Store.newTable s table).2)
    (newNative : ∀ s native, J s → J (Store.newNative s native).2) (setting : Setting)
    (value : HostValue) (s : Store) (holds : J s) : J (value.make setting s).2 := by
  cases value with
  | list values =>
      rw [make]
      exact newTable _ _ (makeElements_keeps newTable newNative setting values 1 {} s holds)
  | map entries =>
      rw [make]
      exact newTable _ _ (makeFields_keeps newTable newNative setting entries {} s holds)
  | hosted function => exact newNative _ _ holds
  | _ => exact holds

theorem makeElements_keeps (newTable : ∀ s table, J s → J (Store.newTable s table).2)
    (newNative : ∀ s native, J s → J (Store.newNative s native).2) (setting : Setting)
    (values : List HostValue) (index : Nat) (table : Table) (s : Store) (holds : J s) :
    J (makeElements setting values index table s).2 := by
  cases values with
  | nil => exact holds
  | cons value rest =>
      rw [makeElements]
      exact makeElements_keeps newTable newNative setting rest _ _ _
        (make_keeps newTable newNative setting value s holds)

theorem makeFields_keeps (newTable : ∀ s table, J s → J (Store.newTable s table).2)
    (newNative : ∀ s native, J s → J (Store.newNative s native).2) (setting : Setting)
    (entries : List (String × HostValue)) (table : Table) (s : Store) (holds : J s) :
    J (makeFields setting entries table s).2 := by
  cases entries with
  | nil => exact holds
  | cons entry rest =>
      obtain ⟨name, value⟩ := entry
      rw [makeFields]
      exact makeFields_keeps newTable newNative setting rest _ _
        (make_keeps newTable newNative setting value s holds)

end

end HostValue

/-! ## The life of a session -/

namespace Session

/-- What the host asks the machine for when it reads a name. -/
def fieldRequest (session : Session) (name : String) : Request :=
  .protect .host true (.builtin (.adapter .field))
    #[.table session.setting.scope, .ofString name]

/-- What becomes of a session: scripts are executed that end, however they do, and
the host sets and reads names. -/
inductive Later (session : Session) : Session → Prop where
  | refl : session.Later session
  | executed {later : Session} {source : String} {ending : Option Hosted.Ending} {final : Store}
      (before : session.Later later) (ends : later.Ends source ending final) :
      session.Later (later.execute source).session
  | set {later : Session} (before : session.Later later) (name : String) (value : HostValue) :
      session.Later (later.set name value)
  | got {later : Session} {name : String} {result : Exit × Machine.State × Store}
      (before : session.Later later) (wanted : Wanted)
      (stops : Machine.Stops { threads := later.interpreter.threads }
        (.ask (later.fieldRequest name) later.store Machine.ends) result) :
      session.Later (later.get name wanted).session
  | moved {later : Session} (before : session.Later later) (disk : Disk) :
      session.Later (later.withDisk disk)

/-- The stores that a session meets next: its own, those of the moments of a script
that it executes, or of reading a name, and those between moments, which others
become by changes that scripts make. -/
inductive Meets (session : Session) : Store → Prop where
  | resting : session.Meets session.store
  | running {source : String} {function : Value} {after : Interpreter} {machine : Machine.State}
      {step : Step Exit}
      (loaded : session.interpreter.perform
        (Hosted.loadForHost session.setting source.toUTF8) = (.ok (.ok function), after))
      (passes : Machine.Passes { threads := after.threads }
        (.ask (scriptCall function) after.store Machine.ends) machine step) :
      session.Meets step.store
  | reading {name : String} {machine : Machine.State} {step : Step Exit}
      (passes : Machine.Passes { threads := session.interpreter.threads }
        (.ask (session.fieldRequest name) session.store Machine.ends) machine step) :
      session.Meets step.store
  | becoming {s t : Store} (meets : session.Meets s) (becomes : s.Becomes t) : session.Meets t

/-- The stores amid an evaluation. -/
theorem Meets.evaluated {session : Session} {s : Store} (meets : session.Meets s) {α : Type}
    {run : Run α} {kind : Kind} [kind.Holds s.Becomes] (keeps : run.Keeps kind s.Becomes) :
    session.Meets (run s).store :=
  .becoming meets (keeps.at .refl).store

/-- The host cannot take a property away either: not by making functions, not by
publishing, and not by taking the messages. -/
structure HostKeeps (J : Store → Prop) : Prop where
  lets : LetsPublish J
  newNative : ∀ s native, J s → J (Store.newNative s native).2
  delivered : ∀ s, J s → J (Store.delivered s)

theorem hostKeeps_remembers : HostKeeps Store.Remembers where
  lets _ remembers := remembers.congr rfl rfl rfl rfl
  newNative _ _ remembers := remembers.congr rfl rfl rfl rfl
  delivered _ remembers := remembers.congr rfl rfl rfl rfl

theorem hostKeeps_follows (start : Store) : HostKeeps start.Follows where
  lets _ follows := follows.trans ⟨rfl, rfl, List.suffix_rfl⟩
  newNative _ _ follows := follows.trans ⟨rfl, rfl, List.suffix_rfl⟩
  delivered _ follows := follows.trans ⟨rfl, rfl, List.suffix_rfl⟩

section Keeping

variable {shelter : Shelter} {J : Store → Prop} {session later : Session}

theorem HostKeeps.store_set [Lasting J] (host : HostKeeps J) (keeps : J session.store) (name : String)
    (value : HostValue) : J (session.set name value).store :=
  Lasting.effect (.put _ _ _ _) <|
    HostValue.make_keeps (fun _ _ => Lasting.effect (.newTable _ _)) host.newNative session.setting
      value session.store keeps

/-- Executing a script, when the run of the script keeps the property. -/
theorem HostKeeps.executed_of_performed (host : HostKeeps J) {source : String}
    {ending : Option Hosted.Ending} {after : Interpreter}
    (performed : session.interpreter.perform (Hosted.runScript session.setting source.toUTF8) =
      (.ok ending, after)) (kept : after.Keeps shelter J) :
    (session.execute source).session.setting = session.setting ∧
      (session.execute source).session.interpreter.Keeps shelter J := by
  obtain ⟨interpreter, setting, isRedirected⟩ := session
  change interpreter.perform (Hosted.runScript { setting with chunkName := setting.chunkName }
    source.toUTF8) = _ at performed
  simp only [Session.execute, Session.run, Session.perform, Session.chunkName, performed]
  exact ⟨trivial, host.delivered _ kept.store, kept.threads⟩

/-- Reading a name, when the run that reads it keeps the property. -/
theorem HostKeeps.got_of_stopped [Lasting J] (host : HostKeeps J) {name : String} {exit : Exit}
    {machine : Machine.State} {final : Store}
    (stops : Machine.Stops { threads := session.interpreter.threads }
      (.ask (session.fieldRequest name) session.store Machine.ends) (exit, machine, final))
    (threads : Machine.ThreadsKeep shelter J machine.threads) (holds : J final)
    (wanted : Wanted) :
    (session.get name wanted).session.setting = session.setting ∧
      (session.get name wanted).session.interpreter.Keeps shelter J := by
  have kept := Interpreter.keeps_callForHost stops threads holds
  obtain ⟨interpreter, setting, isRedirected⟩ := session
  simp only [Session.get, Session.perform, Interpreter.perform_bind]
  generalize interpreter.perform (Hosted.callForHost _ _) = called at kept ⊢
  obtain ⟨_ | _, after⟩ := called
  · exact ⟨trivial, host.delivered _ kept.store, kept.threads⟩
  · exact ⟨trivial, host.delivered _ kept.store, kept.threads⟩

variable [shelter.IsClosed] [Sheltered shelter J]

/-- Executing a script that ends. -/
theorem HostKeeps.executed (host : HostKeeps J) {source : String}
    {ending : Option Hosted.Ending} {final : Store} (ends : session.Ends source ending final)
    (keeps : session.interpreter.Keeps shelter J) :
    (session.execute source).session.setting = session.setting ∧
      (session.execute source).session.interpreter.Keeps shelter J := by
  obtain ⟨threads, performed, kept⟩ := ends.keeps keeps
  exact host.executed_of_performed performed kept

/-- Reading a name that comes to an end. -/
theorem HostKeeps.got (host : HostKeeps J) {name : String}
    {result : Exit × Machine.State × Store}
    (stops : Machine.Stops { threads := session.interpreter.threads }
      (.ask (session.fieldRequest name) session.store Machine.ends) result)
    (keeps : session.interpreter.Keeps shelter J) (wanted : Wanted) :
    (session.get name wanted).session.setting = session.setting ∧
      (session.get name wanted).session.interpreter.Keeps shelter J := by
  obtain ⟨exit, machine, final⟩ := result
  obtain ⟨threads, holds⟩ := stops.keeps (keeps.asks trivial)
  exact host.got_of_stopped stops threads holds wanted

/-- What neither scripts nor the host can take away, a session keeps. -/
theorem Later.keeps (host : HostKeeps J) (becomes : session.Later later)
    (keeps : session.interpreter.Keeps shelter J) :
    later.setting = session.setting ∧ later.interpreter.Keeps shelter J := by
  induction becomes with
  | refl => exact ⟨rfl, keeps⟩
  | executed _ ends ih =>
      obtain ⟨setting, kept⟩ := ih
      obtain ⟨same, next⟩ := host.executed ends kept
      exact ⟨same.trans setting, next⟩
  | set _ name value ih =>
      obtain ⟨setting, kept⟩ := ih
      exact ⟨setting, host.store_set kept.store name value, kept.threads⟩
  | got _ wanted stops ih =>
      obtain ⟨setting, kept⟩ := ih
      obtain ⟨same, next⟩ := host.got stops kept wanted
      exact ⟨same.trans setting, next⟩
  | moved _ disk ih =>
      obtain ⟨setting, kept⟩ := ih
      exact ⟨setting, Lasting.effect (.world _ _ rfl) kept.store, kept.threads⟩

end Keeping

/-- What scripts cannot change, all stores have that a session meets. -/
theorem HostKeeps.meets {J : Store → Prop} [Stable J] (host : HostKeeps J) {session : Session}
    {s : Store} (meets : session.Meets s) (keeps : session.interpreter.Keeps .nothing J) : J s := by
  induction meets with
  | resting => exact keeps.store
  | @running source function after machine step loaded passes =>
      have kept := keeps.loadForHost session.setting source.toUTF8
      rw [loaded] at kept
      exact (passes.keeps (kept.asks trivial)).store
  | reading passes =>
      exact (passes.keeps (keeps.asks trivial)).store
  | becoming _ becomes ih => exact becomes.keeps host.lets ih

/-! ## Reading names for the host -/

/-- The machine while it reads a name for the host. -/
def awaiting (session : Session) : Machine.State :=
  ({ threads := session.interpreter.threads } : Machine.State).push
    (.protect .host true Machine.ends {})

/-- What is known of the function that reads a name for the host. -/
def fieldActivation : Machine.Activation := { nesting := 1, base := 1, barriers := 1, depth := 1 }

/-- Looking a name up in the scope, from a function of the library. -/
def lookUp (session : Session) (name : String) : Run Value :=
  Run.index .library Expr.unnamed (.table session.setting.scope) (.ofString name)

section Reading

variable {session : Session} {s t : Store} {name : String} {value : Value}

/-- Reading a name for the host looks it up in the scope, if there is memory. -/
theorem advance_fieldRequest
    (memory : Machine.checkMemory session.awaiting session.store = (true, s)) (name : String) :
    Machine.advance { threads := session.interpreter.threads }
        (.ask (session.fieldRequest name) session.store Machine.ends) =
      Machine.runLibrary session.awaiting (do return #[← session.lookUp name]) 0 fieldActivation
        Machine.ends s := by
  change Machine.call session.awaiting (.builtin (.adapter .field))
    #[.table session.setting.scope, .ofString name] { kind := .library } Machine.ends
      session.store = _
  rw [Machine.call, memory]
  rfl

/-- Looking a name up that comes to a value at once. -/
theorem stops_of_lookUp
    (memory : Machine.checkMemory session.awaiting session.store = (true, s))
    (found : session.lookUp name s = .done value t) :
    Machine.Stops { threads := session.interpreter.threads }
      (.ask (session.fieldRequest name) session.store Machine.ends)
      (.returned #[value], { threads := session.interpreter.threads }, t) := by
  have advanced : Machine.advance { threads := session.interpreter.threads }
      (.ask (session.fieldRequest name) session.store Machine.ends) =
        (session.awaiting, .done (.returned #[value]) t) := by
    have read : (do return #[← session.lookUp name] : Run (Array Value)) s =
        .done #[value] t := by
      change (session.lookUp name s).bind _ = _
      rw [found]
      rfl
    rw [advance_fieldRequest memory, Machine.runLibrary, read]
    rfl
  refine .later rfl ?_
  rw [advanced]
  exact .later rfl (.now rfl)

/-- Reading a name for the host that comes to a value at once. -/
theorem get_of_lookUp
    (memory : Machine.checkMemory session.awaiting session.store = (true, s))
    (found : session.lookUp name s = .done value t) (wanted : Wanted) :
    session.get name wanted = {
      value := (Reading.ofValue t.delivered wanted value).mapError HostError.script
      messages := t.world.emitted.toList.map Emission.text
      session :=
        { session with interpreter := { session.interpreter with store := t.delivered } } } := by
  have called := perform_callForHost (stops_of_lookUp memory found)
  obtain ⟨interpreter, setting, isRedirected⟩ := session
  simp only [Session.get, Session.perform, Interpreter.perform_bind]
  dsimp only at called
  rw [called]
  rfl

end Reading

end Session

/-! ## What names mean -/

namespace Script.Store

variable {start s : Store}

end Script.Store

namespace Session

/-- Making sure that there is memory changes what is charged only. -/
theorem checkMemory_store (m : Machine.State) (store : Store) :
    ∃ charge, (Machine.checkMemory m store).2 = { store with charge } := by
  rw [Machine.checkMemory]
  split
  · exact ⟨store.charge, rfl⟩
  · dsimp only
    split
    · exact ⟨store.charge, rfl⟩
    · exact ⟨_, rfl⟩

theorem exists_checkMemory_eq {m : Machine.State} {store : Store} {hasMemory : Bool}
    (memory : (Machine.checkMemory m store).1 = hasMemory) :
    ∃ charge, Machine.checkMemory m store = (hasMemory, { store with charge }) := by
  obtain ⟨charge, counted⟩ := checkMemory_store m store
  exact ⟨charge, by rw [← counted, ← memory]⟩

/-- Opening a session whose first script ends. -/
theorem keeps_create (shelter : Shelter) [shelter.IsClosed] {J : Store → Prop}
    [Sheltered shelter J] (host : HostKeeps J) {settings : Settings}
    {start : Store} (opened : openStore settings = .ok start) {bootstrap : String}
    {ending : Option Hosted.Ending} {first : Store}
    (ends : (beginning start).Ends bootstrap ending first) {outcome : Outcome Unit}
    (created : create settings bootstrap = .ok outcome) (keeps : J start) :
    outcome.session.setting.scope = start.scope ∧ outcome.session.interpreter.Keeps shelter J := by
  obtain ⟨threads, performed, kept⟩ := ends.keeps (Interpreter.keeps_start shelter keeps)
  change ({ store := start } : Interpreter).perform (Hosted.runScript
    { chunkName := Bootstrap.chunkName, scope := start.scope } bootstrap.toUTF8) = _ at performed
  simp only [create, opened, bind, Except.bind, pure, Except.pure, Session.run, Session.perform,
    performed] at created
  cases created
  exact ⟨rfl, host.delivered _ kept.store, kept.threads⟩

end Session

end LuaSession
