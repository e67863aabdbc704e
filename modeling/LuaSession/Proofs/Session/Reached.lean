import LuaSession.Proofs.Host.Reachable
import LuaSession.Proofs.Session.Names

/-!
# Reached sessions

A session is reached by opening it with a first script that ends, and by whatever
scripts and the host do with it then. Scripts may have replaced the scope's metatable
and that of the globals, but not the tables themselves: the scope is the table that
the host has for it, the globals are another one, and no message is left undelivered.
-/

namespace LuaSession

open LuaSession.Script LuaSession.Library

namespace Script.Store

variable {s : Store}

/-- Only the tables and the place of the globals count. -/
theorem HasGlobals.congr {t : Store} (has : s.HasGlobals)
    (globals : t.registry.globals = s.registry.globals)
    (size : t.heap.tables.size = s.heap.tables.size) : t.HasGlobals :=
  Opening.HasGlobals.mono 0 has globals size

theorem HasGlobals.newTable (has : s.HasGlobals) (table : Table) :
    (s.newTable table).2.HasGlobals :=
  Opening.HasGlobals.mono 1 has rfl (Array.size_push table)

instance : Stable HasGlobals where
  change change has := by
    cases change with
    | newTable table => exact has.newTable table
    | put ref key value => exact has.congr (congrArg _ (registry_put ..)) (size_put ..)
    | fill ref values => exact has.congr rfl (size_modifyTable ..)
    | metatable ref metatable => exact has.congr rfl (size_modifyTable ..)
    | sweep ref test =>
        refine has.congr (congrArg _ (registry_sweep ..)) ?_
        rw [heap_sweep, size_modifyTable]
    | _ => exact has.congr rfl rfl
  publish _ _ := fun _ has => has

end Script.Store

namespace Session

theorem hostKeeps_hasGlobals : HostKeeps Store.HasGlobals where
  lets _ has := has
  newNative _ _ has := has
  delivered _ has := has

/-- A session that was opened with a first script that ends, however it does, and to
which anything may have happened since. -/
inductive Reached : Session → Prop where
  | intro {settings : Settings} {start : Store} (opened : openStore settings = .ok start)
      {bootstrap : String} {ending : Option Hosted.Ending} {first : Store}
      (ends : (beginning start).Ends bootstrap ending first) {outcome : Outcome Unit}
      (created : create settings bootstrap = .ok outcome) {session : Session}
      (later : outcome.session.Later session) : Reached session

/-- What scripts and the host cannot take away from a session. -/
structure IsSound (session : Session) : Prop where
  scope : session.setting.scope = session.store.scope
  remembers : session.store.Remembers
  hasGlobals : session.store.HasGlobals
  delivered : session.IsDelivered

variable {session : Session}

theorem Later.isDelivered {later : Session} (becomes : session.Later later)
    (delivered : session.IsDelivered) : later.IsDelivered := by
  induction becomes with
  | refl => exact delivered
  | @executed later source _ _ _ _ _ => exact later.isDelivered_execute source
  | set _ name value ih => exact ih.set name value
  | @got later name _ _ wanted _ _ => exact later.isDelivered_get name wanted
  | moved _ disk ih => exact ih.withDisk disk

/-- Every reached session is sound. -/
theorem Reached.isSound (reached : session.Reached) : session.IsSound := by
  obtain ⟨opened, ends, created, later⟩ := reached
  obtain ⟨_, begins, _⟩ := openStore_spec opened
  obtain ⟨scope, remembers⟩ := keeps_create .nothing hostKeeps_remembers opened ends created begins
  obtain ⟨_, follows⟩ :=
    keeps_create .nothing (hostKeeps_follows _) opened ends created (.refl _)
  obtain ⟨_, has⟩ := keeps_create .nothing hostKeeps_hasGlobals opened ends created
    (hasGlobals_openStore opened)
  obtain ⟨setting, remembers⟩ := later.keeps hostKeeps_remembers remembers
  obtain ⟨_, follows⟩ := later.keeps (hostKeeps_follows _) follows
  obtain ⟨_, has⟩ := later.keeps hostKeeps_hasGlobals has
  refine ⟨?_, remembers.store, has.store, later.isDelivered (isDelivered_create created)⟩
  rw [setting, scope]
  exact follows.store.scope.symm

/-- What is executed in a reached session leads to another one. -/
theorem Reached.executed (reached : session.Reached) {source : String}
    {ending : Option Hosted.Ending} {final : Store} (ends : session.Ends source ending final) :
    (session.execute source).session.Reached := by
  obtain ⟨opened, begins, created, later⟩ := reached
  exact .intro opened begins created (later.executed ends)

end Session

end LuaSession
