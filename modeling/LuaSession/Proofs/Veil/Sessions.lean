import LuaSession.Proofs.Session.Calls
import LuaSession.Proofs.Veil.Opening
import LuaSession.Proofs.Veil.Runs

/-!
# Nothing dangles in a session

Whatever its scripts and its host do with a session, every table that it refers to is there.
So a table that is made next is one that nothing refers to yet.
-/

namespace LuaSession

open LuaSession.Script LuaSession.Library LuaSession.Machine

namespace Interpreter

/-- What there is on the scripts' side of a session refers to visible values only. -/
structure Veiled (veil : Veil) (interpreter : Interpreter) : Prop where
  store : interpreter.store.Veiled veil
  threads : Visible (interpreter.store.view veil) interpreter.threads

variable {veil : Veil} {interpreter after : Interpreter} {function : Value} {exit : Exit}
  {machine : State} {final : Store}

/-- Without threads nothing goes on. -/
theorem veiled_start {store : Store} (veiled : store.Veiled veil) :
    Interpreter.Veiled veil { store } :=
  ⟨veiled, visible_one visible_noDormant⟩

/-- What the host asks for, it asks for where nothing waits. -/
theorem Veiled.asks (veiled : interpreter.Veiled veil) {request : Request}
    (visible : Visible (interpreter.store.view veil) request) :
    Next.Stands ({ threads := interpreter.threads }, .ask request interpreter.store ends) veil {} := by
  have stack : Machine.Stands {} (interpreter.store.view veil) _ ([] ++ []) [] :=
    .here visible_list_nil fun others => absurd rfl others
  refine .intro ⟨stack, fun others => absurd rfl others, veiled.threads⟩
    ⟨veiled.store, .refl _, visible, fun {later} exit s isVeiled _ isExit => ?_⟩
  exact respects_ends _ later exit s isVeiled (.refl _) isExit

/-- A machine that stops has kept hidden what was hidden. -/
theorem veiled_of_stops {m : State} {step : Step Exit} {result : Exit × State × Store}
    (stops : Stops m step result) (stands : Next.Stands (m, step) veil {}) :
    Interpreter.Veiled veil ⟨result.2.2, result.2.1.threads⟩ := by
  induction stops with
  | @now m step result found =>
      unfold stopped? at found
      split at found
      · cases found
        exact ⟨stands.veiled, stands.threads⟩
      · cases found
  | later _ _ ih =>
      refine ih (stands.advance (.bottom rfl rfl) fun isCalled => ?_)
      obtain ⟨_, _, _, _, _, waits⟩ := isCalled
      cases waits

/-- Loading a script makes a function of which the environment is visible. -/
theorem Veiled.loadForHost (veiled : interpreter.Veiled veil) {setting : Setting}
    (shown : Shown (interpreter.store.view veil) setting.scope) (source : Bytes) :
    (interpreter.perform (Hosted.loadForHost setting source)).2.Veiled veil := by
  obtain ⟨failure, loaded⟩ | ⟨code, _, loaded⟩ := interpreter.perform_loadForHost setting source
  · rw [loaded]
    exact veiled
  · rw [loaded]
    have environment : Visible (interpreter.store.view veil) (some (Value.table setting.scope)) :=
      visible_some.mpr (visible_table.mpr shown)
    have made := Loading.veiled_closureOf veiled.store environment code
    exact ⟨made.veiled, veiled.threads.grow made.grown⟩

/-- The function of a script that has been loaded is a closure. -/
theorem exists_closure_of_loaded {setting : Setting} {source : Bytes}
    (loaded : interpreter.perform (Hosted.loadForHost setting source) = (.ok (.ok function), after)) :
    ∃ ref, function = .closure ref := by
  obtain ⟨failure, other⟩ | ⟨code, _, other⟩ := interpreter.perform_loadForHost setting source
  · cases loaded.symm.trans other
  · cases loaded.symm.trans other
    exact ⟨_, rfl⟩

section Stopped

variable {arguments : Array Value}
  (isVeiled : Interpreter.Veiled veil ⟨final, machine.threads⟩)

include isVeiled

theorem veiled_callForHost
    (stops : Stops { threads := interpreter.threads }
      (.ask (.protect .host true function arguments) interpreter.store ends)
      (exit, machine, final)) :
    (interpreter.perform (Hosted.callForHost function arguments)).2.Veiled veil := by
  rw [Session.perform_callForHost stops]
  cases exit with
  | caught value isMemory =>
      have ended := Hosted.veiled_ending isVeiled.store value isMemory
      exact ⟨ended.veiled, isVeiled.threads.grow ended.grown⟩
  | _ => exact isVeiled

theorem veiled_runScript {setting : Setting} {source : Bytes}
    (loaded : interpreter.perform (Hosted.loadForHost setting source) = (.ok (.ok function), after))
    (stops : Stops { threads := after.threads }
      (.ask (Session.scriptCall function) after.store ends) (exit, machine, final)) :
    (interpreter.perform (Hosted.runScript setting source)).2.Veiled veil := by
  have calls := veiled_callForHost isVeiled stops
  rw [Hosted.runScript, Interpreter.perform_bind, loaded]
  dsimp only at calls ⊢
  rw [Interpreter.perform_bind]
  generalize Interpreter.perform _ (Hosted.callForHost _ _) = called at calls ⊢
  obtain ⟨_ | (_ | _), after⟩ := called <;> exact calls

end Stopped

/-- Where the messages have been taken, the rest is as it was. -/
theorem Veiled.delivered (veiled : interpreter.Veiled veil) :
    Interpreter.Veiled veil ⟨interpreter.store.delivered, interpreter.threads⟩ :=
  ⟨(veiled.store.world _).veiled, veiled.threads⟩

end Interpreter

/-! ## Values of the host -/

namespace HostValue

variable {veil : Veil} {setting : Setting}

mutual

/-- The values that the host makes are visible. -/
theorem veiled_make {s : Store} (veiled : s.Veiled veil) (shown : Shown (s.view veil) setting.scope)
    (value : HostValue) :
    s.Reaches veil (value.make setting s).2 ∧
      Visible ((value.make setting s).2.view veil) (value.make setting s).1 := by
  cases value with
  | list values =>
      have elements := veiled_makeElements veiled shown values 1 (Table.visible_blank 0 0)
      have made := elements.1.veiled.newTable elements.2
      exact ⟨elements.1.trans made.1, visible_table.mpr made.2⟩
  | map entries =>
      have fields := veiled_makeFields veiled shown entries (Table.visible_blank 0 0)
      have made := fields.1.veiled.newTable fields.2
      exact ⟨fields.1.trans made.1, visible_table.mpr made.2⟩
  | hosted function => exact ⟨veiled.newNative (visible_host.mpr shown), trivial⟩
  | _ => exact ⟨veiled.refl, trivial⟩

theorem veiled_makeElements {s : Store} (veiled : s.Veiled veil)
    (shown : Shown (s.view veil) setting.scope)
    (values : List HostValue) (index : Nat) {table : Table}
    (visible : Visible (s.view veil) table) :
    s.Reaches veil (makeElements setting values index table s).2 ∧
      Visible ((makeElements setting values index table s).2.view veil)
        (makeElements setting values index table s).1 := by
  cases values with
  | nil => exact ⟨veiled.refl, visible⟩
  | cons value rest =>
      obtain ⟨made, isVisible⟩ := veiled_make veiled shown value
      have put := Table.visible_set (visible.grow made.grown) (visible_ofNat index) isVisible
      have others := veiled_makeElements made.veiled (shown.grow made.grown) rest (index + 1) put
      rw [makeElements]
      exact ⟨made.trans others.1, others.2⟩

theorem veiled_makeFields {s : Store} (veiled : s.Veiled veil)
    (shown : Shown (s.view veil) setting.scope)
    (entries : List (String × HostValue)) {table : Table} (visible : Visible (s.view veil) table) :
    s.Reaches veil (makeFields setting entries table s).2 ∧
      Visible ((makeFields setting entries table s).2.view veil)
        (makeFields setting entries table s).1 := by
  cases entries with
  | nil => exact ⟨veiled.refl, visible⟩
  | cons entry rest =>
      obtain ⟨name, value⟩ := entry
      obtain ⟨made, isVisible⟩ := veiled_make veiled shown value
      have put := Opening.visible_setString (visible.grow made.grown) name isVisible
      have others := veiled_makeFields made.veiled (shown.grow made.grown) rest put
      rw [makeFields]
      exact ⟨made.trans others.1, others.2⟩

end

end HostValue

namespace Session

/-- Everything that a session refers to is there. -/
structure IsWhole (session : Session) : Prop where
  interpreter : session.interpreter.Veiled noVeil
  scope : session.setting.scope = session.store.scope

variable {session later : Session} {first : Next}

theorem IsWhole.shown (isWhole : session.IsWhole) :
    Shown (session.store.view noVeil) session.setting.scope := by
  rw [isWhole.scope]
  exact isWhole.interpreter.store.scope

theorem IsWhole.visible_fieldRequest (isWhole : session.IsWhole) (name : String) :
    Visible (session.store.view noVeil) (session.fieldRequest name) :=
  visible_protect.mpr ⟨trivial, trivial,
    visible_two (visible_table.mpr isWhole.shown) (visible_ofString name)⟩

/-- The function of a script is called where everything is there. -/
theorem IsWhole.asks (isWhole : session.IsWhole) {source : String} {function : Value}
    {after : Interpreter} (loaded : session.interpreter.perform
      (Hosted.loadForHost session.setting source.toUTF8) = (.ok (.ok function), after)) :
    Next.Stands ({ threads := after.threads },
      .ask (scriptCall function) after.store Machine.ends) noVeil {} := by
  obtain ⟨ref, rfl⟩ := Interpreter.exists_closure_of_loaded loaded
  have kept := isWhole.interpreter.loadForHost isWhole.shown source.toUTF8
  rw [loaded] at kept
  exact kept.asks (visible_protect.mpr ⟨trivial, trivial, visible_empty⟩)

/-- When a run of a session begins, everything is there. -/
theorem IsWhole.stands (isWhole : session.IsWhole) (starts : session.Starts first) :
    first.Stands noVeil {} := by
  cases starts with
  | executing loaded => exact isWhole.asks loaded
  | reading name => exact isWhole.interpreter.asks (isWhole.visible_fieldRequest name)

theorem IsWhole.runScript (isWhole : session.IsWhole) {source : String} {function : Value}
    {after : Interpreter} {exit : Exit} {machine : State} {final : Store}
    (loaded : session.interpreter.perform
      (Hosted.loadForHost session.setting source.toUTF8) = (.ok (.ok function), after))
    (stops : Stops { threads := after.threads }
      (.ask (scriptCall function) after.store Machine.ends) (exit, machine, final)) :
    (session.interpreter.perform
      (Hosted.runScript session.setting source.toUTF8)).2.Veiled noVeil :=
  Interpreter.veiled_runScript (Interpreter.veiled_of_stops stops (isWhole.asks loaded)) loaded stops

/-- Executing a script that ends leaves everything there. -/
theorem IsWhole.executed (isWhole : session.IsWhole) {source : String}
    {ending : Option Hosted.Ending} {final : Store} (ends : session.Ends source ending final) :
    (session.execute source).session.interpreter.Veiled noVeil := by
  have performed : (session.interpreter.perform
      (Hosted.runScript session.setting source.toUTF8)).2.Veiled noVeil := by
    have kept := isWhole.interpreter.loadForHost isWhole.shown source.toUTF8
    cases ends with
    | notLoaded loaded =>
        rw [loaded] at kept
        rw [Hosted.runScript, Interpreter.perform_bind, loaded]
        exact kept
    | finished loaded stops => exact isWhole.runScript loaded stops
    | caught loaded stops => exact isWhole.runScript loaded stops
  obtain ⟨interpreter, setting, isRedirected⟩ := session
  change (interpreter.perform (Hosted.runScript { setting with chunkName := setting.chunkName }
    source.toUTF8)).2.Veiled noVeil at performed
  simp only [Session.execute, Session.run, Session.perform, Session.chunkName]
  generalize interpreter.perform (Hosted.runScript _ _) = outcome at performed ⊢
  obtain ⟨_ | _, after⟩ := outcome
  · exact performed.delivered
  · exact performed.delivered

/-- Reading a name that comes to an end leaves everything there. -/
theorem IsWhole.got (isWhole : session.IsWhole) {name : String} (wanted : Wanted)
    {result : Exit × Machine.State × Store}
    (stops : Machine.Stops { threads := session.interpreter.threads }
      (.ask (session.fieldRequest name) session.store Machine.ends) result) :
    (session.get name wanted).session.interpreter.Veiled noVeil := by
  obtain ⟨exit, machine, final⟩ := result
  have asked := isWhole.interpreter.asks (isWhole.visible_fieldRequest name)
  have performed := Interpreter.veiled_callForHost (Interpreter.veiled_of_stops stops asked) stops
  obtain ⟨interpreter, setting, isRedirected⟩ := session
  simp only [Session.get, Session.perform, Interpreter.perform_bind]
  generalize interpreter.perform (Hosted.callForHost _ _) = called at performed ⊢
  obtain ⟨_ | _, after⟩ := called
  · exact performed.delivered
  · exact performed.delivered

/-- Setting a name leaves everything there. -/
theorem IsWhole.set (isWhole : session.IsWhole) (name : String) (value : HostValue) :
    (session.set name value).interpreter.Veiled noVeil := by
  obtain ⟨made, isVisible⟩ := HostValue.veiled_make isWhole.interpreter.store isWhole.shown value
  have put := Bootstrap.veiled_put made.veiled session.setting.scope name isVisible
  have grown := made.trans put
  exact ⟨grown.veiled, isWhole.interpreter.threads.grow grown.grown⟩

/-- Whatever becomes of a session, everything that it refers to is there, if its scope stays
the one that scripts use. -/
theorem Later.veiled (becomes : session.Later later)
    (scope : ∀ next, session.Later next → next.setting.scope = next.store.scope)
    (veiled : session.interpreter.Veiled noVeil) : later.interpreter.Veiled noVeil := by
  induction becomes with
  | refl => exact veiled
  | executed before ends ih => exact IsWhole.executed ⟨ih, scope _ before⟩ ends
  | set before name value ih => exact IsWhole.set ⟨ih, scope _ before⟩ name value
  | got before wanted stops ih => exact IsWhole.got ⟨ih, scope _ before⟩ wanted stops
  | moved _ disk ih => exact ⟨(ih.store.world _).veiled, ih.threads⟩

end Session

end LuaSession
