import LuaSession.Proofs.Machine.Stopping
import LuaSession.Session

/-!
# How a script ends

A script that is run for the host ends in one of three ways: it is not loaded,
its function returns, or its function fails and the failure is caught. Running
it gives out the messages of that run, says why it has failed if it has, and
leaves the store as the run has left it.
-/

namespace LuaSession

open LuaSession.Script

namespace Interpreter

variable {α β : Type}

/-- What comes after a computation is carried through from where it has ended. -/
theorem evaluate_bindAsked (step : Step α) (f : α → Store → Step β)
    (threads : Array Machine.Dormant) :
    evaluate threads (step.bindAsked f) =
      match evaluate threads step with
      | (.ok value, after) => evaluate after.threads (f value after.store)
      | (.error raised, after) => (.error raised, after) := by
  induction step generalizing threads with
  | done value store => rfl
  | fail raised store => rfl
  | ask request store resume ih =>
      simp only [Step.bindAsked, evaluate]
      exact ih _ _ _

theorem evaluate_bind (step : Step α) (f : α → Store → Step β)
    (threads : Array Machine.Dormant) :
    evaluate threads (step.bind f) =
      match evaluate threads step with
      | (.ok value, after) => evaluate after.threads (f value after.store)
      | (.error raised, after) => (.error raised, after) := by
  rw [← evaluate_bindAsked]
  cases step <;> rfl

/-- Performing one computation after another. -/
theorem perform_bind (interpreter : Interpreter) (first : Run α) (f : α → Run β) :
    interpreter.perform (first >>= f) =
      match interpreter.perform first with
      | (.ok value, after) => after.perform (f value)
      | (.error raised, after) => (.error raised, after) :=
  evaluate_bind (first interpreter.store) f interpreter.threads

/-- Asking for something gives the answer with which the machine stops. -/
theorem perform_ask {interpreter : Interpreter} {request : Request} {exit : Exit}
    {machine : Machine.State} {final : Store}
    (stops : Machine.Stops { threads := interpreter.threads }
      (.ask request interpreter.store Machine.ends) (exit, machine, final)) :
    interpreter.perform (Run.ask request) = (.ok exit, ⟨final, machine.threads⟩) := by
  simp [perform, Run.ask, evaluate, stops.answerHost]

end Interpreter

namespace Script.Step

variable {α β : Type}

/-- However its requests are answered, a step does not fail. -/
def NeverFails : Step α → Prop
  | .done _ _ => True
  | .fail _ _ => False
  | .ask _ _ resume => ∀ exit store, (resume exit store).NeverFails

theorem NeverFails.bindAsked {step : Step α} {f : α → Store → Step β} (never : step.NeverFails)
    (later : ∀ value store, (f value store).NeverFails) : (step.bindAsked f).NeverFails := by
  induction step with
  | done value store => exact later value store
  | fail raised store => exact never.elim
  | ask request store resume ih => exact fun exit store => ih exit store (never exit store)

theorem NeverFails.bind {step : Step α} {f : α → Store → Step β} (never : step.NeverFails)
    (later : ∀ value store, (f value store).NeverFails) : (step.bind f).NeverFails := by
  have asked := never.bindAsked later
  cases step <;> exact asked

/-- An evaluation that does not fail has a value. -/
theorem NeverFails.evaluate {step : Step α} (never : step.NeverFails)
    (threads : Array Machine.Dormant) :
    ∃ value after, Interpreter.evaluate threads step = (.ok value, after) := by
  induction step generalizing threads with
  | done value store => exact ⟨value, _, rfl⟩
  | fail raised store => exact never.elim
  | ask request store resume ih => exact ih _ _ (never _ _) _

end Script.Step

namespace Script.Run

variable {α β : Type}

/-- From every store, and however its requests are answered, a computation does
not fail. -/
def NeverFails (run : Run α) : Prop := ∀ store, (run store).NeverFails

theorem NeverFails.bind {first : Run α} {f : α → Run β} (never : first.NeverFails)
    (later : ∀ value, (f value).NeverFails) : (first >>= f).NeverFails :=
  fun store => (never store).bind later

theorem neverFails_pure (value : α) : (pure value : Run α).NeverFails := fun _ => trivial

theorem neverFails_read (f : Store → α) : (read f).NeverFails := fun _ => trivial

theorem neverFails_update (f : Store → α × Store) : (update f).NeverFails := fun _ => trivial

theorem neverFails_ask (request : Request) : (ask request).NeverFails :=
  fun _ _ _ => trivial

theorem neverFails_askValues (request : Request) : (askValues request).NeverFails := by
  apply (neverFails_ask request).bind
  intro exit
  cases exit <;> exact neverFails_pure _

end Script.Run

namespace Library

open Script.Run

theorem Loading.currentDepth_neverFails : Loading.currentDepth.NeverFails := by
  apply (neverFails_askValues _).bind
  intro values
  cases firstOf values <;> exact neverFails_pure _

theorem Loading.load_neverFails (name mode bytes : Bytes) (environment : Option Value) :
    (Loading.load name mode bytes environment).NeverFails := by
  rw [Loading.load]
  split
  · split
    · exact neverFails_pure _
    · apply (neverFails_read _).bind
      intro decoded
      cases decoded with
      | error why => exact neverFails_pure _
      | ok code => exact (neverFails_update _).bind fun function => neverFails_pure _
  · split
    · exact neverFails_pure _
    · apply Loading.currentDepth_neverFails.bind
      intro depth
      dsimp only
      split
      · exact (neverFails_update _).bind fun function => neverFails_pure _
      · exact neverFails_pure _

/-- Loading a script either gives a function or says why it cannot. -/
theorem Hosted.loadForHost_neverFails (setting : Setting) (source : Bytes) :
    (Hosted.loadForHost setting source).NeverFails := by
  rw [Hosted.loadForHost]
  split
  · exact neverFails_pure _
  · apply (Loading.load_neverFails _ _ _ _).bind
    intro loaded
    cases loaded with
    | error message => exact neverFails_pure _
    | ok function => exact neverFails_pure _

end Library

namespace Session

open Library

variable {session : Session} {source : String}

/-- The request that calls a script's function for the host. -/
def scriptCall (function : Value) : Request := .protect .host true function #[]

/-- How running a script ends: with a failure, if there is one, and a store.

Nothing is undone when a script fails: the store is the one in which it has
failed, but for a panic that is spent when it reaches the host. -/
inductive Ends (session : Session) (source : String) :
    Option Hosted.Ending → Store → Prop where
  /-- The source is no script. -/
  | notLoaded {failure : Failure} {after : Interpreter}
      (loaded : session.interpreter.perform
        (Hosted.loadForHost session.setting source.toUTF8) = (.ok (.error failure), after)) :
      Ends session source (some (.failed failure)) after.store
  /-- The script's function comes to an end. -/
  | finished {function : Value} {after : Interpreter} {exit : Exit} {machine : Machine.State}
      {final : Store}
      (loaded : session.interpreter.perform
        (Hosted.loadForHost session.setting source.toUTF8) = (.ok (.ok function), after))
      (stops : Machine.Stops { threads := after.threads }
        (.ask (scriptCall function) after.store Machine.ends) (exit, machine, final))
      (notCaught : ∀ value isMemory, exit ≠ .caught value isMemory) :
      Ends session source none final
  /-- The script's function raises an error, runs out of memory, or calls a
  function of the host that panics. -/
  | caught {function value : Value} {isMemory : Bool} {after : Interpreter}
      {machine : Machine.State} {final : Store}
      (loaded : session.interpreter.perform
        (Hosted.loadForHost session.setting source.toUTF8) = (.ok (.ok function), after))
      (stops : Machine.Stops { threads := after.threads }
        (.ask (scriptCall function) after.store Machine.ends)
          (.caught value isMemory, machine, final)) :
      Ends session source (some (Hosted.ending value isMemory final).1)
        (Hosted.ending value isMemory final).2

/-- A script's function is loaded and then runs for ever. -/
def Diverges (session : Session) (source : String) : Prop :=
  ∃ function after, session.interpreter.perform
      (Hosted.loadForHost session.setting source.toUTF8) = (.ok (.ok function), after) ∧
    ∀ result, ¬Machine.Stops { threads := after.threads }
      (.ask (scriptCall function) after.store Machine.ends) result

/-- Every script ends, unless it runs for ever. -/
theorem ends_or_diverges (session : Session) (source : String) :
    (∃ ending final, Ends session source ending final) ∨ Diverges session source := by
  obtain ⟨value, after, loaded⟩ := (Hosted.loadForHost_neverFails session.setting
    source.toUTF8 session.interpreter.store).evaluate session.interpreter.threads
  cases value with
  | error failure => exact .inl ⟨_, _, .notLoaded loaded⟩
  | ok function =>
      by_cases stopping : ∃ result, Machine.Stops { threads := after.threads }
          (.ask (scriptCall function) after.store Machine.ends) result
      · obtain ⟨⟨exit, machine, final⟩, stops⟩ := stopping
        left
        cases exit with
        | caught value isMemory => exact ⟨_, _, .caught loaded stops⟩
        | _ => exact ⟨_, _, .finished loaded stops (by simp)⟩
      · exact .inr ⟨function, after, loaded, not_exists.mp stopping⟩

/-- Calling a function for the host. -/
theorem perform_callForHost {interpreter : Interpreter} {function : Value}
    {arguments : Array Value} {exit : Exit} {machine : Machine.State} {final : Store}
    (stops : Machine.Stops { threads := interpreter.threads }
      (.ask (.protect .host true function arguments) interpreter.store Machine.ends)
        (exit, machine, final)) :
    interpreter.perform (Hosted.callForHost function arguments) =
      match exit with
      | .caught value isMemory =>
          let (ending, after) := Hosted.ending value isMemory final
          (.ok (.error ending), ⟨after, machine.threads⟩)
      | .returned values => (.ok (.ok values), ⟨final, machine.threads⟩)
      | _ => (.ok (.ok #[]), ⟨final, machine.threads⟩) := by
  rw [Hosted.callForHost, Interpreter.perform_bind, Interpreter.perform_ask stops]
  cases exit <;> rfl

/-- Performing the run of a script that is loaded and stops. -/
theorem perform_runScript {function : Value} {after : Interpreter} {exit : Exit}
    {machine : Machine.State} {final : Store}
    (loaded : session.interpreter.perform
      (Hosted.loadForHost session.setting source.toUTF8) = (.ok (.ok function), after))
    (stops : Machine.Stops { threads := after.threads }
      (.ask (scriptCall function) after.store Machine.ends) (exit, machine, final)) :
    session.interpreter.perform (Hosted.runScript session.setting source.toUTF8) =
      match exit with
      | .caught value isMemory =>
          let (ending, store) := Hosted.ending value isMemory final
          (.ok (some ending), ⟨store, machine.threads⟩)
      | _ => (.ok none, ⟨final, machine.threads⟩) := by
  rw [Hosted.runScript, Interpreter.perform_bind, loaded]
  dsimp only
  rw [Interpreter.perform_bind, perform_callForHost stops]
  cases exit <;> rfl

/-- Performing the run of a script comes to how the script ends. -/
theorem Ends.perform {ending : Option Hosted.Ending} {final : Store}
    (ends : Ends session source ending final) :
    ∃ threads, session.interpreter.perform
      (Hosted.runScript session.setting source.toUTF8) = (.ok ending, ⟨final, threads⟩) := by
  cases ends with
  | @notLoaded failure after loaded =>
      refine ⟨after.threads, ?_⟩
      rw [Hosted.runScript, Interpreter.perform_bind, loaded]
      rfl
  | @finished function after exit machine final loaded stops notCaught =>
      refine ⟨machine.threads, ?_⟩
      rw [perform_runScript loaded stops]
      cases exit with
      | caught value isMemory => exact absurd rfl (notCaught value isMemory)
      | _ => rfl
  | @caught function value isMemory after machine final loaded stops =>
      exact ⟨machine.threads, perform_runScript loaded stops⟩

/-- The session after a script, when it ends: as it was, but for what the run
has left in the store and in the threads. -/
theorem Ends.run {ending : Option Hosted.Ending} {final : Store}
    (ends : Ends session source ending final) :
    ∃ threads, session.run session.chunkName source =
      { value := ending.map Hosted.Ending.message
        messages := final.world.emitted.toList.map Emission.text
        session := { session with interpreter := { store := final.delivered, threads } } } := by
  obtain ⟨threads, performed⟩ := ends.perform
  refine ⟨threads, ?_⟩
  obtain ⟨interpreter, setting, isRedirected⟩ := session
  change interpreter.perform (Hosted.runScript { setting with chunkName := setting.chunkName }
    source.toUTF8) = _ at performed
  simp only [Session.run, Session.perform, Session.chunkName, performed]

end Session

end LuaSession
