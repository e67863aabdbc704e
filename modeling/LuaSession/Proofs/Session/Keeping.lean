import LuaSession.Proofs.Machine.Moments
import LuaSession.Proofs.Session.Ending

/-!
# Runs of scripts keep what scripts cannot change

A script of the host is loaded into a function whose environment is the scope,
and the function is called. Loading changes the store in few ways, whether it
succeeds or not, and the call is a run of the machine; so a run leaves what
scripts cannot change as it was, however it ends.
-/

namespace LuaSession

open LuaSession.Script LuaSession.Library

/-- The function of a script of the host: its environment is the scope. -/
def Library.Hosted.scriptFunction (setting : Setting) (code : Code) (s : Store) : Value × Store :=
  Loading.closureOf s code (some (.table setting.scope))

namespace Interpreter

/-- The store has a property, and whatever the threads go on with keeps it. -/
structure Keeps (shelter : Shelter) (J : Store → Prop) (interpreter : Interpreter) : Prop where
  store : J interpreter.store
  threads : Machine.ThreadsKeep shelter J interpreter.threads

/-- Without threads nothing goes on. -/
theorem keeps_start (shelter : Shelter) {J : Store → Prop} {store : Store} (holds : J store) :
    Interpreter.Keeps shelter J { store } := by
  refine ⟨holds, fun dormant member => ?_⟩
  obtain rfl := Array.mem_singleton.mp member
  exact trivial

/-- A machine for a request of the host's keeps what the threads keep. -/
theorem Keeps.asks {shelter : Shelter} {J : Store → Prop} {interpreter : Interpreter}
    (keeps : interpreter.Keeps shelter J) {request : Request}
    (asks : Kind.library.asks request) :
    Machine.Next.Runs shelter J
      ({ threads := interpreter.threads }, .ask request interpreter.store Machine.ends) :=
  Machine.Next.runs_ask keeps.threads asks keeps.store

/-- Called by the host, nothing else is under way. -/
theorem perform_currentDepth (interpreter : Interpreter) :
    interpreter.perform Loading.currentDepth = (.ok 0, interpreter) := by
  have stops : Machine.Stops { threads := interpreter.threads }
      (.ask .depth interpreter.store Machine.ends)
      (.returned #[.ofNat 0], { threads := interpreter.threads }, interpreter.store) :=
    .later rfl (.now rfl)
  rw [Loading.currentDepth, Run.askValues, bind_assoc, perform_bind, perform_ask stops]
  rfl

/-- A text is read as a script, or as what a compiled script stands for. -/
inductive Reads (s : Store) (chunk bytes : Bytes) : Code → Prop where
  | script {code : Code} (read : Syntax.readScript chunk 0 bytes = .ok code) :
      Reads s chunk bytes code
  | compiled {code : Code} (isCompiled : Syntax.isCompiled bytes = true)
      (decoded : Compiled.decode s bytes = .ok code) : Reads s chunk bytes code

theorem perform_read_bind {α β : Type} (interpreter : Interpreter) (f : Store → α)
    (later : α → Run β) :
    interpreter.perform (Run.read f >>= later) =
      interpreter.perform (later (f interpreter.store)) :=
  rfl

/-- Making a function of what a text is read as. -/
theorem perform_closureOf (interpreter : Interpreter) (code : Code) (environment : Option Value) :
    interpreter.perform (do
        return Except.ok (← Run.update fun s => Loading.closureOf s code environment) :
          Run (Except Bytes Value)) =
      (.ok (.ok (Loading.closureOf interpreter.store code environment).1),
        { interpreter with store := (Loading.closureOf interpreter.store code environment).2 }) :=
  rfl

/-- Loading a text makes a function of what the text is read as, or changes
nothing. -/
theorem perform_load (interpreter : Interpreter) (name mode bytes : Bytes)
    (environment : Option Value) :
    (∃ message, interpreter.perform (Loading.load name mode bytes environment) =
      (.ok (.error message), interpreter)) ∨
    ∃ code, Reads interpreter.store (Syntax.shownName name) bytes code ∧
      interpreter.perform (Loading.load name mode bytes environment) =
        (.ok (.ok (Loading.closureOf interpreter.store code environment).1),
          { interpreter with store := (Loading.closureOf interpreter.store code environment).2 }) := by
  rw [Loading.load]
  split
  next isCompiled =>
    split
    · exact .inl ⟨_, rfl⟩
    · rw [perform_read_bind]
      cases decoded : Compiled.decode interpreter.store bytes with
      | error why => exact .inl ⟨_, rfl⟩
      | ok code => exact .inr ⟨code, .compiled isCompiled decoded, perform_closureOf _ _ _⟩
  next =>
    split
    · exact .inl ⟨_, rfl⟩
    · rw [perform_bind, perform_currentDepth]
      dsimp only
      cases read : Syntax.readScript (Syntax.shownName name) 0 bytes with
      | error trouble => exact .inl ⟨_, rfl⟩
      | ok code => exact .inr ⟨code, .script read, perform_closureOf _ _ _⟩

/-- A script of the host becomes a function whose environment is the scope, or
nothing has changed. -/
theorem perform_loadForHost (interpreter : Interpreter) (setting : Setting) (source : Bytes) :
    (∃ failure, interpreter.perform (Hosted.loadForHost setting source) =
      (.ok (.error failure), interpreter)) ∨
    ∃ code, Reads interpreter.store (Syntax.shownName s!"={setting.chunkName}".toUTF8) source code ∧
      interpreter.perform (Hosted.loadForHost setting source) =
        (.ok (.ok (Hosted.scriptFunction setting code interpreter.store).1),
          { interpreter with store := (Hosted.scriptFunction setting code interpreter.store).2 }) := by
  rw [Hosted.loadForHost]
  dsimp only
  split
  · exact .inl ⟨_, rfl⟩
  · rw [perform_bind]
    obtain ⟨message, loaded⟩ | ⟨code, reads, loaded⟩ := perform_load interpreter
      s!"={setting.chunkName}".toUTF8 _ source (some (.table setting.scope))
    · rw [loaded]
      exact .inl ⟨_, rfl⟩
    · rw [loaded]
      refine .inr ⟨code, reads, ?_⟩
      dsimp only [Hosted.scriptFunction]
      rfl

variable {shelter : Shelter} {J : Store → Prop}

theorem Keeps.loadForHost [Lasting J] {interpreter : Interpreter}
    (keeps : interpreter.Keeps shelter J) (setting : Setting) (source : Bytes) :
    (interpreter.perform (Hosted.loadForHost setting source)).2.Keeps shelter J := by
  obtain ⟨failure, loaded⟩ | ⟨code, reads, loaded⟩ :=
    interpreter.perform_loadForHost setting source
  · rw [loaded]
    exact keeps
  · rw [loaded]
    have given : J (Hosted.scriptFunction setting code interpreter.store).2 :=
      Lasting.effect (.script _ _ _) keeps.store
    generalize Hosted.scriptFunction setting code interpreter.store = function at given ⊢
    exact ⟨given, keeps.threads⟩

section Stopped

variable [Lasting J] {interpreter : Interpreter} {function : Value} {arguments : Array Value}
  {exit : Exit} {machine : Machine.State} {final : Store}

/-- What a machine has kept that has stopped, the interpreter keeps. -/
theorem keeps_callForHost
    (stops : Machine.Stops { threads := interpreter.threads }
      (.ask (.protect .host true function arguments) interpreter.store Machine.ends)
      (exit, machine, final)) (threads : Machine.ThreadsKeep shelter J machine.threads)
    (holds : J final) :
    (interpreter.perform (Hosted.callForHost function arguments)).2.Keeps shelter J := by
  rw [Session.perform_callForHost stops]
  cases exit with
  | caught value isMemory => exact ⟨Hosted.keeps_ending holds value isMemory, threads⟩
  | _ => exact ⟨holds, threads⟩

theorem keeps_runScript {setting : Setting} {source : Bytes} {after : Interpreter}
    (loaded : interpreter.perform (Hosted.loadForHost setting source) = (.ok (.ok function), after))
    (stops : Machine.Stops { threads := after.threads }
      (.ask (Session.scriptCall function) after.store Machine.ends) (exit, machine, final))
    (threads : Machine.ThreadsKeep shelter J machine.threads) (holds : J final) :
    (interpreter.perform (Hosted.runScript setting source)).2.Keeps shelter J := by
  have calls := keeps_callForHost stops threads holds
  rw [Hosted.runScript, Interpreter.perform_bind, loaded]
  dsimp only at calls ⊢
  rw [Interpreter.perform_bind]
  generalize Interpreter.perform _ (Hosted.callForHost _ _) = called at calls ⊢
  obtain ⟨_ | (_ | _), after⟩ := called <;> exact calls

end Stopped

end Interpreter

namespace Session

variable {shelter : Shelter} [shelter.IsClosed] {J : Store → Prop} [Sheltered shelter J]
  {session : Session} {source : String} {ending : Option Hosted.Ending} {final : Store}

/-- However a script ends, its run keeps what scripts cannot change. -/
theorem Ends.keeps (ends : Ends session source ending final)
    (keeps : session.interpreter.Keeps shelter J) :
    ∃ threads, session.interpreter.perform
        (Hosted.runScript session.setting source.toUTF8) = (.ok ending, ⟨final, threads⟩) ∧
      Interpreter.Keeps shelter J ⟨final, threads⟩ := by
  have loads := keeps.loadForHost session.setting source.toUTF8
  have runs : (session.interpreter.perform
      (Hosted.runScript session.setting source.toUTF8)).2.Keeps shelter J := by
    cases ends with
    | notLoaded loaded =>
        rw [Hosted.runScript, Interpreter.perform_bind, loaded]
        rw [loaded] at loads
        exact loads
    | finished loaded stops _ | caught loaded stops =>
        rw [loaded] at loads
        obtain ⟨threads, holds⟩ := stops.keeps (loads.asks trivial)
        exact Interpreter.keeps_runScript loaded stops threads holds
  obtain ⟨threads, performed⟩ := ends.perform
  rw [performed] at runs
  exact ⟨threads, performed, runs⟩

end Session

end LuaSession
