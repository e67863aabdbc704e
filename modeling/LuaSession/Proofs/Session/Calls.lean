import LuaSession.Proofs.Machine.Courses
import LuaSession.Proofs.Session.Names

/-!
# The calls of a function in a session

Whatever becomes of a session, the calls of one function on the way come one after the other,
from script to script. What only these calls can change depends on them alone.
-/

namespace LuaSession

open LuaSession.Script LuaSession.Library LuaSession.Machine

namespace Session

/-- A run of a session begins: it is that of a script which has been loaded, or it reads a
name for the host. -/
inductive Starts (session : Session) : Next → Prop where
  | executing {source : String} {function : Value} {after : Interpreter}
      (loaded : session.interpreter.perform
        (Hosted.loadForHost session.setting source.toUTF8) = (.ok (.ok function), after)) :
      session.Starts ({ threads := after.threads }, .ask (scriptCall function) after.store ends)
  | reading (name : String) :
      session.Starts ({ threads := session.interpreter.threads },
        .ask (session.fieldRequest name) session.store ends)

/-- What becomes of a session, as in `Later`, and the calls of a function on the way. -/
inductive Calls (closure : Closure) (allowed : Store → Prop) (session : Session) :
    List Call → Session → Prop where
  | refl : session.Calls closure allowed [] session
  | refused {calls : List Call} {later : Session} {source : String} {failure : Failure}
      {after : Interpreter} (before : session.Calls closure allowed calls later)
      (notLoaded : later.interpreter.perform
        (Hosted.loadForHost later.setting source.toUTF8) = (.ok (.error failure), after)) :
      session.Calls closure allowed calls (later.execute source).session
  | executed {earlier calls : List Call} {later : Session} {source : String} {function : Value}
      {after : Interpreter} {stop : Exit × State × Store}
      (before : session.Calls closure allowed earlier later)
      (loaded : later.interpreter.perform
        (Hosted.loadForHost later.setting source.toUTF8) = (.ok (.ok function), after))
      (finishes : Finishes closure allowed earlier
        ({ threads := after.threads }, .ask (scriptCall function) after.store ends) calls stop) :
      session.Calls closure allowed calls (later.execute source).session
  | set {calls : List Call} {later : Session} (before : session.Calls closure allowed calls later)
      (name : String) (value : HostValue) :
      session.Calls closure allowed calls (later.set name value)
  | got {earlier calls : List Call} {later : Session} {name : String} {stop : Exit × State × Store}
      (before : session.Calls closure allowed earlier later) (wanted : Wanted)
      (finishes : Finishes closure allowed earlier ({ threads := later.interpreter.threads },
        .ask (later.fieldRequest name) later.store ends) calls stop) :
      session.Calls closure allowed calls (later.get name wanted).session
  | moved {calls : List Call} {later : Session} (before : session.Calls closure allowed calls later)
      (disk : Disk) : session.Calls closure allowed calls (later.withDisk disk)

variable {shelter : Shelter} {closure : Closure} {allowed : Store → Prop} {calls : List Call}
  {session later : Session} {first : Next}

/-- A run keeps what the session has kept when it begins. -/
theorem Starts.runs {J : Store → Prop} [Lasting J] (starts : session.Starts first)
    (keeps : session.interpreter.Keeps shelter J) : first.Runs shelter J := by
  cases starts with
  | @executing source function after loaded =>
    have kept := keeps.loadForHost session.setting source.toUTF8
    rw [loaded] at kept
    exact kept.asks trivial
  | reading name => exact keeps.asks trivial

/-- Only the calls of a function that is exempt change what is sheltered. -/
theorem Calls.keeps {J : List Call → Store → Prop} [∀ calls, Sheltered shelter (J calls)]
    (host : ∀ calls, HostKeeps (J calls)) (only : ∀ other, shelter.exempt other → other = closure)
    (switches : ∀ {calls next last arguments s result}, Next.Keeps shelter (J calls) next →
      Begins closure arguments s next → allowed s → Completes next.1 next result last →
      Next.Runs shelter (J (calls ++ [⟨arguments, result⟩])) last)
    (becomes : session.Calls closure allowed calls later)
    (keeps : session.interpreter.Keeps shelter (J [])) :
    later.interpreter.Keeps shelter (J calls) := by
  induction becomes with
  | refl => exact keeps
  | @refused calls later source failure after _ notLoaded ih =>
    have performed : later.interpreter.perform (Hosted.runScript later.setting source.toUTF8) =
        (.ok (some (.failed failure)), after) := by
      rw [Hosted.runScript, Interpreter.perform_bind, notLoaded]
      rfl
    have kept := ih.loadForHost later.setting source.toUTF8
    rw [notLoaded] at kept
    exact ((host _).executed_of_performed performed kept).2
  | @executed earlier calls later source function after stop _ loaded finishes ih =>
    have runs := (Starts.executing loaded).runs ih
    obtain ⟨threads, holds⟩ := finishes.keeps only switches runs
    obtain ⟨exit, machine, final⟩ := stop
    have kept := Interpreter.keeps_runScript loaded finishes.stops threads holds
    have ended : ∃ ending last, later.interpreter.perform
        (Hosted.runScript later.setting source.toUTF8) = (.ok ending, last) := by
      rw [perform_runScript loaded finishes.stops]
      cases exit <;> exact ⟨_, _, rfl⟩
    obtain ⟨ending, last, performed⟩ := ended
    rw [performed] at kept
    exact ((host _).executed_of_performed performed kept).2
  | set _ name value ih => exact ⟨(host _).store_set ih.store name value, ih.threads⟩
  | got _ wanted finishes ih =>
    obtain ⟨threads, holds⟩ := finishes.keeps only switches ((Starts.reading _).runs ih)
    exact ((host _).got_of_stopped finishes.stops threads holds wanted).2
  | moved _ disk ih => exact ⟨Lasting.effect (.world _ _ rfl) ih.store, ih.threads⟩

end Session

end LuaSession
