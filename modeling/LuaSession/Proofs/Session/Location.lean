import LuaSession.Proofs.Failure.Location
import LuaSession.Proofs.Machine.Raising
import LuaSession.Proofs.Session.Assigning
import LuaSession.Proofs.Session.Inspection
import LuaSession.Proofs.Syntax.Naming

/-!
# Where scripts are said to fail

A script may be no script, because reading it stops on a line, and it may fail with an
error that it raises on a line of its own. Either way the message that is given out begins
with the name of the session's scripts and the number of the line. Of a long name that is
the part that messages have room for.
-/

namespace LuaSession

open LuaSession.Script LuaSession.Library LuaSession.Machine

/-- The function that is loaded is the one that the script has been read as. -/
theorem Library.Loading.code_closureOf (s : Store) (code : Code) (environment : Option Value) :
    ∃ ref, (closureOf s code environment).1 = .closure ref ∧
      ((closureOf s code environment).2.closure ref).code = code := by
  rw [closureOf]
  generalize newCells s environment code.info.captures.size = made
  exact ⟨_, rfl, by simp [Store.newClosure, Store.closure]⟩

/-- The line on which reading a text as a script stops. -/
def Syntax.troubleLine? (chunk source : Bytes) : Option Nat :=
  match readScript chunk 0 source with
  | .error (.at line _ _) => some line
  | _ => none

theorem Syntax.exists_of_troubleLine? {chunk source : Bytes} {line : Nat}
    (stops : troubleLine? chunk source = some line) :
    ∃ what near, readScript chunk 0 source = .error (.at line what near) := by
  unfold troubleLine? at stops
  split at stops
  next trouble => exact ⟨_, _, Option.some.inj stops ▸ trouble⟩
  next => cases stops

namespace Session

variable {session : Session} {source : String} {line : Nat}

/-- What messages show of the session's name: the bytes that they have room for. -/
def shownChunkName (session : Session) : String :=
  Utf8.lossy (session.chunkName.toUTF8.extract 0 Syntax.nameRoom)

/-- The name that is shown of the session's scripts. -/
abbrev chunk (session : Session) : Bytes :=
  Syntax.shownName s!"={session.setting.chunkName}".toUTF8

/-- What is shown of a name that there is room for is the name. -/
theorem shownChunkName_eq (short : session.chunkName.utf8ByteSize ≤ Syntax.nameRoom) :
    session.shownChunkName = session.chunkName := by
  have whole : session.chunkName.toUTF8.extract 0 Syntax.nameRoom = session.chunkName.toUTF8 := by
    rw [ByteArray.ext_iff, ByteArray.data_extract]
    exact Array.extract_eq_self_of_le short
  rw [shownChunkName, whole, Utf8.lossy_toUTF8]

/-- A text is no script: reading it stops on a line. A session whose name has a zero byte
reads no texts. -/
structure Misreads (session : Session) (source : String) (line : Nat) : Prop where
  noZero : '\x00' ∉ session.chunkName.toList
  isText : source.toUTF8.toList.head? ≠ some 0x1B
  stops : Syntax.troubleLine? session.chunk source.toUTF8 = some line

/-- The script ends with what is wrong on that line. -/
theorem Misreads.ends (misreads : session.Misreads source line) :
    ∃ text incomplete, session.Ends source (some (.failed (.malformed text incomplete)))
      session.interpreter.store ∧ Failure.NamesLine session.shownChunkName line text := by
  obtain ⟨noZero, isText, stops⟩ := misreads
  obtain ⟨what, near, wrong⟩ := Syntax.exists_of_troubleLine? stops
  have loaded := session.interpreter.perform_loadForHost_text (Syntax.findIdx?_named_eq_none_iff.mpr noZero) isText
  rw [wrong] at loaded
  refine ⟨_, _, .notLoaded loaded, ?_⟩
  rw [chunkName] at noZero
  rw [Syntax.shownName_named noZero]
  exact Failure.namesLine_located _ _ _ _

/-! ## Errors -/

/-- Where the function of a script stands that the host has called. -/
def topLevel (session : Session) (s : Store) (function : Nat) : Level :=
  .main session.chunk s.frame (baseOf (s.closure function) #[] 1)

/-- The function of a script begins, unless there is no memory or no room for it. -/
theorem called_cases {threads : Array Dormant} {s : Store} {function : Nat}
    (isChunk : (s.closure function).code.info.chunk = session.chunk) :
    (∃ m raised t, called threads s function = (m, .fail raised t)) ∨
      (session.topLevel s function).Holds (called threads s function) := by
  let protecting : State := ({ threads } : State).push (.protect .host true ends {})
  have isCall : called threads s function =
      call protecting (.closure function) #[] { kind := .library } ends s := rfl
  rw [isCall]
  cases hasMemory : (checkMemory protecting s).1 with
  | false =>
      obtain ⟨charge, noMemory⟩ := exists_checkMemory_eq hasMemory
      refine .inl ⟨protecting, .memory, { s with charge }, ?_⟩
      rw [call, noMemory]
      rfl
  | true =>
      obtain ⟨charge, memory⟩ := exists_checkMemory_eq hasMemory
      have shallow : protecting.nestingBase + nestingIn protecting .library < nestingLimit :=
        show 0 + (0 + 1) < 200 by decide
      cases room : hasRoom protecting (baseOf (s.closure function) #[] 1 +
          (s.closure function).code.info.frameSize) with
      | false =>
          left
          rw [call_of_shallow memory shallow rfl, enter.eq_def]
          dsimp only
          rw [if_pos (by exact congrArg not room)]
          exact ⟨_, _, _, rfl⟩
      | true =>
          right
          rw [@call_closure protecting { kind := .library } ends s _ #[] memory shallow function _
            rfl room]
          refine ⟨⟨⟨[], rfl, List.forall_mem_nil _⟩, rfl, rfl, rfl⟩, ?_⟩
          exact (keeps_runBody (Level.spares_scripts _)).at isChunk

/-- A script fails with `error(message)`. Its function is loaded and comes to call `error`
on a line of its own, outside all functions that it calls; there is memory and room for
that call. Strings have no text of their own, and the values whose scopes the error leaves
are closed without another one. -/
inductive Raises (session : Session) (source : String) : Nat → Bytes → Prop where
  | intro {function : Nat} {after : Interpreter} {m : State} {step : Step Exit} {site : Site}
      {message : Bytes} {checked : Store}
      (isText : source.toUTF8.toList.head? ≠ some 0x1B)
      (loaded : session.interpreter.perform
        (Hosted.loadForHost session.setting source.toUTF8) = (.ok (.ok (.closure function)), after))
      (goesOn : (session.topLevel after.store function).GoesOn
        (called after.threads after.store function) (m, step))
      (raises : (session.topLevel after.store function).Raises site message m step)
      (kind : site.kind = .script)
      (memory : checkMemory m step.store = (true, checked))
      (room : hasRoom m (m.activation.base + site.room + 2 + libraryRoom) = true)
      (noHandler : checked.metafield (.str message) Event.tostring = .nil)
      (closes : Closes (.str (reported (Syntax.located session.chunk site.line message)))
        { m with stack := [.protect .host true ends {}], activation := {}, overflowing := false }
        (leaveWaits #[] m.stack).1 (checked.withFrame {})) :
      Raises session source site.line message

/-- A session whose name has a zero byte loads no script. -/
theorem noZero_of_loaded {function : Value} {after : Interpreter}
    (loaded : session.interpreter.perform (Hosted.loadForHost session.setting source.toUTF8) =
      (.ok (.ok function), after)) : '\x00' ∉ session.chunkName.toList := by
  refine Syntax.findIdx?_named_eq_none_iff.mp ?_
  cases found : s!"={session.chunkName}".toUTF8.toList.findIdx? (· == 0) with
  | none => rfl
  | some place =>
      rw [chunkName] at found
      rw [Hosted.loadForHost] at loaded
      dsimp only at loaded
      rw [found] at loaded
      cases loaded

/-- The function of a script carries the name that is shown of the script. -/
theorem chunk_of_loaded {function : Nat} {after : Interpreter}
    (isText : source.toUTF8.toList.head? ≠ some 0x1B)
    (loaded : session.interpreter.perform (Hosted.loadForHost session.setting source.toUTF8) =
      (.ok (.ok (.closure function)), after)) :
    (after.store.closure function).code.info.chunk = session.chunk := by
  obtain ⟨_, refused⟩ | ⟨code, reads, performed⟩ :=
    session.interpreter.perform_loadForHost session.setting source.toUTF8
  · rw [refused] at loaded
    cases loaded
  · obtain ⟨ref, isRef, isCode⟩ := Loading.code_closureOf session.interpreter.store code
      (some (.table session.setting.scope))
    rw [performed, Hosted.scriptFunction, isRef] at loaded
    cases loaded
    rw [isCode]
    cases reads with
    | script read => exact Syntax.chunk_readScript read
    | compiled isCompiled _ => exact absurd (eq_of_beq isCompiled) isText

/-- What is reported of an error on a line of a session's script names the line. -/
theorem namesLine_reported (noZero : '\x00' ∉ session.chunkName.toList) (line : Nat)
    (message : Bytes) : Failure.NamesLine session.shownChunkName line
      (Utf8.lossy (reported (Syntax.located session.chunk line message))) := by
  rw [chunkName] at noZero
  rw [reported, Failure.beforeZero_located (Syntax.zero_not_mem_shownName noZero),
    Syntax.shownName_named noZero]
  exact Failure.namesLine_located _ _ _ _

/-- The script ends with that error. -/
theorem Raises.ends {message : Bytes} (raises : session.Raises source line message) :
    ∃ text final, session.Ends source (some (.failed (.runtime text))) final ∧
      Failure.NamesLine session.shownChunkName line text := by
  obtain ⟨isText, loaded, goesOn, raises, kind, memory, room, noHandler, closes⟩ := raises
  rename_i function after m step site checked
  have begins : (session.topLevel after.store function).Holds
      (called after.threads after.store function) := by
    obtain ⟨_, _, _, failed⟩ | begins := called_cases (chunk_of_loaded isText loaded)
    · rw [failed] at goesOn
      cases goesOn.eq_of_fail
      cases raises
    · exact begins
  obtain ⟨holds, passes⟩ := begins.goesOn goesOn
  obtain ⟨machine, final, stops⟩ := raises.stops holds kind memory room noHandler closes
  exact ⟨_, _, .caught loaded (.later rfl (passes.stops stops)),
    namesLine_reported (noZero_of_loaded loaded) _ _⟩

/-! ## Messages -/

/-- The last message that a script's run gives out, if it fails, is about the failure. -/
theorem Ends.getLast?_messages {ending : Hosted.Ending} {final : Store}
    (ends : session.Ends source (some ending) final) :
    (session.execute source).messages.getLast? = some ending.message := by
  obtain ⟨threads, run⟩ := ends.run
  rw [Session.execute, run]
  simp

/-- Where the message is said to be about that is given out when a script fails, be it that
it is no script, which a line of it shows, or that it calls `error` with a text on a line of
its own. It begins with the name of the session's scripts, a colon, the number of the line
and a colon, if the name has room in messages; of a longer name it begins with the part that
has. The name must not quote a traceback there. -/
theorem located (unmarked : ¬Failure.tracebackStart <:+: (session.shownChunkName ++ ":").toList) :
    (session.Misreads source line → ∃ message,
      (session.execute source).messages.getLast? = some message ∧
        Failure.NamesLine session.shownChunkName line message) ∧
    (∀ text, session.Raises source line text → ∃ message,
      (session.execute source).messages.getLast? = some message ∧
        Failure.NamesLine session.shownChunkName line message) ∧
    (session.chunkName.utf8ByteSize ≤ Syntax.nameRoom → session.shownChunkName = session.chunkName) := by
  refine ⟨fun misreads => ?_, fun text raises => ?_, shownChunkName_eq⟩
  · obtain ⟨text, incomplete, ends, names⟩ := misreads.ends
    exact ⟨_, ends.getLast?_messages, names.cutTraceback unmarked⟩
  · obtain ⟨text, final, ends, names⟩ := raises.ends
    exact ⟨_, ends.getLast?_messages, names.cutTraceback unmarked⟩

end Session

/-! ## Scripts that fail in a new session -/

namespace Raising

def source : String := "error('boom')"

/-- What it is read as. -/
def script : Code :=
  .mk { chunk := "snippet".toUTF8, line := 0, parameters := 0, isVariadic := true, slots := 0
        frameSize := 2, shared := #[], captures := #[.slot 0] } false
    [.run (.call (.free 0 Expr.environment "error".toUTF8 1) [.const (.ofString "boom")] 1 0)]

/-- Where it calls `error`. -/
def site : Site :=
  { kind := .script, line := 1
    callee := .expression (.free 0 Expr.environment "error".toUTF8 1) }

/-- Is a script that one? -/
def isScript : Code → Bool
  | .mk info labelled
      [.run (.call (.index (.captured index environment) (.const key) line) [.const value]
        other room)] =>
      info = script.info && labelled = false && index = 0 && environment = Expr.environment &&
        key = .ofString "error" && line = 1 && value = .ofString "boom" && other = 1 && room = 0
  | _ => false

theorem eq_script {code : Code} (is : isScript code = true) : code = script := by
  unfold isScript at is
  split at is
  · simp only [Bool.and_eq_true, decide_eq_true_eq] at is
    obtain ⟨⟨⟨⟨⟨⟨⟨⟨rfl, rfl⟩, rfl⟩, rfl⟩, rfl⟩, rfl⟩, rfl⟩, rfl⟩, rfl⟩ := is
    rfl
  · cases is

theorem read_source : Syntax.readScript "snippet".toUTF8 0 source.toUTF8 = .ok script :=
  Syntax.readScript_eq_of_recognized eq_script (by decide +kernel)

end Raising

namespace Session

variable {session : Session}

/-- It fails with its text on its line. -/
theorem IsFresh.raises (fresh : session.IsFresh "snippet") :
    session.Raises Raising.source 1 "boom".toUTF8 := by
  obtain ⟨plain, shown⟩ := fresh.plain
  have sound := fresh.reached.isSound
  have isText : Raising.source.toUTF8.toList.head? ≠ some 0x1B := by
    rw [Utf8.toList_toUTF8]
    decide
  have small : Raising.script.info.frameSize ≤ 1000 := show 2 ≤ 1000 by decide
  obtain ⟨charge, loaded, begins⟩ := exists_begins plain isText
    (shown.symm ▸ Raising.read_source) rfl small fresh.unlimited
  let store := session.loadedStore Raising.script charge
  let start := store.withFrame (session.scriptFrame Raising.script)
  have remembers : start.Remembers := sound.remembers.congr rfl rfl rfl rfl
  have fallsBack : start.FallsBack := fresh.fallsBack
  have environment : start.capturedValue 0 = .table start.scope := by
    simp [start, store, loadedStore, scriptFrame, Store.capturedValue, Store.withFrame, Store.cell,
      frameOf, sound.scope]
  have memory {m : State} {s : Store} (same : s.limit = session.store.limit) :
      checkMemory m s = (true, s) := checkMemory_of_unlimited (same.trans fresh.unlimited)
  obtain ⟨resume, asks⟩ : ∃ resume, runBody Raising.script start =
      .ask (.call (.builtin (.base .error)) #[.str "boom".toUTF8] Raising.site) start resume := by
    have function : eval (.free 0 Expr.environment "error".toUTF8 1) start =
        .done (.builtin (.base .error)) start :=
      Run.eval_free_global remembers fallsBack environment
        (fresh.unbound "error".toUTF8 (by decide)) fresh.error (by simp)
    have calls : evalMulti (.call (.free 0 Expr.environment "error".toUTF8 1)
        [.const (.ofString "boom")] 1 0) start =
          Run.call (.builtin (.base .error)) #[.str "boom".toUTF8] Raising.site start :=
      (Run.bind_of_done function).trans (Run.bind_of_done rfl)
    have runs : runBody Raising.script start = (((evalMulti (.call (.free 0 Expr.environment
        "error".toUTF8 1) [.const (.ofString "boom")] 1 0) start).bind fun _ =>
          Step.done Exit.fell).bind _) := rfl
    rw [runs, calls]
    exact ⟨_, rfl⟩
  rw [asks] at begins
  have goesOn : (session.topLevel store session.store.heap.closures.size).GoesOn
      (called session.interpreter.threads store session.store.heap.closures.size)
      (session.running Raising.script, .ask (.call (.builtin (.base .error))
        #[.str "boom".toUTF8] Raising.site) start resume) :=
    begins ▸ .refl
  exact .intro isText loaded goesOn .called rfl (memory rfl) rfl (fresh.strings "boom".toUTF8)
    .none

/-- In a new session a text that breaks off and one that raises an error both fail on their
first line, and the messages begin with the name of the session. -/
theorem located_snippet :
    ∃ outcome, create {} "\x1b" = .ok outcome ∧
      ¬Failure.tracebackStart <:+: (outcome.session.shownChunkName ++ ":").toList ∧
      outcome.session.shownChunkName = "snippet" ∧
      outcome.session.Misreads "x =" 1 ∧ outcome.session.Raises Raising.source 1 "boom".toUTF8 ∧
      (∃ message, (outcome.session.execute "x =").messages.getLast? = some message ∧
        Failure.NamesLine outcome.session.shownChunkName 1 message) ∧
      ∃ message, (outcome.session.execute Raising.source).messages.getLast? = some message ∧
        Failure.NamesLine outcome.session.shownChunkName 1 message := by
  obtain ⟨outcome, created, fresh⟩ := exists_fresh "snippet"
  have name : outcome.session.chunkName = "snippet" := fresh.named
  have shown : outcome.session.shownChunkName = "snippet" := by
    rw [shownChunkName_eq (by rw [name]; decide), name]
  have unmarked : ¬Failure.tracebackStart <:+: (outcome.session.shownChunkName ++ ":").toList := by
    rw [shown]
    decide
  have misreads : outcome.session.Misreads "x =" 1 := by
    refine ⟨by rw [name]; decide, by rw [Utf8.toList_toUTF8]; decide, ?_⟩
    rw [chunk, fresh.plain.2]
    decide +kernel
  exact ⟨outcome, created, unmarked, shown, misreads, fresh.raises,
    (located unmarked).1 misreads, (located unmarked).2.1 _ fresh.raises⟩

/-- A name that messages have no room for. -/
def longName : String := "aaaaaaaaaaaaaaaaaaaaaaaaaaaaaaaaaaaaaaaaaaaaaaaaaaaaaaaaaaaa"

/-- The settings may give that name to a session, but no message begins with it: it is cut
by one byte. -/
theorem located_long_name :
    Settings.ofText ("engine \x7b\n    chunk-name \"" ++ longName ++ "\"\n\x7d\n") =
      .ok { chunkName := longName } ∧
    ∃ outcome, create { chunkName := longName } "\x1b" = .ok outcome ∧
      outcome.session.chunkName = longName ∧ outcome.session.Misreads "x =" 1 ∧
      ∃ message, (outcome.session.execute "x =").messages.getLast? = some message ∧
        ¬Failure.NamesLine longName 1 message := by
  have accepted : (Settings.ofText ("engine \x7b\n    chunk-name \"" ++ longName ++
      "\"\n\x7d\n")).toOption = some { chunkName := longName } := by
    decide +kernel
  obtain ⟨outcome, created, fresh⟩ := exists_fresh longName
  have name : outcome.session.chunkName = longName := fresh.named
  have shown : outcome.session.shownChunkName.toList = longName.toList.take 59 := by
    rw [shownChunkName, name]
    decide +kernel
  have misreads : outcome.session.Misreads "x =" 1 := by
    refine ⟨by rw [name]; decide, by rw [Utf8.toList_toUTF8]; decide, ?_⟩
    rw [chunk, fresh.named]
    decide +kernel
  have unmarked : ¬Failure.tracebackStart <:+: (outcome.session.shownChunkName ++ ":").toList := by
    rw [String.toList_append, shown]
    decide +kernel
  obtain ⟨message, last, names⟩ := (located unmarked).1 misreads
  refine ⟨?_, outcome, created, name, misreads, message, last, fun whole => ?_⟩
  · cases read : Settings.ofText _ with
    | error failure =>
        rw [read] at accepted
        cases accepted
    | ok settings =>
        rw [read] at accepted
        rw [Option.some.inj accepted]
  · have both := List.prefix_of_prefix_length_le names whole (by
      rw [String.toList_append, shown]
      decide)
    rw [String.toList_append, shown] at both
    exact absurd both (by decide)

end Session

end LuaSession
