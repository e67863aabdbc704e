import LuaSession.Proofs.Bootstrap.Destination
import LuaSession.Proofs.Session.Calls

/-!
# Output of redirected sessions

In a session with all libraries that is redirected, output goes to the adapter or to the file
that has been chosen last, from script to script and whatever else scripts do, as long as they
leave the handles of files as the libraries have them.
-/

namespace LuaSession

open LuaSession.Script LuaSession.Library LuaSession.Machine

namespace Bootstrap

open Session

/-- The table of the library of files has the functions and the adapter that the first script
has put there, and the handles of files are as the libraries have them. -/
structure Redirects (adapter io : Nat) (s : Store) : Prop where
  binds : Opening.Binds "io" (.table io) s
  output : (s.table io).get (.ofString "output") = .closure 2
  write : (s.table io).get (.ofString "write") = .closure 3
  stdout : (s.table io).get (.ofString "stdout") = .handle adapter
  intact : Files.Intact s

theorem hostKeeps_selects (adapter : Nat) (destination : Value) :
    HostKeeps (Selects adapter destination) where
  lets := letsPublish_selects
  newNative _ _ selects := selects.congr rfl rfl rfl
  delivered _ selects := selects.congr rfl rfl rfl

variable {settings : Settings} {outcome : Outcome Unit} {adapter : Nat} {arguments : Array Value}
  {s : Store} {next : Next}

section Tables

open Opening

variable {places : Places}

/-- The tables of libraries differ when they have different fields. -/
theorem ne_of_absent {ref other : Nat} {table : Table} {fields : Fields} {name : String} {value : Value}
    (has : s.table ref = table) (found : table.get (.ofString name) = value) (present : value ≠ .nil)
    (stands : Stands other (tableOf fields) s) (absent : ∀ field ∈ fields, field.1 ≠ name) :
    ref ≠ other := by
  rintro rfl
  refine present ?_
  rw [← found, ← has, stands.table]
  exact get_tableOf_of_absent absent

/-- The first script changes three tables only. -/
theorem table_redirect_of_ne {ref : Nat} (notGlobals : s.registry.globals ≠ ref) (notIo : places.io ≠ ref)
    (notOs : places.os ≠ ref) : (redirect places s).table ref = s.table ref := by
  rw [redirect, Store.table_put_of_ne notOs, redirectIo, Store.table_put_of_ne notIo, redirectWrite,
    Store.table_put_of_ne notIo, redirectOutput, Store.table_put_of_ne notIo,
    redirectPrint, Store.table_put_of_ne notGlobals]

theorem registry_redirect (places : Places) (s : Store) : (redirect places s).registry = s.registry := by
  simp only [redirect, redirectIo, redirectWrite, redirectOutput, redirectPrint, Store.registry_put]

/-- The metatable of files and their methods are left as they are. -/
theorem intact_redirect (finds : FindsAll places s) : Files.Intact (redirect places s) := by
  obtain ⟨methods, events, own⟩ := finds.files.handles
  have notIo {ref : Nat} {fields : Fields} (stands : Stands ref (tableOf fields) s)
      (absent : ∀ field ∈ fields, field.1 ≠ "output") : places.io ≠ ref :=
    ne_of_absent rfl finds.original Value.noConfusion stands absent
  have notOs {ref : Nat} {fields : Fields} (stands : Stands ref (tableOf fields) s)
      (absent : ∀ field ∈ fields, field.1 ≠ "exit") : places.os ≠ ref := by
    have found : (tableOf systemFields).get (.ofString "exit") = .builtin (.system .exit) :=
      get_tableOf rfl
    exact ne_of_absent finds.files.os.stands.table found Value.noConfusion stands absent
  have metatable : (redirect places s).table s.registry.files = fileMetatable methods :=
    (table_redirect_of_ne events.notGlobals (notIo events (by simp [fileEvents]))
      (notOs events (by simp [fileEvents]))).trans events.table
  have table : (redirect places s).table methods = tableOf fileMethods :=
    (table_redirect_of_ne own.notGlobals (notIo own (by decide)) (notOs own (by decide))).trans own.table
  refine ⟨?_, methods, ?_, ?_⟩
  · rw [registry_redirect, metatable]
    exact get_tableOf_of_absent (by simp [fileEvents])
  · rw [registry_redirect, metatable]
    exact get_tableOf rfl
  · rw [table]
    exact get_tableOf rfl

/-- The first script has put its functions where the libraries have theirs. -/
theorem redirects_redirected (finds : FindsAll places s) (charge : Nat) :
    Redirects places.adapter places.io (redirected places s charge).delivered := by
  have printed : Offers "io" places.io (redirectPrint s) :=
    finds.io.put finds.globals (by decide) _
  have apart : places.os ≠ places.io := by
    have found : (tableOf systemFields).get (.ofString "exit") = .builtin (.system .exit) :=
      get_tableOf rfl
    exact ne_of_absent finds.files.os.stands.table found Value.noConfusion finds.files.io.stands
      (by simp [allFileFields, fileFields])
  have get (name : String) : ((redirect places s).table places.io).get (.ofString name) =
      if "stdout" = name then .handle places.adapter else if "write" = name then .closure 3 else
        if "output" = name then .closure 2 else
          ((redirectPrint s).table places.io).get
            (.ofString name) := by
    rw [redirect, Store.table_put_of_ne apart, redirectIo, (io_redirectWrite printed).get_put,
      redirectWrite, (io_redirectOutput printed).get_put, redirectOutput, printed.get_put]
  have binds : Binds "io" (.table places.io) (redirect places s) :=
    Binds.put (Binds.put (Binds.put (Binds.put (finds.io.binds.put _ (by decide) _) _ (by decide) _)
      _ (by decide) _) _ (by decide) _) _ (by decide) _
  have intact := intact_redirect finds
  exact ⟨binds.congr rfl rfl, get "output", get "write", get "stdout", intact.noEquality, intact.methods⟩

end Tables

theorem redirects_of_open (safe : settings.libraries = .safe)
    (opened : Session.open settings = .ok outcome) (redirects : outcome.session.isRedirected = true) :
    ∃ adapter io, Redirects adapter io outcome.session.store ∧
      outcome.session.interpreter.Keeps shelter (Selects adapter (.handle adapter)) := by
  obtain ⟨places, charge, finds, adapter, interpreter, _⟩ := open_redirected safe opened redirects
  refine ⟨places.adapter, places.io, ?_, ?_⟩
  · rw [Session.store, interpreter]
    exact redirects_redirected finds charge
  · rw [interpreter]
    exact Interpreter.keeps_start shelter (selects_redirected charge adapter)

/-! ## Sessions that have just been opened -/

/-- A session of which memory is not limited has just been opened and redirected. -/
structure JustOpened (session : Session) : Prop where
  named : session.setting.chunkName = "snippet"
  scope : session.setting.scope = session.store.scope
  scene : Scene session.store
  unlimited : session.store.limit = none

/-- The first script leaves the scope as it was made. -/
theorem scene_redirect {places : Places} (finds : FindsAll places s) : Scene (redirect places s) := by
  have printed : Scene (redirectPrint s) := finds.basics.toScene.put finds.globals "print" (.closure 1)
  have io : Opening.Offers "io" places.io (redirectPrint s) :=
    finds.io.put finds.globals (by decide) _
  have os : Opening.Offers "os" places.os (redirectPrint s) :=
    finds.os.put finds.globals (by decide) _
  exact (printed.redirectIo io).put
    (offers_redirectIo io os (by decide) (by decide) (by decide)) "exit" (.closure 4)

theorem scope_redirect (places : Places) (s : Store) : (redirect places s).scope = s.scope := by
  simp only [redirect, redirectIo, redirectWrite, redirectOutput, redirectPrint, Store.scope_put]

theorem limit_redirect (places : Places) (s : Store) : (redirect places s).limit = s.limit := by
  have put (s : Store) (ref : Nat) (key value : Value) : (s.put ref key value).limit = s.limit := by
    rw [Store.put]
    split <;> rfl
  simp only [redirect, redirectIo, redirectWrite, redirectOutput, redirectPrint, put]

theorem justOpened_redirected {places : Places} {settings : Settings}
    (named : settings.chunkName = "snippet") (finds : FindsAll places s) (unlimited : s.limit = none)
    (charge : Nat) :
    JustOpened (Session.begun settings s.scope none
      { store := (redirected places s charge).delivered }) where
  named := named
  scope := (scope_redirect places s).symm
  scene := by
    have scene := scene_redirect finds
    exact ⟨scene.remembers.congr rfl rfl rfl rfl, scene.fallsBack, scene.unassigned⟩
  unlimited := (limit_redirect places s).trans unlimited

/-- Where memory is not limited, sessions with all libraries are redirected. -/
theorem exists_justOpened (safe : settings.libraries = .safe) (unlimited : settings.memoryLimit = none)
    (named : settings.chunkName = "snippet") :
    ∃ outcome, Session.open settings = .ok outcome ∧ outcome.session.isRedirected = true ∧
      JustOpened outcome.session := by
  obtain ⟨store, made⟩ : ∃ store, Session.openStore settings = .ok store := by
    rw [Session.openStore, unlimited]
    exact ⟨_, rfl⟩
  obtain ⟨isStart, places, finds, _, ⟨charge, opened⟩ | ⟨limited, _⟩⟩ := open_cases safe made
  · have noLimit : store.limit = none := by
      rw [isStart]
      exact unlimited
    exact ⟨_, opened, rfl, justOpened_redirected named finds noLimit charge⟩
  · exact absurd unlimited limited

/-- A script that calls a function of the library of files, and nothing else. -/
def calling (field : String) (arguments : List Expr) : Code :=
  .mk { chunk := "snippet".toUTF8, line := 0, parameters := 0, isVariadic := true, slots := 0
        frameSize := 2, shared := #[], captures := #[.slot 0] } false
    [.run (.call (.index (.free 0 Expr.environment "io".toUTF8 1) (.const (.ofString field)) 1)
      arguments 1 0)]

/-- Where it calls the function. -/
def callSite (field : String) : Site where
  kind := .script
  line := 1
  callee := .expression (.index (.free 0 Expr.environment "io".toUTF8 1) (.const (.ofString field)) 1)

theorem runBody_calling {field : String} {expressions : List Expr} {io ref : Nat} (scene : Scene s)
    (binds : Opening.Binds "io" (.table io) s) (environment : s.capturedValue 0 = .table s.scope)
    (found : (s.table io).get (.ofString field) = .closure ref)
    (reads : evalList expressions #[] s = .done arguments s) :
    ∃ resume, runBody (calling field expressions) s =
      .ask (.call (.closure ref) arguments (callSite field)) s resume := by
  have table : eval (.free 0 Expr.environment "io".toUTF8 1) s = .done (.table io) s :=
    Run.eval_free_global scene.remembers scene.fallsBack environment
      (scene.unassigned "io" (by decide)) binds.get Value.noConfusion
  have function : eval (.index (.free 0 Expr.environment "io".toUTF8 1) (.const (.ofString field)) 1) s =
      .done (.closure ref) s :=
    (Run.bind_of_done table).trans (Run.index_found found Value.noConfusion)
  have calls : evalMulti (.call (.index (.free 0 Expr.environment "io".toUTF8 1)
      (.const (.ofString field)) 1) expressions 1 0) s =
        Run.call (.closure ref) arguments (callSite field) s :=
    (Run.bind_of_done function).trans (Run.bind_of_done reads)
  have runs : runBody (calling field expressions) s = (((evalMulti (.call (.index (.free 0
      Expr.environment "io".toUTF8 1) (.const (.ofString field)) 1) expressions 1 0) s).bind fun _ =>
        Step.done Exit.fell).bind _) := rfl
  rw [runs, calls]
  exact ⟨_, rfl⟩

/-- Where the variables are others, the function that chooses does not begin. -/
theorem not_begins_chooser (other : next.2.store.frame.captured ≠ chooser.captured) :
    ¬Begins chooser arguments s next := by
  intro begins
  rw [begins.step, show chooser.code = output from rfl, frame_runBody_output] at other
  exact other rfl

/-- A script of the session runs: its function begins. -/
structure Executes (session : Session) (code : Code) (first : Next) (start : Store) : Prop where
  starts : session.Starts first
  isBottom : first.1.stack = []
  notYet : stopped? first.1 first.2 = none
  begins : advance first.1 first.2 = (session.running code, runBody code start)
  scene : Scene start
  environment : start.capturedValue 0 = .table start.scope
  tables : start.heap.tables = session.store.heap.tables
  registry : start.registry = session.store.registry
  closures : ∀ ref closure, session.store.heap.closures[ref]? = some closure →
    start.closure ref = closure
  captured : start.frame.captured.size = 1
  unlimited : start.limit = none

/-- Scripts of a session that has just been opened run. -/
theorem JustOpened.executes {session : Session} {source : String} {code : Code}
    (opened : JustOpened session) (isText : source.toUTF8.toList.head? ≠ some 0x1B)
    (read : Syntax.readScript "snippet".toUTF8 0 source.toUTF8 = .ok code)
    (isOne : code.info.captures.size = 1) (few : code.info.frameSize ≤ 1000) :
    ∃ first start, Executes session code first start := by
  have plain : s!"={session.setting.chunkName}".toUTF8.toList.findIdx? (· == 0) = none := by
    rw [opened.named, Utf8.toList_toUTF8]
    decide
  have shown : Syntax.shownName s!"={session.setting.chunkName}".toUTF8 = "snippet".toUTF8 := by
    rw [opened.named]
    decide +kernel
  obtain ⟨charge, loaded, begins⟩ := Session.exists_begins plain isText (shown.symm ▸ read) isOne few
    opened.unlimited
  refine ⟨_, _, .executing loaded, rfl, rfl, begins, ?_, ?_, rfl, rfl, fun ref closure isClosure => ?_,
    rfl, opened.unlimited⟩
  · exact ⟨opened.scene.remembers.congr rfl rfl rfl rfl, opened.scene.fallsBack, opened.scene.unassigned⟩
  · simp [Session.loadedStore, Session.scriptFrame, Store.capturedValue, Store.withFrame, Store.cell,
      frameOf, opened.scope]
  · change (session.store.heap.closures.push _).getD ref default = closure
    rw [Array.getD_eq_getD_getElem?, getElem?_push_of_eq_some isClosure]
    rfl

/-- Such a script of a session that has just been opened: its function calls the other one, which
is the first call. -/
theorem exists_begins_calling {session : Session} {source field : String} {expressions : List Expr}
    {io ref : Nat} {closure : Closure} (opened : JustOpened session)
    (redirects : Redirects adapter io session.store)
    (isText : source.toUTF8.toList.head? ≠ some 0x1B)
    (read : Syntax.readScript "snippet".toUTF8 0 source.toUTF8 = .ok (calling field expressions))
    (reads : ∀ s, evalList expressions #[] s = .done arguments s)
    (found : (session.store.table io).get (.ofString field) = .closure ref)
    (isClosure : session.store.heap.closures[ref]? = some closure)
    (small : closure.code.info.frameSize + arguments.size ≤ 1000) :
    ∃ first m activation s, session.Starts first ∧
      Course chooser Files.Intact [] first [] (begin m closure arguments activation s) ∧
      (begin m closure arguments activation s).1.IsCalled ∧ Files.Intact s ∧ s.limit = none ∧
      m.overflowing = false ∧ activation.base ≤ arguments.size + 4 := by
  obtain ⟨first, start, executes⟩ :=
    opened.executes isText read rfl (show 2 ≤ 1000 by decide)
  have table (ref : Nat) : start.table ref = session.store.table ref :=
    Store.table_congr executes.tables ref
  have binds : Opening.Binds "io" (.table io) start :=
    redirects.binds.congr executes.tables (congrArg Registry.globals executes.registry)
  obtain ⟨resume, asks⟩ := runBody_calling executes.scene binds executes.environment
    ((table io).symm ▸ found) (reads start)
  have memory : checkMemory (session.running (calling field expressions)) start = (true, start) :=
    checkMemory_of_unlimited executes.unlimited
  have base : baseOf closure arguments (2 + 0 + 1) ≤ arguments.size + 4 := by
    rw [baseOf]
    split <;> omega
  have room : hasRoom (session.running (calling field expressions))
      (baseOf closure arguments (2 + 0 + 1) + closure.code.info.frameSize) = true :=
    decide_eq_true (show _ ≤ 1000000 by omega)
  have calls : call (session.running (calling field expressions)) (.closure ref) arguments
      (callSite field) resume start = _ :=
    @call_closure _ (callSite field) _ _ _ _ memory (show 0 + 1 < 200 by decide) _ _
      (executes.closures ref closure isClosure) room
  have called : Course chooser Files.Intact [] first [] (session.running (calling field expressions),
      .ask (.call (.closure ref) arguments (callSite field)) start resume) := by
    rw [← asks, ← executes.begins]
    refine .goes .start (fun given s begins => ?_) executes.notYet
    obtain ⟨⟨_, _, _, _, _, waits⟩, _⟩ := begins
    cases executes.isBottom.symm.trans waits
  have course : Course chooser Files.Intact [] first []
      (call (session.running (calling field expressions)) (.closure ref) arguments (callSite field)
        resume start) := by
    refine .goes called (fun given s => not_begins_chooser fun same => ?_) rfl
    exact absurd (executes.captured.symm.trans (congrArg Array.size same)) (show 1 ≠ 3 by decide)
  have intact : Files.Intact (start.withFrame {}) :=
    redirects.intact.congr executes.tables executes.registry
  rw [calls] at course
  exact ⟨_, _, _, _, executes.starts, course, ⟨_, _, _, _, _, rfl⟩, intact, executes.unlimited, rfl, base⟩

/-- The function that writes begins where there is space for its method. -/
theorem hasSpace_begin {m : State} {activation : Activation} (unlimited : s.limit = none)
    (notOverflowing : m.overflowing = false) (base : activation.base ≤ arguments.size + 4)
    (small : arguments.size ≤ 1000) :
    HasSpace (begin m writer arguments activation s).1 arguments
      (begin m writer arguments activation s).2.store where
  memory := by
    refine congrArg Prod.fst (checkMemory_of_unlimited ?_)
    exact (congrArg Store.limit (store_runBody_write _)).trans unlimited
  room := by
    change hasRoom (m.withActivation activation) (activation.base + 0 + 1 + (1 + arguments.size) + 20) = true
    rw [hasRoom, show (m.withActivation activation).overflowing = false from notOverflowing]
    exact decide_eq_true (show _ ≤ 1000000 by omega)

theorem read_telling : Syntax.readScript "snippet".toUTF8 0 "io.output()".toUTF8 =
    .ok (calling "output" []) :=
  Syntax.readScript_eq_of_recognized (eq_of_same.2.2.1 _ _) (by decide +kernel)

theorem read_writing : Syntax.readScript "snippet".toUTF8 0 "io.write('x')".toUTF8 =
    .ok (calling "write" [.const (.ofString "x")]) :=
  Syntax.readScript_eq_of_recognized (eq_of_same.2.2.1 _ _) (by decide +kernel)

end Bootstrap

namespace Session

open Bootstrap

/-- In a session with all libraries that is redirected, whatever becomes of it: at every moment
of a run, output goes where the calls so far of the function that chooses have made it go, and
what the function that writes is given goes there. As long as the handles of files are intact
whenever the function that chooses begins, all calls of the two functions are at such moments. -/
theorem output_destination {settings : Settings} {outcome : Outcome Unit}
    (safe : settings.libraries = .safe) (opened : Session.open settings = .ok outcome)
    (redirects : outcome.session.isRedirected = true) :
    ∃ adapter io, Redirects adapter io outcome.session.store ∧
      ∀ earlier later, outcome.session.Calls chooser Files.Intact earlier later →
        ∀ first, later.Starts first →
          (∀ calls next, Course chooser Files.Intact earlier first calls next →
            Obeys adapter calls next) ∧
          ((∀ next, Passes first.1 first.2 next.1 next.2 →
              ∀ arguments s, Begins chooser arguments s next → Files.Intact s) →
            ∀ next, Passes first.1 first.2 next.1 next.2 → ∀ arguments s, Files.Intact s →
              Begins chooser arguments s next ∨ Begins writer arguments s next →
              ∃ calls, Course chooser Files.Intact earlier first calls next) := by
  obtain ⟨adapter, io, redirected, keeps⟩ := redirects_of_open safe opened redirects
  refine ⟨adapter, io, redirected, fun earlier later becomes first starts => ?_⟩
  have kept : later.interpreter.Keeps shelter (Selects adapter (selected adapter earlier)) :=
    becomes.keeps (J := fun calls => Selects adapter (selected adapter calls))
      (fun calls => hostKeeps_selects adapter _) (fun _ isExempt => isExempt) switches_chooser keeps
  have runs := starts.runs kept
  refine ⟨fun calls next course => obeys (keeps_of_course runs course),
    fun isIntact next passes arguments s intact begins => ?_⟩
  refine exists_course runs (Passes.lies (fun course begins intact => ?_) passes fun passes => ?_)
    intact begins
  · obtain ⟨result, last, chooses⟩ := exists_chooses (keeps_of_course runs course) begins intact
    exact ⟨result, last, chooses.completes⟩
  · exact isIntact _ passes

/-- In a session that has just been opened, `io.output()` tells the adapter, and `io.write('x')`
publishes its text. -/
theorem output_destination_fresh :
    ∃ outcome adapter, Session.open {} = .ok outcome ∧
      (∃ first next s last, outcome.session.Starts first ∧
        Course chooser Files.Intact [] first [] next ∧ Begins chooser #[] s next ∧
        Completes next.1 next (some #[.handle adapter]) last) ∧
      ∃ first next s last, outcome.session.Starts first ∧
        Course chooser Files.Intact [] first [] next ∧ Begins writer #[.ofString "x"] s next ∧
        Completes next.1 next (some #[.handle adapter]) last ∧
        last.2.store.world.emitted = next.2.store.world.emitted.push (.written "x") := by
  obtain ⟨outcome, opened, redirected, just⟩ := @exists_justOpened {} rfl rfl rfl
  obtain ⟨adapter, io, redirects, obeys⟩ := output_destination rfl opened redirected
  have wired := ((obeys [] _ .refl _ (.reading "")).1 [] _ .start).wired
  refine ⟨outcome, adapter, opened, ?_, ?_⟩
  · obtain ⟨first, m, activation, s, starts, course, isCalled, intact, _⟩ :=
      exists_begins_calling just redirects (by rw [Utf8.toList_toUTF8]; decide) read_telling
        (fun _ => rfl) redirects.output wired.hasChooser (by decide)
    have begins : Begins chooser #[] s (begin m chooser #[] activation s) := ⟨isCalled, _, _, rfl⟩
    obtain ⟨result, last, completes, answers⟩ :=
      ((obeys [] _ .refl _ starts).1 [] _ course).answers _ _ begins intact
    rw [answers.tells rfl] at completes
    exact ⟨_, _, _, _, starts, course, begins, completes⟩
  · obtain ⟨first, m, activation, s, starts, course, isCalled, intact, unlimited, notOverflowing, base⟩ :=
      exists_begins_calling just redirects (by rw [Utf8.toList_toUTF8]; decide) read_writing
        (fun _ => rfl) redirects.write wired.hasWriter (by decide)
    have begins : Begins writer #[.ofString "x"] s (begin m writer #[.ofString "x"] activation s) :=
      ⟨isCalled, _, _, rfl⟩
    obtain ⟨_, _, result, last, completes, writes⟩ :=
      ((obeys [] _ .refl _ starts).1 [] _ course).writes _ _ begins intact
    have texts : ∀ value ∈ #[Value.ofString "x"], Hosted.IsText value := by
      simp [Hosted.IsText, Value.typeName, Value.ofString]
    have space := hasSpace_begin unlimited notOverflowing base (by decide)
    obtain ⟨_, ⟨rfl, _, emitted⟩ | ⟨rfl, _⟩⟩ := writes.published rfl
    · refine ⟨_, _, _, _, starts, course, begins, completes, emitted.trans ?_⟩
      have text : String.join ([Value.ofString "x"].map Hosted.written) = "x" := by decide +kernel
      exact congrArg (Array.push _ ∘ Emission.written) text
    · cases writes.returns rfl texts space

end Session

end LuaSession
