import LuaSession.Proofs.Machine.Calling
import LuaSession.Proofs.Session.Globals
import LuaSession.Proofs.Session.Lookup

/-!
# Scripts that give the scope a metatable

A script can give the scope a metatable that has a function of its own for some event.
Such a script is followed here from its text to what it leaves behind, whatever the
event and the function are, and then reading a name, for which the function is called.
-/

namespace LuaSession

open LuaSession.Script LuaSession.Library LuaSession.Machine

/-! ## Metatables -/

theorem Script.modify_push_size {α : Type} (entries : Array α) (entry : α) (f : α → α) :
    (entries.push entry).modify entries.size f = entries.push (f entry) := by
  refine Array.ext (by simp) fun place inside _ => ?_
  simp only [Array.getElem_modify, Array.getElem_push]
  rcases Nat.lt_or_ge place entries.size with old | new
  · simp [old, Nat.ne_of_gt old]
  · have same : entries.size = place := by
      simp at inside
      omega
    simp [same]

/-- A table constructor for one field that is a function, which captures the variable
that the running function has captured first. -/
theorem Script.eval_handlerTable (s : Store) (name : Bytes) {code : Code} (line : Nat)
    (captures : code.info.captures = #[.captured 0])
    (inHeap : s.scope < s.heap.tables.size) :
    ∃ table charge, (∀ other, table.get (.str other) =
        if name = other then .closure s.heap.closures.size else .nil) ∧
      eval (.table [.keyed (.const (.str name)) (.function code) line]) s =
        .done (.table s.heap.tables.size) { s with
          heap := { s.heap with
            tables := s.heap.tables.push table
            closures := s.heap.closures.push { code, captured := #[s.frame.captured.getD 0 0] } }
          charge } := by
  let room : Table := { capacity := 1 }
  have sound : room.Sound := Table.sound_empty.congr rfl rfl
  let made := (s.newTable room).2
  let closed := (made.newClosure { code, captured := #[s.frame.captured.getD 0 0] }).2
  have closes : made.makeClosure code = (.closure s.heap.closures.size, closed) := by
    rw [Store.makeClosure, captures]
    rfl
  have counts : Field.counts [.keyed (.const (.str name)) (.function code) line] = (1, 0) := rfl
  obtain ⟨charge, puts⟩ : ∃ charge, Run.rawSet (.script line) s.heap.tables.size (.str name)
      (.closure s.heap.closures.size) closed = .done () { closed.put s.heap.tables.size (.str name)
        (.closure s.heap.closures.size) with charge } := Run.rawSet_str _ _
  -- The new table is not the scope, so that nothing is noted.
  have apart : (s.heap.tables.size == closed.scope) = false :=
    beq_false_of_ne (Nat.ne_of_gt inHeap)
  have put : closed.put s.heap.tables.size (.str name) (.closure s.heap.closures.size) =
      { closed with heap := { closed.heap with
        tables := s.heap.tables.push
          (room.set (.str name) (.closure s.heap.closures.size)) } } := by
    unfold Store.put Store.modifyTable
    dsimp only
    rw [apart]
    exact congrArg (fun tables => { closed with heap := { closed.heap with tables } })
      (modify_push_size _ _ _)
  rw [put] at puts
  have fields : evalFields [.keyed (.const (.str name)) (.function code) line]
      s.heap.tables.size #[] made = .done #[] { closed with
        heap := { closed.heap with
          tables := s.heap.tables.push (room.set (.str name) (.closure s.heap.closures.size)) }
        charge } := by
    rw [evalFields, eval, eval]
    refine (Run.bind_of_done (Run.pure_apply made (Value.str name))).trans ?_
    rw [Run.update_bind, closes]
    exact Run.bind_of_done puts
  refine ⟨room.set (.str name) (.closure s.heap.closures.size), charge, fun other => ?_, ?_⟩
  · rw [Table.get_set sound, Table.get_str room, Table.getPair_of_index_none (by simp [room])]
    exact if_congr (by simp) rfl rfl
  · rw [eval]
    simp only [counts]
    rw [Run.update_bind]
    refine (Run.bind_of_done fields).trans ?_
    exact congrArg (fun tables => Step.done (Value.table s.heap.tables.size)
      { closed with heap := { closed.heap with tables }, charge }) (modify_push_size _ _ _)

/-- A table whose metatable is not protected gets another one that finalizes nothing. -/
theorem Library.Basic.setMetatable_plain (caller : Caller) {s : Store} {ref mt : Nat}
    (unprotected : s.metafield (.table ref) Event.metatable = .nil)
    (noFinalizer : (s.modifyTable ref fun t => { t with metatable := some mt }).metafield
      (.table ref) Event.gc = .nil) :
    Basic.setMetatable caller #[.table ref, .table mt] s =
      .done #[.table ref] (s.modifyTable ref fun t => { t with metatable := some mt }) := by
  rw [Basic.setMetatable]
  refine (Run.bind_of_done (t := s) rfl).trans ?_
  change ((Run.read fun s => s.metafield (.table ref) Event.metatable) >>= _) s = _
  rw [Run.read_bind, unprotected]
  change Step.done _ (if (!((s.modifyTable ref fun t => { t with metatable := some mt }).metafield
    (.table ref) Event.gc).isNil && _) = true then _ else _) = _
  rw [noFinalizer]
  rfl

/-- The metatable of a scope that falls back on the globals is there, and is another
table. -/
theorem Script.Store.FallsBack.exists_apart {s : Store} (fallsBack : s.FallsBack) :
    ∃ ref < s.heap.tables.size, ref ≠ s.scope ∧ (s.table s.scope).metatable = some ref ∧
      s.table ref = fallback s.registry.globals := by
  obtain ⟨ref, isMetatable, isFallback⟩ := fallsBack
  refine ⟨ref, ?_, ?_, isMetatable, isFallback⟩
  · by_contra outside
    have none : s.table ref = {} := by
      rw [Store.table, Array.getD_eq_getD_getElem?, Array.getElem?_eq_none (Nat.not_lt.mp outside)]
      rfl
    have index := (Store.get_fallback s.registry.globals "__index".toUTF8).trans (if_pos rfl)
    rw [← isFallback, none, Table.get_str, Table.getPair_of_index_none (by simp)] at index
    cases index
  · rintro rfl
    have plain : (fallback s.registry.globals).metatable = none := Table.metatable_set _ _ _
    rw [isFallback, plain] at isMetatable
    cases isMetatable

/-- Another table does not change what the scope falls back on. -/
theorem Script.Store.FallsBack.newTable {s : Store} (fallsBack : s.FallsBack)
    (inHeap : s.scope < s.heap.tables.size) (table : Table) : (s.newTable table).2.FallsBack := by
  obtain ⟨ref, inside, _, isMetatable, isFallback⟩ := fallsBack.exists_apart
  exact ⟨ref, (congrArg Table.metatable (table_newTable inHeap table)).trans isMetatable,
    (table_newTable inside table).trans isFallback⟩

/-! ## Loading -/

section Loading

variable (interpreter : Interpreter) {setting : Setting} {source : Bytes}
  (plain : s!"={setting.chunkName}".toUTF8.toList.findIdx? (· == 0) = none)
  (isText : source.toList.head? ≠ some 0x1B)

include plain isText

/-- What is loaded of a text under a plain name is what the text is read as, or else what
is wrong with it. -/
theorem Interpreter.perform_loadForHost_text :
    interpreter.perform (Hosted.loadForHost setting source) =
      match Syntax.readScript (Syntax.shownName s!"={setting.chunkName}".toUTF8) 0 source with
      | .ok code =>
          (.ok (.ok (Hosted.scriptFunction setting code interpreter.store).1),
            { interpreter with
              store := (Hosted.scriptFunction setting code interpreter.store).2 })
      | .error trouble =>
          let text := Utf8.lossy
            (trouble.message (Syntax.shownName s!"={setting.chunkName}".toUTF8))
          (.ok (.error (.malformed text (Syntax.saysIncomplete text))), interpreter) := by
  have notCompiled : Syntax.isCompiled source = false := by
    simpa [Syntax.isCompiled] using isText
  have notMarked : Syntax.compiledMark.toList.isPrefixOf source.toList = false := by
    have mark : Syntax.compiledMark.toList = [0x1B, 0x4C, 0x75, 0x61] := by decide +kernel
    rw [mark]
    cases bytes : source.toList with
    | nil => rfl
    | cons b rest =>
        rw [bytes] at isText
        simp only [List.isPrefixOf, Bool.and_eq_false_imp, beq_iff_eq]
        intro same
        exact absurd (congrArg some same.symm) isText
  have isMode : Loading.modeError? "t".toUTF8 "text" = none := by decide +kernel
  rw [Hosted.loadForHost]
  dsimp only
  rw [plain]
  dsimp only
  rw [notMarked, Interpreter.perform_bind, Loading.load, notCompiled]
  simp only [Bool.false_eq_true, reduceIte, isMode]
  rw [Interpreter.perform_bind, Interpreter.perform_currentDepth]
  dsimp only
  cases Syntax.readScript (Syntax.shownName s!"={setting.chunkName}".toUTF8) 0 source <;> rfl

/-- A text that is read as a function with the environment alone is loaded. -/
theorem Interpreter.perform_loadForHost_of_read {code : Code}
    (read : Syntax.readScript (Syntax.shownName s!"={setting.chunkName}".toUTF8) 0 source =
      .ok code) (captures : code.info.captures.size = 1) :
    ∃ charge, interpreter.perform (Hosted.loadForHost setting source) =
      (.ok (.ok (.closure interpreter.store.heap.closures.size)),
        { interpreter with store := { interpreter.store with
          heap := { interpreter.store.heap with
            cells := interpreter.store.heap.cells.push (.table setting.scope)
            closures := interpreter.store.heap.closures.push
              ⟨code, #[interpreter.store.heap.cells.size]⟩ }
          charge } }) := by
  obtain ⟨charge, function⟩ : ∃ charge, Hosted.scriptFunction setting code interpreter.store =
      (.closure interpreter.store.heap.closures.size, { interpreter.store with
        heap := { interpreter.store.heap with
          cells := interpreter.store.heap.cells.push (.table setting.scope)
          closures := interpreter.store.heap.closures.push
            ⟨code, #[interpreter.store.heap.cells.size]⟩ }
        charge }) := by
    rw [Hosted.scriptFunction, Loading.closureOf, captures]
    exact ⟨_, rfl⟩
  have loaded := interpreter.perform_loadForHost_text plain isText
  rw [read] at loaded
  dsimp only at loaded
  rw [function] at loaded
  exact ⟨charge, loaded⟩

end Loading

/-! ## The script -/

/-- A script `setmetatable(_ENV, \x7b event = function … end \x7d)`, where the function does
not use more of the script than its environment. -/
structure Snare where
  chunk : Bytes
  event : Bytes
  handler : Code
  captures : handler.info.captures = #[.captured 0]
  noFinalizer : event ≠ "__gc".toUTF8

namespace Snare

variable (snare : Snare)

/-- The expression for the function that sets metatables. -/
def function : Expr := .free 0 Expr.environment "setmetatable".toUTF8 1

/-- What that function is called with. -/
def arguments : List Expr :=
  [.captured 0 Expr.environment, .table [.keyed (.const (.str snare.event)) (.function snare.handler) 1]]

/-- What the text of the script is read as. -/
def script : Code :=
  .mk { chunk := snare.chunk, line := 0, parameters := 0, isVariadic := true, slots := 0
        frameSize := 4, shared := #[], captures := #[.slot 0] } false
    [.run (.call function snare.arguments 1 0)]

/-- Where the script calls the function that sets metatables. -/
def site : Site := { kind := .script, line := 1, callee := .expression function, room := 0 }

/-- The frame that the script runs with. -/
def frame (cell : Nat) : Frame := frameOf ⟨snare.script, #[cell]⟩ #[]

/-- The store when the script has made the metatable. -/
def made (s : Store) (cell : Nat) (metatable : Table) (charge : Nat) : Store :=
  { s with
    frame := snare.frame cell
    heap := { s.heap with
      tables := s.heap.tables.push metatable
      closures := s.heap.closures.push ⟨snare.handler, #[cell]⟩ }
    charge }

/-- The store when the scope has got it. -/
def set (s : Store) (cell : Nat) (metatable : Table) (charge : Nat) : Store :=
  (snare.made s cell metatable charge).modifyTable s.scope fun t =>
    { t with metatable := some s.heap.tables.size }

/-- A store in which the script can run: the scope falls back on the globals, which have
the function that sets metatables, and memory is not limited. -/
structure Ready (s : Store) : Prop where
  remembers : s.Remembers
  fallsBack : s.FallsBack
  absent : s.lastAssigned? "setmetatable".toUTF8 = none
  present : (s.table s.registry.globals).get (.ofString "setmetatable") =
    .builtin (.base .setmetatable)
  unlimited : s.limit = none

/-- A store in which the scope has the metatable of the script. -/
structure Handles (s : Store) (ref cell : Nat) : Prop where
  metafield : ∀ name, s.metafield (.table s.scope) (.str name) =
    if snare.event = name then .closure ref else .nil
  closure : s.closure ref = ⟨snare.handler, #[cell]⟩
  environment : s.cell cell = .table s.scope
  unlimited : s.limit = none

variable {snare} {s : Store} {ref cell : Nat}

namespace Ready

variable (ready : Ready s)

include ready

theorem eval_function {frame : Frame} (environment : (s.withFrame frame).capturedValue 0 = .table s.scope) :
    eval function (s.withFrame frame) = .done (.builtin (.base .setmetatable)) (s.withFrame frame) := by
  have remembers : (s.withFrame frame).Remembers := ready.remembers.congr rfl rfl rfl rfl
  have fallsBack : (s.withFrame frame).FallsBack := ready.fallsBack
  have absent : (s.withFrame frame).lastAssigned? "setmetatable".toUTF8 = none := ready.absent
  exact Run.eval_free_global remembers fallsBack environment absent ready.present (by simp)

variable (snare) in
/-- The script runs up to the call. -/
theorem runBody_script (environment : s.cell cell = .table s.scope) :
    ∃ metatable charge resume, (∀ other, metatable.get (.str other) =
        if snare.event = other then .closure s.heap.closures.size else .nil) ∧
      runBody snare.script (s.withFrame (snare.frame cell)) =
        .ask (.call (.builtin (.base .setmetatable)) #[.table s.scope, .table s.heap.tables.size]
          site) (snare.made s cell metatable charge) resume ∧
      ∀ values t, resume (.returned values) t = .done .fell t := by
  obtain ⟨metatable, charge, fields, makes⟩ := eval_handlerTable (s.withFrame (snare.frame cell))
    snare.event 1 snare.captures ready.remembers.inHeap
  have bound : (s.withFrame (snare.frame cell)).capturedValue 0 = .table s.scope := environment
  have arguments : evalList snare.arguments #[] (s.withFrame (snare.frame cell)) =
      .done #[.table s.scope, .table s.heap.tables.size] (snare.made s cell metatable charge) := by
    have first : eval (.captured 0 Expr.environment) (s.withFrame (snare.frame cell)) =
        .done (.table s.scope) (s.withFrame (snare.frame cell)) := congrArg (Step.done · _) bound
    exact (Run.bind_of_done first).trans (Run.bind_of_done makes)
  have calls : evalMulti (.call function snare.arguments 1 0) (s.withFrame (snare.frame cell)) =
      Run.call (.builtin (.base .setmetatable)) #[.table s.scope, .table s.heap.tables.size] site
        (snare.made s cell metatable charge) :=
    (Run.bind_of_done (ready.eval_function bound)).trans (Run.bind_of_done arguments)
  have runs : exec (.run (.call function snare.arguments 1 0)) (s.withFrame (snare.frame cell)) =
      (Run.call (.builtin (.base .setmetatable)) #[.table s.scope, .table s.heap.tables.size] site
        (snare.made s cell metatable charge)).bind fun _ => Step.done Exit.fell := by
    rw [← calls]
    rfl
  refine ⟨metatable, charge, ?resume, fields, ?body, ?goesOn⟩
  case body =>
    change (exec (.run (.call function snare.arguments 1 0))
      (s.withFrame (snare.frame cell))).bind _ = _
    rw [runs]
    rfl
  case goesOn => exact fun _ _ => rfl

variable (metatable : Table) (charge : Nat)

/-- The scope has the new metatable. -/
theorem metafield_set (name : Value) :
    (snare.set s cell metatable charge).metafield (.table s.scope) name = metatable.get name := by
  have inHeap := ready.remembers.inHeap
  have scope : ((snare.set s cell metatable charge).table s.scope).metatable =
      some s.heap.tables.size := by
    rw [set, Store.table_modifyTable_self]
    simpa [made] using Nat.lt_succ_of_lt inHeap
  have own : (snare.set s cell metatable charge).table s.heap.tables.size = metatable := by
    rw [set, Store.table_modifyTable_of_ne (Nat.ne_of_lt inHeap)]
    simp [Store.table, made]
  simp only [Store.metafield, Store.metatable?, scope, own]

variable {metatable}

/-- Setting the metatable comes to an end at once. -/
theorem setMetatable (fields : ∀ other, metatable.get (.str other) =
      if snare.event = other then .closure s.heap.closures.size else .nil) (caller : Caller) :
    Basic.setMetatable caller #[.table s.scope, .table s.heap.tables.size]
        (snare.made s cell metatable charge) =
      .done #[.table s.scope] (snare.set s cell metatable charge) := by
  refine Basic.setMetatable_plain caller ?_ ?_
  · have fallsBack : (snare.made s cell metatable charge).FallsBack :=
      ready.fallsBack.newTable ready.remembers.inHeap metatable
    exact (fallsBack.metafield "__metatable".toUTF8).trans
      ((Store.get_fallback _ _).trans (if_neg (by decide)))
  · refine (ready.metafield_set metatable charge Event.gc).trans ?_
    exact (fields "__gc".toUTF8).trans (if_neg snare.noFinalizer)

/-- The script runs to its end. -/
theorem stops (closure : s.closure ref = ⟨snare.script, #[cell]⟩)
    (environment : s.cell cell = .table s.scope) (threads : Array Dormant) :
    ∃ final, Stops { threads } (.ask (Session.scriptCall (.closure ref)) s ends)
        (.returned #[], { threads }, final) ∧
      snare.Handles final s.heap.closures.size cell ∧ final.assigned = s.assigned := by
  obtain ⟨metatable, charge, resume, fields, runs, goesOn⟩ :=
    ready.runBody_script snare environment
  let protecting : State := ({ threads } : State).push (.protect .host true ends {})
  let running : State := (protecting.push (.call ends {} s.frame 0)).withActivation
    { isScript := true, nesting := 1, base := 2, barriers := 1, depth := 1 }
  have begins : call protecting (.closure ref) #[] { kind := .library } ends s =
      (running, runBody snare.script (s.withFrame (snare.frame cell))) :=
    call_closure (checkMemory_of_unlimited ready.unlimited) (show 0 + (0 + 1) < 200 by decide)
      closure rfl
  rw [runs] at begins
  have done : libraryRun running (.builtin (.base .setmetatable))
      #[.table s.scope, .table s.heap.tables.size] site (snare.made s cell metatable charge) =
        .done #[.table s.scope] (snare.set s cell metatable charge) :=
    ready.setMetatable charge fields _
  have unlimited : (snare.made s cell metatable charge).limit = none := ready.unlimited
  have sets : call running (.builtin (.base .setmetatable))
      #[.table s.scope, .table s.heap.tables.size] site resume
        (snare.made s cell metatable charge) =
      (running, resume (.returned #[.table s.scope]) _) :=
    call_builtin (checkMemory_of_unlimited unlimited) (show 0 + 1 < 200 by decide) rfl done
  rw [goesOn] at sets
  refine ⟨(snare.set s cell metatable charge).withFrame s.frame, ?_, ?_, rfl⟩
  -- The script returns, then the protected call.
  · exact .next rfl begins <| .next rfl sets <| .later rfl <| .later rfl <| .now rfl
  · refine ⟨fun name => ?_, ?_, environment, ready.unlimited⟩
    · exact (ready.metafield_set metatable charge _).trans (fields name)
    · simp [Store.closure, set, made, Store.withFrame, Store.modifyTable]

end Ready

namespace Handles

variable {session : Session} {name : String}
  (handles : snare.Handles session.store ref cell) (isIndex : snare.event = "__index".toUTF8)
  (scope : session.setting.scope = session.store.scope)
  (absent : session.scopeTable.get (.ofString name) = .nil)

include handles isIndex scope absent

/-- Looking a name up that is not bound comes to the function. -/
theorem sought_eq :
    session.sought name = .handler (.closure ref) (.table session.setting.scope) := by
  rw [Session.sought_eq]
  refine Store.seek_closure absent ?_
  rw [scope]
  exact (handles.metafield "__index".toUTF8).trans (if_pos isIndex)

end Handles

end Snare
end LuaSession
