import LuaSession.Proofs.Bootstrap.Wired
import LuaSession.Proofs.Machine.Settling
import LuaSession.Proofs.Script.Asking

/-!
# Calls of the functions for output

The function that chooses tells where output goes, or makes it go elsewhere: to the adapter,
or to the file that the library's function gives. When that one fails, nothing has changed.
The function that writes has the method of the adapter, or that of the file, take its place.
-/

namespace LuaSession

open LuaSession.Script LuaSession.Library LuaSession.Machine

namespace Bootstrap

variable {t : Store}

/-! ## The bodies of the functions -/

/-- The expression that asks whether the function that chooses is given nothing. -/
def givenNothing : Expr := .binary .eq (variableAt 0 "file") (.const .nil) 18

/-- The expression that asks whether the function that chooses is given the adapter. -/
def givenOut : Expr := .binary .eq (variableAt 0 "file") (capturedAt 1 "out") 21

/-- The statement that makes output go to what the function that chooses is given. -/
def switch : Stmt :=
  .branch
    [ .mk givenOut false [.assign [capturedAt 0 "current"] [capturedAt 1 "out"] 22],
      .mk (.const (.bool true)) false [.assign [capturedAt 0 "current"] [choice] 24] ]

/-- The expression that calls the method which writes. -/
def writing : Expr := .method (capturedAt 0 "current") "write".toUTF8 [.variadic] 29 29 0

/-- Where the library's function is called that chooses the file. -/
def choiceSite : Site where
  kind := .script
  line := 24
  callee := .expression (capturedAt 2 "set_output")
  room := 1

/-- Where the method is called that writes. -/
def writeSite : Site where
  kind := .script
  line := 29
  callee := .method "write".toUTF8

theorem eval_givenNothing : eval givenNothing t = .done (.bool (t.slot 0).isNil) t :=
  Run.bind_of_done Run.equal_nil

/-- Asked where output goes, the function tells. -/
theorem runBody_output_of_nil (isNil : t.slot 0 = .nil) :
    runBody output t = .done (.returned #[t.capturedValue 0]) t := by
  have truthy : (Value.bool (t.slot 0).isNil).truthy = true := by
    rw [isNil]
    rfl
  have tells : exec (.branch [.mk givenNothing false [.return [capturedAt 0 "current"]]]) t =
      .done (.returned #[t.capturedValue 0]) t :=
    (Run.exec_branch_of_truthy eval_givenNothing truthy).trans rfl
  exact Run.bind_of_done tells

/-- Given something, the function goes on with what it is. -/
theorem runBody_output_of_present (present : t.slot 0 ≠ .nil) :
    runBody output t = execBlock none [switch, .return [capturedAt 0 "current"]] t := by
  have given : (t.slot 0).isNil = false :=
    Bool.eq_false_iff.mpr fun isNil => present (Table.eq_nil_of_isNil isNil)
  have falls : exec (.branch [.mk givenNothing false [.return [capturedAt 0 "current"]]]) t =
      .done .fell t :=
    (Run.exec_branch_of_not_truthy eval_givenNothing given).trans rfl
  exact Run.execBlock_of_fell (by simp) falls

/-- Given the adapter, the function makes output go there. -/
theorem runBody_output_of_same (present : t.slot 0 ≠ .nil)
    (same : Run.equal (.script 21) (t.slot 0) (t.capturedValue 1) t = .done true t) :
    runBody output t = .done (.returned #[(t.setCaptured 0 (t.capturedValue 1)).capturedValue 0])
      (t.setCaptured 0 (t.capturedValue 1)) := by
  have isOut : eval givenOut t = .done (.bool true) t := Run.bind_of_done same
  have falls : exec switch t = .done .fell (t.setCaptured 0 (t.capturedValue 1)) :=
    (Run.exec_branch_of_truthy isOut rfl).trans rfl
  rw [runBody_output_of_present present]
  exact (Run.execBlock_of_fell (by simp [switch]) falls).trans rfl

/-- Given something else, the function has the library's function choose. -/
theorem runBody_output_of_other (present : t.slot 0 ≠ .nil)
    (differs : Run.equal (.script 21) (t.slot 0) (t.capturedValue 1) t = .done false t) :
    ∃ resume, runBody output t = .ask (.call (t.capturedValue 2) #[t.slot 0] choiceSite) t resume ∧
      ∀ values u, resume (.returned values) u =
        .done (.returned #[(u.setCaptured 0 (firstOf values)).capturedValue 0])
          (u.setCaptured 0 (firstOf values)) := by
  have notOut : eval givenOut t = .done (.bool false) t := Run.bind_of_done differs
  have chooses : exec (.branch [.mk (.const (.bool true)) false
      [.assign [capturedAt 0 "current"] [choice] 24]]) t = _ :=
    Run.exec_branch_of_truthy rfl rfl
  have asks : exec switch t = _ :=
    (Run.exec_branch_of_not_truthy notOut rfl).trans (chooses.trans rfl)
  rw [runBody_output_of_present present]
  exact ⟨_, Run.bind_of_ask asks, fun _ _ => rfl⟩

/-- When a metamethod says whether the function is given the adapter, it is asked first. -/
theorem runBody_output_of_asks (present : t.slot 0 ≠ .nil) {request : Request}
    {resume : Exit → Store → Step Bool}
    (asks : Run.equal (.script 21) (t.slot 0) (t.capturedValue 1) t = .ask request t resume) :
    ∃ resume, runBody output t = .ask request t resume := by
  have isOut : eval givenOut t = _ :=
    Run.bind_of_ask (f := fun same => (pure (.bool same) : Run Value)) asks
  rw [runBody_output_of_present present]
  exact ⟨_, Run.bind_of_ask (Run.bind_of_ask isOut)⟩

/-- What is written is given to the method of where output goes. -/
theorem runBody_write_of_done {method : Value} {u : Store}
    (found : Run.index (.script 29) (capturedAt 0 "current") (t.capturedValue 0)
      (.str "write".toUTF8) t = .done method u) :
    runBody write t = .done (.tail method (#[t.capturedValue 0] ++ u.frame.extra) writeSite) u := by
  have calls : exec (.tailCall writing) t =
      .done (.tail method (#[t.capturedValue 0] ++ u.frame.extra) writeSite) u :=
    Run.bind_of_done found
  exact Run.bind_of_done calls

theorem store_runBody_write (t : Store) : (runBody write t).store = t := by
  have calls : (exec (.tailCall writing) t).store = t :=
    Run.store_bind rfl fun _ => Run.store_bind (Run.store_index _ _ _ _ _) fun _ => rfl
  exact Run.store_bind calls fun exit => by cases exit <;> rfl

/-! ## The variables of the functions -/

theorem slot_chooser (s : Store) (arguments : Array Value) :
    (s.withFrame (frameOf chooser arguments)).slot 0 = firstOf arguments := by
  change (frameOf chooser arguments).slots.getD 0 .nil = firstOf arguments
  obtain ⟨_ | ⟨value, _ | ⟨other, rest⟩⟩⟩ := arguments
  · rfl
  · rfl
  · rfl

theorem extra_writer (arguments : Array Value) : (frameOf writer arguments).extra = arguments :=
  Array.extract_size

theorem cell_of_getElem? {ref : Nat} {value : Value} (found : t.heap.cells[ref]? = some value) :
    t.cell ref = value := by
  rw [Store.cell, Array.getD_eq_getD_getElem?, found, Option.getD_some]

theorem Wired.capturedValue_out {adapter : Nat} (wired : Wired adapter t)
    (isChooser : t.frame.captured = chooser.captured) : t.capturedValue 1 = .handle adapter := by
  rw [Store.capturedValue, isChooser]
  exact cell_of_getElem? wired.out

namespace Selects

variable {adapter : Nat} {destination value : Value} (selects : Selects adapter destination t)

include selects

section Captured

variable (isChooser : t.frame.captured = chooser.captured)

include isChooser

theorem capturedValue_current : t.capturedValue 0 = destination := by
  rw [Store.capturedValue, isChooser]
  exact cell_of_getElem? selects.current

theorem capturedValue_original : t.capturedValue 2 = .builtin (.file .output) := by
  rw [Store.capturedValue, isChooser]
  exact cell_of_getElem? selects.original

/-- The function that chooses makes output go elsewhere. -/
theorem setCaptured (takes : TakesOutput adapter value t) :
    Selects adapter value (t.setCaptured 0 value) ∧
      (t.setCaptured 0 value).capturedValue 0 = value := by
  have switched : Selects adapter value (t.setCaptured 0 value) := by
    rw [Store.setCaptured, isChooser]
    exact ⟨selects.toWired.setCell (fun _ => rfl) value,
      Array.getElem?_setIfInBounds_self_of_lt selects.hasCurrent, takes⟩
  exact ⟨switched, switched.capturedValue_current isChooser⟩

end Captured

end Selects

/-- Handles of files and of the host say nothing of when they are equal. -/
theorem equal_handle (intact : Files.Intact t) (place : Place) (x : Value) (ref : Nat) :
    Run.equal place x (.handle ref) t = .done (x.rawEq (.handle ref)) t := by
  have noEvent (ref : Nat) : t.metafield (.handle ref) Event.eq = .nil := by
    rw [Store.metafield, Store.metatable?]
    cases t.resource ref with
    | file file => exact intact.noEquality
    | _ =>
      simp [Resource.metafield, Resource.metafields, Value.ofString, Event.eq, eventKey,
        String.toByteArray_inj]
  cases x with
  | handle other => exact Run.equal_of_noEvent (noEvent other) (noEvent ref)
  | _ => rfl

theorem rawEq_handle {x : Value} {ref : Nat} : x.rawEq (.handle ref) = true ↔ x = .handle ref := by
  cases x <;> simp [Value.rawEq]

/-- The function that chooses leaves the store as it is until it asks, unless it has been
given the adapter. -/
theorem store_runBody_output (t : Store) :
    (runBody output t).store = t ∨ (t.slot 0).rawEq (t.capturedValue 1) = true ∧
      (runBody output t).store = t.setCaptured 0 (t.capturedValue 1) := by
  by_cases present : t.slot 0 = .nil
  · rw [runBody_output_of_nil present]
    exact .inl rfl
  · obtain compared | ⟨_, _, asks⟩ := Run.equal_cases (.script 21) (t.slot 0) (t.capturedValue 1) t
    · cases same : (t.slot 0).rawEq (t.capturedValue 1) with
      | true =>
        rw [runBody_output_of_same present (same ▸ compared)]
        exact .inr ⟨rfl, rfl⟩
      | false =>
        obtain ⟨_, chooses, _⟩ := runBody_output_of_other present (same ▸ compared)
        rw [chooses]
        exact .inl rfl
    · obtain ⟨_, asks⟩ := runBody_output_of_asks present asks
      rw [asks]
      exact .inl rfl

theorem frame_runBody_output (t : Store) : (runBody output t).store.frame = t.frame := by
  obtain same | ⟨_, same⟩ := store_runBody_output t
  · rw [same]
  · rw [same]
    rfl


/-! ## Calls of the function that chooses -/

/-- The variable that has the adapter is not one that the function which chooses assigns. -/
theorem capturedValue_out_of_store {adapter : Nat} (isChooser : t.frame.captured = chooser.captured)
    (wired : Wired adapter (runBody output t).store) : t.capturedValue 1 = .handle adapter := by
  obtain same | ⟨_, same⟩ := store_runBody_output t
  · rw [same] at wired
    exact wired.capturedValue_out isChooser
  · have out := wired.out
    rw [same, Store.setCaptured, isChooser] at out
    rw [Store.capturedValue, isChooser]
    exact cell_of_getElem? ((Array.getElem?_setIfInBounds_ne (by decide)).symm.trans out)

/-- Not given the adapter, the function that chooses leaves the store as it is until it asks. -/
theorem store_of_other {adapter : Nat} (isChooser : t.frame.captured = chooser.captured)
    (wired : Wired adapter (runBody output t).store) (other : t.slot 0 ≠ .handle adapter) :
    (runBody output t).store = t := by
  obtain same | ⟨isSame, _⟩ := store_runBody_output t
  · exact same
  · rw [capturedValue_out_of_store isChooser wired, rawEq_handle] at isSame
    exact absurd isSame other

/-- The function that chooses returns or asks: it does not raise by itself. -/
theorem runBody_output_cases (t : Store) :
    (∃ values u, runBody output t = .done (.returned values) u) ∨
      ∃ request u resume, runBody output t = .ask request u resume := by
  by_cases present : t.slot 0 = .nil
  · exact .inl ⟨_, _, runBody_output_of_nil present⟩
  · obtain compared | ⟨_, _, asks⟩ := Run.equal_cases (.script 21) (t.slot 0) (t.capturedValue 1) t
    · cases same : (t.slot 0).rawEq (t.capturedValue 1) with
      | true => exact .inl ⟨_, _, runBody_output_of_same present (same ▸ compared)⟩
      | false =>
        obtain ⟨_, chooses, _⟩ := runBody_output_of_other present (same ▸ compared)
        exact .inr ⟨_, _, _, chooses⟩
    · obtain ⟨_, asks⟩ := runBody_output_of_asks present asks
      exact .inr ⟨_, _, _, asks⟩

/-- Given something else than the adapter, the function that chooses asks. -/
theorem runBody_output_asks {adapter : Nat} (isChooser : t.frame.captured = chooser.captured)
    (wired : Wired adapter (runBody output t).store) (present : t.slot 0 ≠ .nil)
    (other : t.slot 0 ≠ .handle adapter) : ∃ request u resume, runBody output t = .ask request u resume := by
  obtain compared | ⟨_, _, asks⟩ := Run.equal_cases (.script 21) (t.slot 0) (t.capturedValue 1) t
  · have differs : (t.slot 0).rawEq (t.capturedValue 1) = false := by
      rw [capturedValue_out_of_store isChooser wired]
      exact Bool.eq_false_iff.mpr (mt rawEq_handle.mp other)
    obtain ⟨_, chooses, _⟩ := runBody_output_of_other present (differs ▸ compared)
    exact ⟨_, _, _, chooses⟩
  · obtain ⟨_, asks⟩ := runBody_output_of_asks present asks
    exact ⟨_, _, _, asks⟩

section Chooser

variable {adapter : Nat} {destination : Value} {arguments : Array Value} {s : Store} {next : Next}

theorem letsPublish_selects {adapter : Nat} {destination : Value} :
    LetsPublish (Selects adapter destination) :=
  fun _ selects => selects.congr rfl rfl rfl

/-- The functions for output have their variables at every moment, also when one of them
begins. -/
theorem wired_of_keeps (keeps : next.Keeps shelter (Selects adapter destination)) :
    Wired adapter next.2.store := by
  cases keeps with
  | runs role machine step => exact step.store.1.toWired
  | exempt exempt =>
    obtain @⟨m, closure, before, isExempt, _, _, holds, given, activation⟩ := exempt
    obtain rfl := isExempt
    have wired : Wired adapter (before.withFrame (frameOf chooser given)) := holds.toWired.congr rfl rfl rfl
    change Wired adapter (runBody output (before.withFrame (frameOf chooser given))).store
    obtain same | ⟨_, same⟩ := store_runBody_output (before.withFrame (frameOf chooser given))
    · rw [same]
      exact wired
    · rw [same]
      exact wired.setCell (fun _ => rfl) _

/-- When the function that chooses begins, output goes where it has gone, unless the function
has been given the adapter: then it has already chosen. -/
theorem begins_chooser (keeps : next.Keeps shelter (Selects adapter destination))
    (begins : Begins chooser arguments s next) :
    ∃ role, next.1.Keeps shelter (Selects adapter destination) role ∧
      role.Fits shelter next.2.store.frame ∧ Wired adapter next.2.store ∧
      (firstOf arguments ≠ .handle adapter → Selects adapter destination next.2.store) := by
  have wired := wired_of_keeps keeps
  cases keeps with
  | runs role machine step => exact ⟨role, machine, step.store.2, wired, fun _ => step.store.1⟩
  | exempt exempt =>
    obtain @⟨m, closure, before, isExempt, _, keeps, holds, given, activation⟩ := exempt
    obtain rfl := isExempt
    obtain ⟨_, _, _, same⟩ := begins
    have steps : runBody output (before.withFrame (frameOf chooser given)) =
        runBody output (s.withFrame (frameOf chooser arguments)) := congrArg Prod.snd same
    have frames : frameOf chooser given = frameOf chooser arguments :=
      (frame_runBody_output (before.withFrame _)).symm.trans
        ((congrArg (·.store.frame) steps).trans (frame_runBody_output (s.withFrame _)))
    have selects : Selects adapter destination (before.withFrame (frameOf chooser given)) :=
      holds.congr rfl rfl rfl
    refine ⟨.library, (keeps _).withActivation activation, trivial, wired, ?_⟩
    change _ → Selects adapter destination (runBody output (before.withFrame _)).store
    obtain same | ⟨isSame, same⟩ := store_runBody_output (before.withFrame (frameOf chooser given))
    · rw [same]
      exact fun _ => selects
    · rw [selects.toWired.capturedValue_out rfl, rawEq_handle, frames, slot_chooser] at isSame
      exact absurd isSame

section Body

variable {m : State} {role : Role}
  (machine : m.Keeps shelter (Selects adapter destination) role) (fits : role.Fits shelter t.frame)
  (isChooser : t.frame.captured = chooser.captured) (isCalled : m.IsCalled)

include machine fits isChooser

/-- Asked where output goes, the function that chooses tells. -/
theorem tells (selects : Selects adapter destination t) (isNil : t.slot 0 = .nil) :
    Completes m (m, runBody output t) (some #[destination]) (m, runBody output t) ∧
      Next.Runs shelter (Selects adapter destination) (m, runBody output t) := by
  rw [runBody_output_of_nil isNil, selects.capturedValue_current isChooser]
  exact ⟨.now (.returned rfl rfl (by simp)), .intro role machine ⟨selects, fits⟩⟩

/-- Given the adapter, the function that chooses makes output go there. -/
theorem chooses_adapter (intact : Files.Intact t) (isAdapter : t.slot 0 = .handle adapter)
    (wired : Wired adapter (runBody output t).store) :
    Completes m (m, runBody output t) (some #[.handle adapter]) (m, runBody output t) ∧
      Next.Runs shelter (Selects adapter (.handle adapter)) (m, runBody output t) := by
  have isOut := capturedValue_out_of_store isChooser wired
  have same : Run.equal (.script 21) (t.slot 0) (t.capturedValue 1) t = .done true t := by
    rw [isOut, equal_handle intact, isAdapter, rawEq_handle.mpr rfl]
  have chooses := runBody_output_of_same (isAdapter ▸ Value.noConfusion) same
  rw [isOut] at chooses
  have selects : Selects adapter (.handle adapter) (t.setCaptured 0 (.handle adapter)) := by
    rw [chooses] at wired
    refine ⟨wired, ?_, _, rfl, .inl rfl⟩
    have inside : Cell.current < (t.setCaptured 0 (.handle adapter)).heap.cells.size := wired.hasCurrent
    rw [Store.setCaptured, isChooser] at inside ⊢
    exact Array.getElem?_setIfInBounds_self_of_lt (Nat.lt_of_lt_of_eq inside Array.size_setIfInBounds)
  rw [selects.capturedValue_current isChooser] at chooses
  rw [chooses]
  refine ⟨.now (.returned rfl rfl (by simp)), ?_⟩
  exact .intro role (machine.restrict fun _ => letsPublish_selects) ⟨selects, fits⟩

include isCalled

/-- Given something else, the function that chooses has the library's function choose a file,
and is not called again before it is over. If the library's function fails, output goes where
it has gone. -/
theorem chooses_file (intact : Files.Intact t) (selects : Selects adapter destination t)
    (present : t.slot 0 ≠ .nil) (other : t.slot 0 ≠ .handle adapter) :
    ∃ result last, Completes m (m, runBody output t) result last ∧
      (last = advance m (runBody output t) ∧ ∀ given s, ¬Begins chooser given s last) ∧
      (result = none ∧ Next.Runs shelter (Selects adapter destination) last ∨
        ∃ ref, result = some #[.handle ref] ∧ Files.IsFile last.2.store ref ∧
          (∀ given, t.slot 0 = .handle given → given = ref) ∧
          Next.Runs shelter (Selects adapter (.handle ref)) last) := by
  have differs : Run.equal (.script 21) (t.slot 0) (t.capturedValue 1) t = .done false t := by
    rw [selects.toWired.capturedValue_out isChooser, equal_handle intact,
      Bool.eq_false_iff.mpr (mt rawEq_handle.mp other)]
  obtain ⟨resume, asks, returns⟩ := runBody_output_of_other present differs
  rw [selects.capturedValue_original isChooser] at asks
  have settled : Settled shelter (Selects adapter destination) role m resume t.frame _ (fun _ => True)
      (call m (.builtin (.file .output)) #[t.slot 0] choiceSite resume t) :=
    settled_call machine ⟨selects, fits⟩ trivial
      (fun caller => Files.settles_output caller present) rfl
  have advanced : advance m (runBody output t) = call m (.builtin (.file .output)) #[t.slot 0]
      choiceSite resume t := by
    rw [asks]
    rfl
  generalize call m (.builtin (.file .output)) #[t.slot 0] choiceSite resume t = after
    at settled advanced
  have later {result : Option (Array Value)} {last : Next} (completes : Completes m after result last) :
      Completes m (m, runBody output t) result last := by
    refine .later ?_ (isCalled.notYet _) (advanced ▸ completes)
    rw [asks]
    exact not_isOver_ask
  cases settled with
  | failed isOver runs _ =>
    refine ⟨none, _, later (.now isOver), ⟨advanced.symm, fun given s begins => ?_⟩, .inl ⟨rfl, runs⟩⟩
    have step := begins.step
    obtain ⟨_, _, returns⟩ | ⟨_, _, _, asks⟩ := runBody_output_cases (s.withFrame (frameOf chooser given))
    · cases step.trans returns
    · cases step.trans asks
  | @returned values u has sameFrame gives =>
    obtain ⟨ref, rfl, isFile, same⟩ := gives
    obtain ⟨file, isFile⟩ := isFile
    obtain ⟨switched, value⟩ := has.1.setCaptured (sameFrame ▸ isChooser)
      ⟨ref, rfl, .inr ⟨file, Files.resource_eq_file_iff.mp isFile⟩⟩
    have step : resume (.returned #[.handle ref]) u =
        .done (.returned #[.handle ref]) (u.setCaptured 0 (.handle ref)) := by
      refine (returns _ _).trans ?_
      rw [show firstOf #[.handle ref] = .handle ref from rfl, value]
    have runs : Next.Runs shelter (Selects adapter (.handle ref))
        (m, .done (.returned #[.handle ref]) (u.setCaptured 0 (.handle ref))) :=
      .intro role (machine.restrict fun _ => letsPublish_selects) ⟨switched, has.2⟩
    rw [step] at later advanced
    refine ⟨_, _, later (.now (.returned rfl rfl (by simp))), ⟨advanced.symm, fun given s begins => ?_⟩,
      .inr ⟨ref, rfl, ⟨file, isFile⟩, same, runs⟩⟩
    -- A function that has just begun with the same arguments would ask.
    have again := begins.step
    have frames : (s.withFrame (frameOf chooser given)).frame = t.frame :=
      (frame_runBody_output _).symm.trans ((congrArg (·.store.frame) again).symm.trans sameFrame)
    have slot : (s.withFrame (frameOf chooser given)).slot 0 = t.slot 0 := by
      rw [Store.slot, Store.slot, ← frames]
      rfl
    obtain ⟨_, _, _, asks⟩ := runBody_output_asks (t := s.withFrame (frameOf chooser given)) rfl
      (again ▸ switched.toWired) (slot ▸ present) (slot ▸ other)
    cases again.trans asks

end Body

end Chooser

/-! ## Calls of the function that writes -/

section Writer

variable {adapter : Nat} {destination : Value} {arguments : Array Value} {s : Store} {next : Next}

/-- When the function that writes begins, output goes where it has gone. -/
theorem begins_writer (keeps : next.Keeps shelter (Selects adapter destination))
    (begins : Begins writer arguments s next) :
    ∃ role, next.1.Keeps shelter (Selects adapter destination) role ∧
      role.Has shelter (Selects adapter destination) next.2.store := by
  cases keeps with
  | runs role machine step => exact ⟨role, machine, step.store⟩
  | exempt exempt =>
    obtain @⟨m, closure, before, isExempt, _, keeps, holds, given, activation⟩ := exempt
    obtain rfl := isExempt
    obtain ⟨_, _, _, same⟩ := begins
    have steps : runBody output (before.withFrame (frameOf chooser given)) =
        runBody write (s.withFrame (frameOf writer arguments)) := congrArg Prod.snd same
    have frames : frameOf chooser given = frameOf writer arguments :=
      (frame_runBody_output (before.withFrame _)).symm.trans
        (congrArg (·.store.frame) steps |>.trans (congrArg Store.frame (store_runBody_write (s.withFrame _))))
    -- The two functions do not have the same variables.
    have captured : chooser.captured = writer.captured := congrArg Frame.captured frames
    exact absurd captured (by decide)

/-- The method that writes to where output goes. -/
def writeMethod (adapter : Nat) (destination : Value) : Builtin :=
  if destination = .handle adapter then .adapter .write else .fileMethod .write

/-- There are memory and room on the stack for calling the method that writes. -/
structure HasSpace (m : State) (arguments : Array Value) (s : Store) : Prop where
  memory : (checkMemory m s).1 = true
  room : hasRoom m (m.activation.base + writeSite.room + 1 + (1 + arguments.size) + libraryRoom) = true

/-- The method is found. -/
theorem index_write (intact : Files.Intact t) (selects : Selects adapter destination t)
    (place : Place) (blame : Expr) :
    Run.index place blame destination (.str "write".toUTF8) t =
      .done (.builtin (writeMethod adapter destination)) t := by
  have resource {ref : Nat} {resource : Resource} (found : t.heap.resources[ref]? = some resource) :
      t.resource ref = resource := by
    rw [Store.resource, Array.getD_eq_getD_getElem?, found, Option.getD_some]
  obtain ⟨ref, rfl, rfl | ⟨file, isFile⟩⟩ := selects.takesOutput
  · rw [writeMethod, if_pos rfl]
    exact index_adapter_write (resource selects.isAdapter) place blame
  · have other : Value.handle ref ≠ .handle adapter := by
      rintro ⟨⟩
      cases isFile.symm.trans selects.isAdapter
    obtain ⟨methods, index, found⟩ := intact.methods
    have none : t.field? (.handle ref) (.str "write".toUTF8) = none := by
      rw [Store.field?, resource isFile]
    have handler : t.metafield (.handle ref) Event.index = .table methods := by
      rw [Store.metafield, Store.metatable?, resource isFile]
      exact index
    have present : (t.table methods).get (.str "write".toUTF8) ≠ .nil :=
      found ▸ Value.noConfusion
    have chain : Run.index place blame (.handle ref) (.str "write".toUTF8) t =
      Run.indexChain place blame (1998 + 1 + 1) (.handle ref) (.str "write".toUTF8) t := rfl
    rw [writeMethod, if_neg other, chain, Run.indexChain_of_table none handler,
      Run.indexChain_found present]
    exact congrArg (Step.done · t) found

section Body

variable {m : State} {role : Role}
  (machine : m.Keeps shelter (Selects adapter destination) role)
  (has : role.Has shelter (Selects adapter destination) t)
  (isWriter : t.frame = frameOf writer arguments) (isCalled : m.IsCalled)
  (intact : Files.Intact t)

include has isWriter intact

/-- The function that writes has the method take its place. -/
theorem runBody_write : runBody write t =
    .done (.tail (.builtin (writeMethod adapter destination)) (#[destination] ++ arguments) writeSite) t := by
  have current : t.capturedValue 0 = destination := by
    rw [Store.capturedValue, isWriter]
    exact cell_of_getElem? has.1.current
  have found := index_write intact has.1 (.script 29) (capturedAt 0 "current")
  rw [← current] at found
  rw [runBody_write_of_done found, current, isWriter, extra_writer]

include isCalled

/-- How the method ends, so does the function. -/
theorem completes_of_method {result : Option (Array Value)} {last : Next}
    (completes : Completes m (tailCall m (.builtin (writeMethod adapter destination))
      (#[destination] ++ arguments) writeSite t) result last) :
    Completes m (m, runBody write t) result last := by
  have steps := runBody_write has isWriter intact
  have advanced : advance m (runBody write t) =
      tailCall m (.builtin (writeMethod adapter destination)) (#[destination] ++ arguments) writeSite t := by
    obtain ⟨resume, caller, frame, line, rest, waits⟩ := isCalled
    rw [steps, advance, waits]
    rfl
  refine .later ?_ (isCalled.notYet _) (advanced ▸ completes)
  rw [steps]
  exact not_isOver_tail

/-- The method comes to values when there is space for calling it. -/
theorem returns_writer (space : HasSpace m arguments t) {values : Array Value} {u : Store}
    (done : ∀ caller, runBuiltin (writeMethod adapter destination) caller
      (#[destination] ++ arguments) (checkMemory m t).2 = .done values u) :
    Completes m (m, runBody write t) (some values) (m, .done (.returned values) u) := by
  have memory : checkMemory m t = (true, (checkMemory m t).2) := Prod.ext space.memory rfl
  refine completes_of_method has isWriter isCalled intact ?_
  rw [tailCall_builtin memory (Array.size_append ▸ space.room) (done _)]
  exact .now (.returned rfl rfl (by simp))

include machine

/-- The method returns, or the call fails. -/
theorem completes_writer {P : Array Value → Store → Prop} {Q : Store → Prop}
    (fails : Q (checkMemory m t).2)
    (settles : ∀ caller, (runBuiltin (writeMethod adapter destination) caller
      (#[destination] ++ arguments)).Settles (checkMemory m t).2 P Q) :
    ∃ result last, Completes m (m, runBody write t) result last ∧
      ((∃ values, result = some values ∧ P values last.2.store) ∨ result = none ∧ Q last.2.store) := by
  obtain ⟨result, last, completes, ends⟩ := (settled_tailCall machine has fails settles).completes
  exact ⟨result, last, completes_of_method has isWriter isCalled intact completes, ends⟩

end Body

end Writer

end Bootstrap

end LuaSession
