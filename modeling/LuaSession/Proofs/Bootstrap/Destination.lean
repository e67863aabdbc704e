import LuaSession.Proofs.Bootstrap.Choosing

/-!
# Where output goes

Output goes to the adapter at first, and then to what the function that chooses has been
given last without raising. What is written to the adapter is published and reaches no file,
and what is written to a file is not published.
-/

namespace LuaSession

open LuaSession.Script LuaSession.Library LuaSession.Machine

namespace Bootstrap

/-- Does a call choose where output goes? It is given something and does not raise. -/
def chooses (call : Call) : Bool := !(firstOf call.arguments).isNil && call.result.isSome

/-- Where output goes after some calls of the function that chooses: to what the last one has
returned that has been given something and has not raised, or else to the adapter. -/
def selected (adapter : Nat) (calls : List Call) : Value :=
  match (calls.filter chooses).getLast? with
  | some call => firstOf (call.result.getD #[])
  | none => .handle adapter

/-- How a call of the function that chooses ends: asked where output goes, it tells. Given the
adapter, it returns the adapter. Given something else, it returns the handle of a file, or it
raises; when it is given a handle and returns, it returns that handle. -/
structure Answers (adapter : Nat) (destination : Value) (arguments : Array Value)
    (result : Option (Array Value)) (last : Store) : Prop where
  tells : firstOf arguments = .nil → result = some #[destination]
  returns : firstOf arguments = .handle adapter → result = some #[.handle adapter]
  opens : firstOf arguments ≠ .nil → firstOf arguments ≠ .handle adapter → ∀ values,
    result = some values → ∃ ref, values = #[.handle ref] ∧ ref ≠ adapter ∧
      Files.IsFile last ref ∧ ∀ given, firstOf arguments = .handle given → given = ref

/-- What has been written. To the adapter it is published as one message, unless the call
raises, and all files are as they were. To a file it is not published, and only that file's
handle has changed. -/
structure Writes (adapter : Nat) (destination : Value) (arguments : Array Value) (next : Next)
    (result : Option (Array Value)) (last : Store) : Prop where
  published : destination = .handle adapter → Files.Kept next.2.store last ∧
    (result = some #[.handle adapter] ∧ (∀ value ∈ arguments, Hosted.IsText value) ∧
        last.world.emitted = next.2.store.world.emitted.push
          (.written (String.join (arguments.toList.map Hosted.written))) ∨
      result = none ∧ last.world.emitted = next.2.store.world.emitted)
  returns : destination = .handle adapter → (∀ value ∈ arguments, Hosted.IsText value) →
    HasSpace next.1 arguments next.2.store → result.isSome
  filed : ∀ ref, destination = .handle ref → ref ≠ adapter →
    Files.WritesTo ref next.2.store last

variable {adapter : Nat} {calls : List Call} {arguments : Array Value} {s t : Store} {next : Next}

theorem selected_append_of_not {call : Call} (not : chooses call = false) :
    selected adapter (calls ++ [call]) = selected adapter calls := by
  simp [selected, List.filter_append, not]

theorem selected_append {call : Call} (does : chooses call = true) :
    selected adapter (calls ++ [call]) = firstOf (call.result.getD #[]) := by
  simp [selected, List.filter_append, does]

/-- A call that is asked where output goes does not choose. -/
theorem chooses_of_nil {result : Option (Array Value)} (isNil : firstOf arguments = .nil) :
    chooses ⟨arguments, result⟩ = false := by
  simp [chooses, isNil, Value.isNil]

theorem chooses_of_present {values : Array Value} (present : firstOf arguments ≠ .nil) :
    chooses ⟨arguments, some values⟩ = true := by
  have given : (firstOf arguments).isNil = false :=
    Bool.eq_false_iff.mpr fun isNil => present (Table.eq_nil_of_isNil isNil)
  simp [chooses, given]

/-- What is found intact is intact for a function that begins. -/
theorem intact_withFrame (intact : Files.Intact s) (frame : Frame) :
    Files.Intact (s.withFrame frame) :=
  ⟨intact.noEquality, intact.methods⟩

/-- The adapter is no file. -/
theorem Wired.ne_of_isFile (wired : Wired adapter s) {ref : Nat} (isFile : Files.IsFile s ref) :
    ref ≠ adapter := by
  rintro rfl
  obtain ⟨file, isFile⟩ := isFile
  cases (Files.resource_eq_file_iff.mp isFile).symm.trans wired.isAdapter

/-- A call of the function that chooses, which begins after some others: it is over at once or
after one transition, and not called again until then, and output goes where it has made it
go. -/
structure Chooses (adapter : Nat) (calls : List Call) (arguments : Array Value) (next : Next)
    (result : Option (Array Value)) (last : Next) : Prop where
  completes : Completes next.1 next result last
  soon : last = next ∨ last = advance next.1 next.2 ∧ ∀ given s, ¬Begins chooser given s last
  answers : Answers adapter (selected adapter calls) arguments result last.2.store
  runs : last.Runs shelter (Selects adapter (selected adapter (calls ++ [⟨arguments, result⟩])))

section Calls

variable {m : State} {role : Role}
  (machine : m.Keeps shelter (Selects adapter (selected adapter calls)) role)
  (fits : role.Fits shelter t.frame) (isChooser : t.frame.captured = chooser.captured)
  (given : t.slot 0 = firstOf arguments)

include machine fits isChooser given

/-- The function that chooses is given the adapter. -/
theorem chooses_of_adapter (intact : Files.Intact t) (isAdapter : firstOf arguments = .handle adapter)
    (wired : Wired adapter (runBody output t).store) :
    ∃ result last, Chooses adapter calls arguments (m, runBody output t) result last := by
  have present : firstOf arguments ≠ .nil := isAdapter ▸ Value.noConfusion
  obtain ⟨completes, runs⟩ :=
    chooses_adapter machine fits isChooser intact (given.trans isAdapter) wired
  refine ⟨_, _, completes, .inl rfl, ⟨fun isNil => absurd isNil present, fun _ => rfl,
    fun _ other => absurd isAdapter other⟩, ?_⟩
  rw [selected_append (chooses_of_present present)]
  exact runs

variable (selects : Selects adapter (selected adapter calls) t)

include selects

/-- The function that chooses is given nothing. -/
theorem chooses_of_nothing (isNil : firstOf arguments = .nil) :
    ∃ result last, Chooses adapter calls arguments (m, runBody output t) result last := by
  have notAdapter : firstOf arguments ≠ .handle adapter := isNil ▸ Value.noConfusion
  obtain ⟨completes, runs⟩ := tells machine fits isChooser selects (given.trans isNil)
  refine ⟨_, _, completes, .inl rfl, ⟨fun _ => rfl, fun other => absurd other notAdapter,
    fun present => absurd isNil present⟩, ?_⟩
  rw [selected_append_of_not (chooses_of_nil isNil)]
  exact runs

/-- The function that chooses is given something else. -/
theorem chooses_of_other (isCalled : m.IsCalled) (intact : Files.Intact t)
    (present : firstOf arguments ≠ .nil) (notAdapter : firstOf arguments ≠ .handle adapter) :
    ∃ result last, Chooses adapter calls arguments (m, runBody output t) result last := by
  obtain ⟨result, last, completes, soon, ⟨rfl, runs⟩ | ⟨ref, rfl, isFile, same, runs⟩⟩ :=
    chooses_file machine fits isChooser isCalled intact selects (given ▸ present)
      (given ▸ notAdapter)
  · refine ⟨_, _, completes, .inr soon, ⟨fun other => absurd other present,
      fun other => absurd other notAdapter, nofun⟩, ?_⟩
    rw [selected_append_of_not (by simp [chooses])]
    exact runs
  · rw [given] at same
    refine ⟨_, _, completes, .inr soon, ⟨fun other => absurd other present,
      fun other => absurd other notAdapter, fun _ _ values is => ?_⟩, ?_⟩
    · cases is
      exact ⟨ref, rfl, runs.store.toWired.ne_of_isFile isFile, isFile, same⟩
    · rw [selected_append (chooses_of_present present)]
      exact runs

end Calls

/-- The function that chooses is called: how the call ends, and where output goes then. -/
theorem exists_chooses (keeps : next.Keeps shelter (Selects adapter (selected adapter calls)))
    (begins : Begins chooser arguments s next) (intact : Files.Intact s) :
    ∃ result last, Chooses adapter calls arguments next result last := by
  obtain ⟨role, machine, fits, wired, selects⟩ := begins_chooser keeps begins
  have isCalled := begins.1
  have given := slot_chooser s arguments
  have intact := intact_withFrame intact (frameOf chooser arguments)
  have isChooser : (s.withFrame (frameOf chooser arguments)).frame.captured = chooser.captured := rfl
  obtain ⟨m, step⟩ := next
  obtain rfl : step = runBody output _ := begins.step
  dsimp only at machine fits wired selects isCalled ⊢
  generalize s.withFrame (frameOf chooser arguments) = t at given intact isChooser fits wired selects ⊢
  rw [frame_runBody_output] at fits
  by_cases isAdapter : firstOf arguments = .handle adapter
  · exact chooses_of_adapter machine fits isChooser given intact isAdapter wired
  · have selects := selects isAdapter
    rw [store_of_other isChooser wired (given ▸ isAdapter)] at selects
    by_cases isNil : firstOf arguments = .nil
    · exact chooses_of_nothing machine fits isChooser given selects isNil
    · exact chooses_of_other machine fits isChooser given selects isCalled intact isNil isAdapter

theorem Wired.resource_adapter (wired : Wired adapter s) : s.resource adapter = .adapter := by
  rw [Store.resource, Array.getD_eq_getD_getElem?, wired.isAdapter, Option.getD_some]

section Methods

variable (m : State)

theorem kept_checkMemory (t : Store) : Files.Kept t (checkMemory m t).2 ∧
    (checkMemory m t).2.world.emitted = t.world.emitted := by
  obtain ⟨charge, checked⟩ := exists_checkMemory m t
  rw [checked]
  exact ⟨⟨rfl, fun _ _ isFile => isFile⟩, rfl⟩

theorem writesTo_checkMemory (t : Store) {ref : Nat} : Files.WritesTo ref t (checkMemory m t).2 := by
  obtain ⟨charge, checked⟩ := exists_checkMemory m t
  rw [checked]
  exact ⟨rfl, fun _ _ => rfl⟩

/-- The method of the adapter, when there is memory for calling it. -/
theorem settles_published {destination : Value} (selects : Selects adapter destination t)
    (arguments : Array Value) (caller : Caller) :
    (runBuiltin (writeMethod adapter (.handle adapter)) caller (#[.handle adapter] ++ arguments)).Settles
      (checkMemory m t).2
      (fun values u => values = #[.handle adapter] ∧ Files.Kept t u ∧
        (∀ value ∈ arguments, Hosted.IsText value) ∧ u.world.emitted = t.world.emitted.push
          (.written (String.join (arguments.toList.map Hosted.written))))
      (fun u => Files.Kept t u ∧ u.world.emitted = t.world.emitted) := by
  obtain ⟨charge, checked⟩ := exists_checkMemory m t
  rw [writeMethod, if_pos rfl, checked]
  have settles := Files.settles_adapterWrite (s := { t with charge }) selects.resource_adapter
    caller arguments
  refine Step.Settles.mono settles (fun _ u found => ?_) fun u found => ?_
  · exact ⟨found.1, ⟨found.2.1.world, found.2.1.files⟩, found.2.2⟩
  · exact ⟨⟨found.1.world, found.1.files⟩, found.2⟩

/-- The method of the adapter, given texts when there is memory for calling it. -/
theorem done_published {destination : Value} (selects : Selects adapter destination t)
    (texts : ∀ value ∈ arguments, Hosted.IsText value) (caller : Caller) :
    runBuiltin (writeMethod adapter (.handle adapter)) caller (#[.handle adapter] ++ arguments)
      (checkMemory m t).2 = .done #[.handle adapter] ((checkMemory m t).2.emit
        (.written (String.join (arguments.toList.map Hosted.written)))) := by
  obtain ⟨charge, checked⟩ := exists_checkMemory m t
  have given : #[.handle adapter] ++ arguments = (.handle adapter :: arguments.toList).toArray := by simp
  rw [writeMethod, if_pos rfl, checked, given]
  have isAdapter : ({ t with charge } : Store).resource adapter = .adapter := selects.resource_adapter
  exact Hosted.write_texts isAdapter caller fun value member => texts value (by simpa using member)

/-- The method of a file, when there is memory for calling it. -/
theorem settles_filed {ref : Nat} (other : ref ≠ adapter) (arguments : Array Value)
    (caller : Caller) :
    (runBuiltin (writeMethod adapter (.handle ref)) caller (#[.handle ref] ++ arguments)).Settles
      (checkMemory m t).2 (fun _ u => Files.WritesTo ref t u) (Files.WritesTo ref t) := by
  obtain ⟨charge, checked⟩ := exists_checkMemory m t
  have settles := Files.settles_fileWrite caller arguments ref { t with charge }
  rw [writeMethod, if_neg (by simpa using other), checked]
  refine Step.Settles.mono settles (fun _ u found => ?_) fun u found => ?_
  · exact ⟨found.emitted, found.others⟩
  · exact ⟨found.emitted, found.others⟩

end Methods

/-- The function that writes is called: the method of where output goes takes its place. -/
theorem exists_writes {destination : Value} (keeps : next.Keeps shelter (Selects adapter destination))
    (begins : Begins writer arguments s next) (intact : Files.Intact s) :
    TakesOutput adapter destination next.2.store ∧
      next.2 = .done (.tail (.builtin (writeMethod adapter destination)) (#[destination] ++ arguments)
        writeSite) next.2.store ∧
      ∃ result last, Completes next.1 next result last ∧
        Writes adapter destination arguments next result last.2.store := by
  obtain ⟨role, machine, has⟩ := begins_writer keeps begins
  have isCalled := begins.1
  have intact := intact_withFrame intact (frameOf writer arguments)
  have isWriter : (s.withFrame (frameOf writer arguments)).frame = frameOf writer arguments := rfl
  obtain ⟨m, step⟩ := next
  obtain rfl : step = runBody write _ := begins.step
  dsimp only at machine has isCalled ⊢
  generalize s.withFrame (frameOf writer arguments) = t at intact isWriter has ⊢
  rw [store_runBody_write] at has ⊢
  refine ⟨has.1.takesOutput, runBody_write has isWriter intact, ?_⟩
  obtain ⟨ref, rfl, _⟩ := has.1.takesOutput
  by_cases same : ref = adapter
  · subst same
    obtain ⟨result, last, completes, ends⟩ := completes_writer machine has isWriter isCalled intact
      (kept_checkMemory m t) (settles_published m has.1 arguments)
    refine ⟨result, last, completes, fun _ => ?_, fun _ texts space => ?_, fun other same differs => ?_⟩
    · rw [store_runBody_write]
      obtain ⟨_, rfl, rfl, kept, texts, emitted⟩ | ⟨rfl, kept, emitted⟩ := ends
      · exact ⟨kept, .inl ⟨rfl, texts, emitted⟩⟩
      · exact ⟨kept, .inr ⟨rfl, emitted⟩⟩
    · rw [store_runBody_write] at space
      have returns := returns_writer has isWriter isCalled intact space (done_published m has.1 texts)
      rw [(completes.unique returns).1]
      rfl
    · cases same
      exact absurd rfl differs
  · obtain ⟨result, last, completes, ends⟩ := completes_writer machine has isWriter isCalled intact
      (writesTo_checkMemory m t) (settles_filed m same arguments)
    have notAdapter : Value.handle ref ≠ .handle adapter := by
      rintro ⟨⟩
      exact same rfl
    refine ⟨result, last, completes, (absurd · notAdapter), fun isAdapter => absurd isAdapter notAdapter,
      fun other isRef _ => ?_⟩
    rw [store_runBody_write]
    cases isRef
    obtain ⟨_, _, writes⟩ | ⟨_, writes⟩ := ends
    · exact writes
    · exact writes

/-! ## Runs -/

/-- What the functions for output do at a moment of a run after some calls of the one that
chooses: they have their variables, the one that chooses answers when it is called, and the
one that writes has the method of where output goes take its place. -/
structure Obeys (adapter : Nat) (calls : List Call) (next : Next) : Prop where
  wired : Wired adapter next.2.store
  answers : ∀ arguments s, Begins chooser arguments s next → Files.Intact s →
    ∃ result last, Completes next.1 next result last ∧
      Answers adapter (selected adapter calls) arguments result last.2.store
  writes : ∀ arguments s, Begins writer arguments s next → Files.Intact s →
    TakesOutput adapter (selected adapter calls) next.2.store ∧
      next.2 = .done (.tail (.builtin (writeMethod adapter (selected adapter calls)))
        (#[selected adapter calls] ++ arguments) writeSite) next.2.store ∧
      ∃ result last, Completes next.1 next result last ∧
        Writes adapter (selected adapter calls) arguments next result last.2.store

theorem obeys (keeps : next.Keeps shelter (Selects adapter (selected adapter calls))) :
    Obeys adapter calls next where
  wired := wired_of_keeps keeps
  answers _ _ begins intact := by
    obtain ⟨result, last, chooses⟩ := exists_chooses keeps begins intact
    exact ⟨result, last, chooses.completes, chooses.answers⟩
  writes _ _ begins intact := exists_writes keeps begins intact

/-- Calls of the function that chooses change where output goes. -/
theorem switches_chooser {last : Next} {result : Option (Array Value)}
    (keeps : next.Keeps shelter (Selects adapter (selected adapter calls)))
    (begins : Begins chooser arguments s next) (intact : Files.Intact s)
    (completes : Completes next.1 next result last) :
    last.Runs shelter (Selects adapter (selected adapter (calls ++ [⟨arguments, result⟩]))) := by
  obtain ⟨_, _, chooses⟩ := exists_chooses keeps begins intact
  obtain ⟨rfl, rfl⟩ := completes.unique chooses.completes
  exact chooses.runs

section Course

variable {earlier : List Call} {first : Next}
  (runs : first.Runs shelter (Selects adapter (selected adapter earlier)))

include runs

/-- Output goes where the calls so far have made it go. -/
theorem keeps_of_course (course : Course chooser Files.Intact earlier first calls next) :
    next.Keeps shelter (Selects adapter (selected adapter calls)) :=
  course.keeps (J := fun calls => Selects adapter (selected adapter calls)) (fun _ isExempt => isExempt)
    switches_chooser runs

/-- Neither of the functions begins while the one that chooses is running. -/
theorem exists_course (lies : Lies chooser Files.Intact earlier first next) (intact : Files.Intact s)
    (begins : Begins chooser arguments s next ∨ Begins writer arguments s next) :
    ∃ calls, Course chooser Files.Intact earlier first calls next := by
  cases lies with
  | between course => exact ⟨_, course⟩
  | within course chooses isIntact whole within =>
    obtain ⟨_, _, again, soon, _, switched⟩ :=
      exists_chooses (keeps_of_course runs course) chooses isIntact
    obtain ⟨rfl, rfl⟩ := whole.unique again
    obtain rfl | rfl := within.eq_or_eq whole (soon.imp_right And.left)
    · exact ⟨_, course⟩
    · obtain rfl | ⟨_, notAgain⟩ := soon
      · exact ⟨_, course⟩
      · obtain chooses | writes := begins
        · exact absurd chooses (notAgain _ _)
        · -- The call is over there, but the function that writes has the method take its place.
          obtain ⟨role, machine, step⟩ := switched
          obtain ⟨_, tails, _⟩ := exists_writes (.runs role machine step) writes intact
          have isOver := whole.isOver
          rw [← Prod.eta next, tails] at isOver
          exact absurd isOver (not_isOver_tail _)

end Course

end Bootstrap

end LuaSession
