import LuaSession.Proofs.Bootstrap.Redirecting

/-!
# Where output goes

What the first script has put into its variables stays there: no function assigns them but
the one that chooses where output goes, and none lets another function have them. That
function sets one variable only, to the adapter or to a file.
-/

namespace LuaSession

open LuaSession.Script LuaSession.Library LuaSession.Machine

namespace Bootstrap

/-- Nothing but the function that chooses may assign the variables of the functions for
output. -/
def shelter : Shelter where
  fixed cell := cell = Cell.out ∨ cell = Cell.original ∨ cell = Cell.current
  exempt closure := closure = chooser
  free_zero := by decide

instance : DecidablePred shelter.fixed := fun cell =>
  inferInstanceAs (Decidable (cell = Cell.out ∨ cell = Cell.original ∨ cell = Cell.current))

/-- It is the adapter or the handle of a file. -/
def TakesOutput (adapter : Nat) (value : Value) (s : Store) : Prop :=
  ∃ ref, value = .handle ref ∧
    (ref = adapter ∨ ∃ file, s.heap.resources[ref]? = some (.file file))

/-- The functions for output have their variables. -/
structure Wired (adapter : Nat) (s : Store) : Prop where
  out : s.heap.cells[Cell.out]? = some (.handle adapter)
  original : s.heap.cells[Cell.original]? = some (.builtin (.file .output))
  hasCurrent : Cell.current < s.heap.cells.size
  isAdapter : s.heap.resources[adapter]? = some .adapter
  hasChooser : s.heap.closures[2]? = some chooser
  hasWriter : s.heap.closures[3]? = some writer
  spares : ∀ closure ∈ s.heap.closures, closure.Spares shelter ∨ closure = chooser

/-- Output goes to the adapter or to a file. -/
structure Selects (adapter : Nat) (destination : Value) (s : Store) : Prop
    extends Wired adapter s where
  current : s.heap.cells[Cell.current]? = some destination
  takesOutput : TakesOutput adapter destination s

variable {adapter : Nat} {destination : Value} {s t : Store}

/-- What an array has at a place it has there when more is added. -/
theorem getElem?_push_of_eq_some {α : Type} {array : Array α} {index : Nat} {value : α}
    (found : array[index]? = some value) (more : α) : (array.push more)[index]? = some value := by
  obtain ⟨inside, _⟩ := Array.getElem?_eq_some_iff.mp found
  rw [Array.getElem?_push, if_neg (Nat.ne_of_lt inside), found]

/-- The adapter has its method. -/
theorem index_adapter_write {ref : Nat} (isAdapter : s.resource ref = .adapter) (place : Place)
    (blame : Expr) :
    Run.index place blame (.handle ref) (.str "write".toUTF8) s =
      .done (.builtin (.adapter .write)) s := by
  have field : s.field? (.handle ref) (.str "write".toUTF8) = some (.builtin (.adapter .write)) := by
    rw [Store.field?, isAdapter]
    decide +kernel
  exact Run.bind_of_done (congrArg (Step.done · s) field)

/-- The function of a script that is loaded has new variables only, so loading it keeps what no
variable and no function that is made takes away. -/
theorem keeps_closureOf (shelter : Shelter) {J : Store → Prop}
    (newCell : ∀ {s : Store}, J s → ∀ value, J (s.newCell value).2)
    (newClosure : ∀ {s : Store}, J s → ∀ closure : Closure, closure.Spares shelter →
      J (s.newClosure closure).2)
    (existing : ∀ {s : Store}, J s → ∀ ref, shelter.fixed ref → ref < s.heap.cells.size)
    (kept : J s) (code : Code) (environment : Option Value) :
    J (Loading.closureOf s code environment).2 := by
  have made (count : Nat) : J (Loading.newCells s environment count).2 := by
    induction count with
    | zero => exact kept
    | succ count ih =>
        rw [Loading.newCells_succ]
        exact newCell ih _
  obtain ⟨_, cells⟩ := Loading.newCells_spec s environment code.info.captures.size
  rw [Loading.closureOf]
  refine newClosure (made _) _ (spares_of_holds_nothing fun index fixed => ?_)
  rw [Shelter.held, Array.getD] at fixed
  split at fixed
  next inside =>
    have isNew := Array.mem_toList_iff.mpr (Array.getElem_mem inside)
    rw [cells, List.mem_range'_1] at isNew
    exact absurd (existing kept _ fixed) (Nat.not_lt.mpr isNew.1)
  next => exact shelter.free_zero fixed

namespace Wired

variable (wired : Wired adapter s)

include wired

theorem lt_size {cell : Nat} (fixed : shelter.fixed cell) : cell < s.heap.cells.size := by
  have := wired.hasCurrent
  obtain rfl | rfl | rfl := fixed <;> simp only [Cell.out, Cell.original, Cell.current] at * <;> omega

/-- Resources may be added and changed if the adapter stays one. -/
theorem withResources (cells : t.heap.cells = s.heap.cells)
    (closures : t.heap.closures = s.heap.closures)
    (isAdapter : t.heap.resources[adapter]? = some .adapter) : Wired adapter t where
  out := cells ▸ wired.out
  original := cells ▸ wired.original
  hasCurrent := cells ▸ wired.hasCurrent
  isAdapter
  hasChooser := closures ▸ wired.hasChooser
  hasWriter := closures ▸ wired.hasWriter
  spares := closures ▸ wired.spares

/-- Only variables, functions and resources count. -/
theorem congr (cells : t.heap.cells = s.heap.cells) (closures : t.heap.closures = s.heap.closures)
    (resources : t.heap.resources = s.heap.resources) : Wired adapter t :=
  wired.withResources cells closures (resources ▸ wired.isAdapter)

theorem newCell (value : Value) : Wired adapter (s.newCell value).2 where
  out := getElem?_push_of_eq_some wired.out value
  original := getElem?_push_of_eq_some wired.original value
  hasCurrent := Nat.lt_of_lt_of_eq (Nat.lt_succ_of_lt wired.hasCurrent) (Array.size_push _).symm
  isAdapter := wired.isAdapter
  hasChooser := wired.hasChooser
  hasWriter := wired.hasWriter
  spares := wired.spares

theorem newClosure {closure : Closure} (spares : closure.Spares shelter) :
    Wired adapter (s.newClosure closure).2 where
  out := wired.out
  original := wired.original
  hasCurrent := wired.hasCurrent
  isAdapter := wired.isAdapter
  hasChooser := getElem?_push_of_eq_some wired.hasChooser closure
  hasWriter := getElem?_push_of_eq_some wired.hasWriter closure
  spares other isMember := by
    rcases Array.mem_push.mp isMember with old | rfl
    · exact wired.spares other old
    · exact .inl spares

/-- A variable that is assigned is another one, or the one that says where output goes. -/
theorem setCell {cell : Nat} (other : shelter.fixed cell → cell = Cell.current) (value : Value) :
    Wired adapter (s.setCell cell value) where
  out := by
    have differs : cell ≠ Cell.out := by
      rintro rfl
      exact absurd (other (.inl rfl)) (by decide)
    exact (Array.getElem?_setIfInBounds_ne differs).trans wired.out
  original := by
    have differs : cell ≠ Cell.original := by
      rintro rfl
      exact absurd (other (.inr (.inl rfl))) (by decide)
    exact (Array.getElem?_setIfInBounds_ne differs).trans wired.original
  hasCurrent := Nat.lt_of_lt_of_eq wired.hasCurrent Array.size_setIfInBounds.symm
  isAdapter := wired.isAdapter
  hasChooser := wired.hasChooser
  hasWriter := wired.hasWriter
  spares := wired.spares

end Wired

theorem TakesOutput.congr (takes : TakesOutput adapter destination s)
    (resources : t.heap.resources = s.heap.resources) : TakesOutput adapter destination t := by
  rw [TakesOutput, resources]
  exact takes

/-- Files stay files. -/
theorem TakesOutput.setResource (takes : TakesOutput adapter destination s) {ref : Nat}
    {resource : Resource} (stays : (s.resource ref).IsFile → resource.IsFile) :
    TakesOutput adapter destination (s.setResource ref resource) := by
  obtain ⟨handle, isHandle, isAdapter | ⟨file, isFile⟩⟩ := takes
  · exact ⟨handle, isHandle, .inl isAdapter⟩
  · refine ⟨handle, isHandle, .inr ?_⟩
    by_cases same : ref = handle
    · subst same
      have inside := (Array.getElem?_eq_some_iff.mp isFile).1
      have found : s.resource ref = .file file := by
        rw [Store.resource, Array.getD_eq_getD_getElem?, isFile, Option.getD_some]
      have isFile := stays (found ▸ trivial)
      cases resource with
      | file other => exact ⟨other, Array.getElem?_setIfInBounds_self_of_lt inside⟩
      | _ => exact isFile.elim
    · exact ⟨file, (Array.getElem?_setIfInBounds_ne same).trans isFile⟩

namespace Selects

variable (selects : Selects adapter destination s)

include selects

theorem congr (cells : t.heap.cells = s.heap.cells) (closures : t.heap.closures = s.heap.closures)
    (resources : t.heap.resources = s.heap.resources) : Selects adapter destination t where
  toWired := selects.toWired.congr cells closures resources
  current := cells ▸ selects.current
  takesOutput := selects.takesOutput.congr resources

theorem newCell (value : Value) : Selects adapter destination (s.newCell value).2 where
  toWired := selects.toWired.newCell value
  current := getElem?_push_of_eq_some selects.current value
  takesOutput := selects.takesOutput

theorem newClosure {closure : Closure} (spares : closure.Spares shelter) :
    Selects adapter destination (s.newClosure closure).2 where
  toWired := selects.toWired.newClosure spares
  current := selects.current
  takesOutput := selects.takesOutput

theorem setCell {cell : Nat} (free : ¬shelter.fixed cell) (value : Value) :
    Selects adapter destination (s.setCell cell value) where
  toWired := selects.toWired.setCell (fun fixed => absurd fixed free) value
  current := by
    have differs : cell ≠ Cell.current := fun same => free (.inr (.inr same))
    exact (Array.getElem?_setIfInBounds_ne differs).trans selects.current
  takesOutput := selects.takesOutput

theorem newResource (resource : Resource) :
    Selects adapter destination (s.newResource resource).2 where
  toWired := selects.toWired.withResources rfl rfl
    (getElem?_push_of_eq_some selects.isAdapter resource)
  current := selects.current
  takesOutput := by
    obtain ⟨handle, isHandle, isAdapter | ⟨file, isFile⟩⟩ := selects.takesOutput
    · exact ⟨handle, isHandle, .inl isAdapter⟩
    · exact ⟨handle, isHandle, .inr ⟨file, getElem?_push_of_eq_some isFile resource⟩⟩

theorem setResource {ref : Nat} {resource : Resource} (other : s.resource ref ≠ .adapter)
    (stays : (s.resource ref).IsFile → resource.IsFile) :
    Selects adapter destination (s.setResource ref resource) where
  toWired := by
    refine selects.toWired.withResources rfl rfl ?_
    refine (Array.getElem?_setIfInBounds_ne ?_).trans selects.isAdapter
    rintro rfl
    refine other ?_
    rw [Store.resource, Array.getD_eq_getD_getElem?, selects.isAdapter, Option.getD_some]
  current := selects.current
  takesOutput := selects.takesOutput.setResource stays

/-- The functions of scripts that are loaded have new variables only. -/
theorem closureOf (code : Code) (environment : Option Value) :
    Selects adapter destination (Loading.closureOf s code environment).2 :=
  keeps_closureOf shelter (fun selects => selects.newCell)
    (fun selects _ => selects.newClosure) (fun selects _ => selects.toWired.lt_size) selects code
    environment

end Selects

/-- Functions that leave the variables alone do not change where output goes. -/
instance : Sheltered shelter (Selects adapter destination) where
  effect := by
    intro s t effect selects
    cases effect with
    | put ref key value =>
        have heap := Store.heap_put s ref key value
        exact selects.congr ((congrArg Heap.cells heap).trans rfl)
          ((congrArg Heap.closures heap).trans rfl) ((congrArg Heap.resources heap).trans rfl)
    | sweep ref test =>
        have heap := Store.heap_sweep s ref test
        exact selects.congr ((congrArg Heap.cells heap).trans rfl)
          ((congrArg Heap.closures heap).trans rfl) ((congrArg Heap.resources heap).trans rfl)
    | script code environment => exact selects.closureOf code environment
    | newResource resource => exact selects.newResource resource
    | setResource ref resource other stays => exact selects.setResource other stays
    | _ => exact selects.congr rfl rfl rfl
  publish _ _ := fun _ selects => selects.congr rfl rfl rfl
  frame selects _ := selects.congr rfl rfl rfl
  newCell selects value := selects.newCell value
  setCell selects _ value free := selects.setCell free value
  newClosure selects _ spares := selects.newClosure spares
  spares selects ref := by
    rw [Store.closure, Array.getD]
    split
    · exact selects.spares _ (Array.getElem_mem _)
    · refine .inl (spares_of_holds_nothing fun index fixed => ?_)
      have none : (default : Closure).captured = #[] := rfl
      exact shelter.free_zero (by simpa [Shelter.held, none] using fixed)
  existing selects _ fixed := selects.toWired.lt_size fixed

/-! ## In the beginning -/

/-- A closure that has none of the variables that are sheltered. -/
theorem spares_of_captures {closure : Closure} {cell : Nat} (captures : closure.captured = #[cell])
    (free : ¬shelter.fixed cell) : closure.Spares shelter := by
  refine spares_of_holds_nothing fun index fixed => ?_
  rw [Shelter.held, captures] at fixed
  cases index with
  | zero => exact free fixed
  | succ index => exact shelter.free_zero (by simpa using fixed)

/-- What the first script has put into its variables. -/
theorem selects_redirected {places : Places} (charge : Nat)
    (isAdapter : s.heap.resources[places.adapter]? = some .adapter) :
    Selects places.adapter (.handle places.adapter) (redirected places s charge).delivered := by
  have put (s : Store) (ref : Nat) (key value : Value) :
      (s.put ref key value).heap.resources = s.heap.resources :=
    (congrArg Heap.resources (Store.heap_put ..)).trans rfl
  have resources : (redirect places s).heap.resources = s.heap.resources := by
    simp only [redirect, redirectIo, redirectWrite, redirectOutput, redirectPrint, put]
  have hasCurrent : Cell.current < (redirected places s charge).delivered.heap.cells.size :=
    Nat.lt_succ_self 7
  refine ⟨⟨rfl, rfl, hasCurrent, ?_, rfl, rfl, ?_⟩, rfl, _, rfl, .inl rfl⟩
  · change (redirect places s).heap.resources[places.adapter]? = some .adapter
    rw [resources, isAdapter]
  · intro closure isMember
    change closure ∈ #[main, printer, chooser, writer, refuser] at isMember
    simp only [List.mem_toArray, List.mem_cons, List.not_mem_nil, or_false] at isMember
    obtain rfl | rfl | rfl | rfl | rfl := isMember
    · exact .inl (spares_of_captures rfl (by decide))
    · exact .inl spares_nil
    · exact .inr rfl
    · exact .inl spares_nil
    · exact .inl (spares_of_captures rfl (by decide))

end Bootstrap

end LuaSession
