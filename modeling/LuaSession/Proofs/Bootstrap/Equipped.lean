import LuaSession.Proofs.Bootstrap.Computing
import LuaSession.Proofs.Bootstrap.Wired
import LuaSession.Proofs.Session.Names

/-!
# What the function that prints has

The function that prints has taken what it needs of the libraries into variables of its own.
No function assigns them and none lets another function have them, so they stay as they are,
whatever the names in the scope and in the globals are bound to later.
-/

namespace LuaSession

open LuaSession.Script LuaSession.Library LuaSession.Machine

namespace Bootstrap

/-- No function may assign the first variables of the first script. -/
def toolShelter : Shelter where
  fixed cell := 1 ≤ cell ∧ cell ≤ (printing 0).length
  exempt _ := False
  free_zero := by decide

instance : DecidablePred toolShelter.fixed := fun cell =>
  inferInstanceAs (Decidable (1 ≤ cell ∧ cell ≤ (printing 0).length))

instance : toolShelter.IsClosed := ⟨fun _ => id⟩

/-- The function that prints has its variables, and no function may change them. There are at
least so many tables. -/
structure Equipped (adapter count : Nat) (s : Store) : Prop where
  tools : ∀ index value, (printing adapter)[index]? = some value →
    s.heap.cells[index + 1]? = some value
  isAdapter : s.heap.resources[adapter]? = some .adapter
  hasPrinter : s.heap.closures[1]? = some printer
  spares : ∀ closure ∈ s.heap.closures, closure.Spares toolShelter
  hasTables : count ≤ s.heap.tables.size

variable {adapter count : Nat} {s t : Store}

namespace Equipped

variable (equipped : Equipped adapter count s)

include equipped

theorem lt_size {cell : Nat} (fixed : toolShelter.fixed cell) : cell < s.heap.cells.size := by
  obtain ⟨positive, inside⟩ := fixed
  obtain ⟨index, rfl⟩ : ∃ index, cell = index + 1 := ⟨cell - 1, (Nat.sub_add_cancel positive).symm⟩
  have isTool := List.getElem?_eq_getElem (l := printing adapter) inside
  exact (Array.getElem?_eq_some_iff.mp (equipped.tools index _ isTool)).1

/-- Resources may be added and changed if the adapter stays one. -/
theorem withResources (cells : t.heap.cells = s.heap.cells)
    (closures : t.heap.closures = s.heap.closures)
    (isAdapter : t.heap.resources[adapter]? = some .adapter)
    (tables : s.heap.tables.size ≤ t.heap.tables.size) : Equipped adapter count t where
  tools := cells ▸ equipped.tools
  isAdapter
  hasPrinter := closures ▸ equipped.hasPrinter
  spares := closures ▸ equipped.spares
  hasTables := Nat.le_trans equipped.hasTables tables

/-- Only variables, functions, resources and the number of tables count. -/
theorem congr (cells : t.heap.cells = s.heap.cells) (closures : t.heap.closures = s.heap.closures)
    (resources : t.heap.resources = s.heap.resources)
    (tables : s.heap.tables.size ≤ t.heap.tables.size) : Equipped adapter count t :=
  equipped.withResources cells closures (resources ▸ equipped.isAdapter) tables

theorem newCell (value : Value) : Equipped adapter count (s.newCell value).2 where
  tools index tool isTool := getElem?_push_of_eq_some (equipped.tools index tool isTool) value
  isAdapter := equipped.isAdapter
  hasPrinter := equipped.hasPrinter
  spares := equipped.spares
  hasTables := equipped.hasTables

theorem setCell {cell : Nat} (free : ¬toolShelter.fixed cell) (value : Value) :
    Equipped adapter count (s.setCell cell value) where
  tools index tool isTool := by
    have differs : cell ≠ index + 1 := by
      rintro rfl
      exact free ⟨Nat.succ_pos index, (List.getElem?_eq_some_iff.mp isTool).1⟩
    exact (Array.getElem?_setIfInBounds_ne differs).trans (equipped.tools index tool isTool)
  isAdapter := equipped.isAdapter
  hasPrinter := equipped.hasPrinter
  spares := equipped.spares
  hasTables := equipped.hasTables

theorem newClosure {closure : Closure} (spares : closure.Spares toolShelter) :
    Equipped adapter count (s.newClosure closure).2 where
  tools := equipped.tools
  isAdapter := equipped.isAdapter
  hasPrinter := getElem?_push_of_eq_some equipped.hasPrinter closure
  spares other isMember := by
    rcases Array.mem_push.mp isMember with old | rfl
    · exact equipped.spares other old
    · exact spares
  hasTables := equipped.hasTables

theorem newTable (table : Table) : Equipped adapter count (s.newTable table).2 := by
  refine equipped.congr rfl rfl rfl ?_
  rw [Store.newTable, Array.size_push]
  exact Nat.le_succ _

theorem newResource (resource : Resource) : Equipped adapter count (s.newResource resource).2 :=
  equipped.withResources rfl rfl (getElem?_push_of_eq_some equipped.isAdapter resource)
    (Nat.le_refl _)

theorem resource_adapter : s.resource adapter = .adapter := by
  rw [Store.resource, Array.getD_eq_getD_getElem?, equipped.isAdapter, Option.getD_some]

theorem setResource {ref : Nat} {resource : Resource} (other : s.resource ref ≠ .adapter) :
    Equipped adapter count (s.setResource ref resource) := by
  refine equipped.withResources rfl rfl ?_ (Nat.le_refl _)
  refine (Array.getElem?_setIfInBounds_ne ?_).trans equipped.isAdapter
  rintro rfl
  exact other equipped.resource_adapter

/-- Tables are never lost, so there are at least as many as there are now. -/
theorem hasTables_now : Equipped adapter s.heap.tables.size s :=
  { equipped with hasTables := Nat.le_refl _ }

theorem of_hasTables : Equipped adapter 0 s := { equipped with hasTables := Nat.zero_le _ }

theorem closure_printer : s.closure 1 = printer := by
  rw [Store.closure, Array.getD_eq_getD_getElem?, equipped.hasPrinter, Option.getD_some]

/-- What one of the variables holds. -/
theorem cell_of_tool {index : Nat} {value : Value}
    (isTool : (printing adapter)[index]? = some value) :
    s.cell (index + 1) = value := by
  rw [Store.cell, Array.getD_eq_getD_getElem?, equipped.tools index value isTool, Option.getD_some]

end Equipped

/-- Functions that leave the variables alone do not change what the function that prints has. -/
instance : Sheltered toolShelter (Equipped adapter count) where
  effect := by
    intro s t effect equipped
    cases effect with
    | put ref key value =>
        have heap := Store.heap_put s ref key value
        exact equipped.congr ((congrArg Heap.cells heap).trans rfl)
          ((congrArg Heap.closures heap).trans rfl) ((congrArg Heap.resources heap).trans rfl)
          (Nat.le_of_eq (Store.size_put s ref key value).symm)
    | sweep ref test =>
        have heap := Store.heap_sweep s ref test
        exact equipped.congr ((congrArg Heap.cells heap).trans rfl)
          ((congrArg Heap.closures heap).trans rfl) ((congrArg Heap.resources heap).trans rfl)
          (Nat.le_of_eq ((congrArg (·.tables.size) heap).trans (Store.size_modifyTable ..)).symm)
    | newTable table => exact equipped.newTable table
    | fill ref _ | metatable ref _ =>
        exact equipped.congr rfl rfl rfl (Nat.le_of_eq (Store.size_modifyTable s ref _).symm)
    | script code environment =>
        exact keeps_closureOf toolShelter (fun kept => kept.newCell)
          (fun kept _ => kept.newClosure) (fun kept _ => kept.lt_size) equipped code environment
    | newResource resource => exact equipped.newResource resource
    | setResource ref resource other _ => exact equipped.setResource other
    | _ => exact equipped.congr rfl rfl rfl (Nat.le_refl _)
  publish _ _ := fun _ equipped => equipped.congr rfl rfl rfl (Nat.le_refl _)
  frame equipped _ := equipped.congr rfl rfl rfl (Nat.le_refl _)
  newCell equipped value := equipped.newCell value
  setCell equipped _ value free := equipped.setCell free value
  newClosure equipped _ spares := equipped.newClosure spares
  spares equipped ref := by
    rw [Store.closure, Array.getD]
    split
    · exact .inl (equipped.spares _ (Array.getElem_mem _))
    · refine .inl (spares_of_holds_nothing fun index fixed => ?_)
      have none : (default : Closure).captured = #[] := rfl
      exact toolShelter.free_zero (by simpa [Shelter.held, none] using fixed)
  existing equipped _ fixed := equipped.lt_size fixed

theorem hostKeeps_equipped (adapter count : Nat) : Session.HostKeeps (Equipped adapter count) where
  lets _ equipped := equipped.congr rfl rfl rfl (Nat.le_refl _)
  newNative _ _ equipped := equipped.congr rfl rfl rfl (Nat.le_refl _)
  delivered _ equipped := equipped.congr rfl rfl rfl (Nat.le_refl _)

/-- At later moments of a run there are at least as many tables. -/
theorem runs_of_passes {first last : Next} (runs : first.Runs toolShelter (Equipped adapter 0))
    (passes : Passes first.1 first.2 last.1 last.2) :
    last.Runs toolShelter (Equipped adapter first.2.store.heap.tables.size) := by
  have restricted := runs.restrict (K := Equipped adapter first.2.store.heap.tables.size)
    (fun _ => (hostKeeps_equipped adapter _).lets) runs.store.hasTables_now
  exact passes.keeps restricted

/-! ## In the beginning -/

/-- The functions of the first script leave the variables alone that they have captured. -/
theorem spares_of_first {closure : Closure}
    (isFirst : closure ∈ [main, printer, chooser, writer, refuser]) :
    closure.Spares toolShelter := by
  have spares : ∀ closure ∈ [main, printer, chooser, writer, refuser],
      ∀ index ∈ closure.code.touched, ¬toolShelter.fixed (closure.captured.getD index 0) := by
    simp only [List.forall_mem_cons]
    decide
  exact spares closure isFirst

/-- The first script has given the function that prints its variables. -/
theorem equipped_running {more : List Value} {closures : List Closure} (charge : Nat)
    (frame : Frame)
    (isAdapter : s.heap.resources[adapter]? = some .adapter)
    (areFirst : ∀ closure ∈ closures, closure ∈ [main, printer, chooser, writer, refuser]) :
    Equipped adapter 0 ((running s (printing adapter ++ more) (printer :: closures) charge).withFrame
      frame).delivered where
  tools index value isTool := by
    obtain ⟨inside, _⟩ := List.getElem?_eq_some_iff.mp isTool
    change (Value.table s.scope :: (printing adapter ++ more)).toArray[index + 1]? = some value
    rw [List.getElem?_toArray, List.getElem?_cons_succ, List.getElem?_append_left inside, isTool]
  isAdapter := isAdapter
  hasPrinter := rfl
  spares closure isMember := by
    change closure ∈ (main :: printer :: closures).toArray at isMember
    simp only [List.mem_toArray, List.mem_cons] at isMember
    refine spares_of_first ?_
    obtain rfl | rfl | isOther := isMember
    · simp
    · simp
    · exact areFirst closure isOther
  hasTables := Nat.zero_le _

theorem resources_put (s : Store) (ref : Nat) (key value : Value) :
    (s.put ref key value).heap.resources = s.heap.resources :=
  (congrArg Heap.resources (Store.heap_put ..)).trans rfl

theorem equipped_redirected {places : Places} (charge : Nat)
    (isAdapter : s.heap.resources[places.adapter]? = some .adapter) :
    Equipped places.adapter 0 (redirected places s charge).delivered := by
  refine equipped_running charge s.frame ?_ (by simp)
  simp only [redirect, redirectIo, redirectWrite, redirectOutput, redirectPrint, resources_put]
  exact isAdapter

theorem equipped_redirectedCore (charge : Nat)
    (isAdapter : s.heap.resources[adapter]? = some .adapter) :
    Equipped adapter 0 (redirectedCore adapter s charge).delivered := by
  have running := @equipped_running adapter (redirectPrint s) [] [] charge s.frame
  rw [List.append_nil] at running
  refine running ?_ (by simp)
  rw [redirectPrint, resources_put]
  exact isAdapter

end Bootstrap

end LuaSession
