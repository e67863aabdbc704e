import LuaSession.Library.Loading
import LuaSession.Proofs.Veil.Values

/-!
# Veiled stores

In a veiled store all values are visible that scripts can come by, and the hidden tables
hold what the veil says. Small changes with visible values keep a store veiled.
-/

namespace LuaSession.Script

variable {veil : Veil} {m n : View}

/-! ## Variables and functions -/

instance : Holds Frame where
  visible n frame := Visible n frame.slots ∧ Visible n frame.extra
  grow visible grown := ⟨visible.1.grow grown, visible.2.grow grown⟩

theorem Visible.slots {frame : Frame} (visible : Visible n frame) : Visible n frame.slots :=
  visible.1

theorem Visible.extra {frame : Frame} (visible : Visible n frame) : Visible n frame.extra :=
  visible.2

@[simp, grind .] theorem visible_noFrame : Visible n ({} : Frame) :=
  ⟨visible_toArray.mpr visible_list_nil, visible_toArray.mpr visible_list_nil⟩

instance : Holds Native where
  visible n
    | .host _ setting => Shown n setting.scope
    | .lines _ formats _ => Visible n formats
    | _ => True
  grow {m n native} visible grown := by
    cases native with
    | host _ _ => exact Shown.grow visible grown
    | lines _ _ _ => exact Visible.grow visible grown
    | _ => trivial

@[simp, grind =] theorem visible_host {function : HostFunction} {setting : Setting} :
    Visible n (Native.host function setting) ↔ Shown n setting.scope := Iff.rfl

@[simp, grind =] theorem visible_lines {file : Nat} {formats : Array Value} {closes : Bool} :
    Visible n (Native.lines file formats closes) ↔ Visible n formats := Iff.rfl

@[simp, grind .] theorem visible_resumer (thread : Nat) : Visible n (Native.resumer thread) :=
  trivial

@[simp, grind .] theorem visible_matches (source pattern : Bytes) (position : Nat)
    (lastEnd : Option Nat) : Visible n (Native.matches source pattern position lastEnd) := trivial

/-- The tables that are always there are shown. -/
structure Registry.IsVisible (n : View) (registry : Registry) : Prop where
  globals : Shown n registry.globals
  loaded : Shown n registry.loaded
  preload : Shown n registry.preload
  strings : Shown n registry.strings
  files : Shown n registry.files
  package : ∀ ref ∈ registry.package, Shown n ref

instance : Holds Registry where
  visible := Registry.IsVisible
  grow visible grown :=
    ⟨visible.globals.grow grown, visible.loaded.grow grown, visible.preload.grow grown,
      visible.strings.grow grown, visible.files.grow grown,
      fun ref isPackage => (visible.package ref isPackage).grow grown⟩

/-! ## Stores -/

namespace Store

/-- What scripts may see of a store. -/
def view (s : Store) (veil : Veil) : View := ⟨veil, s.heap.tables.size⟩

@[simp, grind =] theorem view_veil (s : Store) (veil : Veil) : (s.view veil).veil = veil := rfl

@[simp] theorem view_size (s : Store) (veil : Veil) : (s.view veil).size = s.heap.tables.size := rfl

/-- Every value is visible that scripts can come by, and what is hidden is as the veil has
it. -/
structure Veiled (veil : Veil) (s : Store) : Prop where
  shown : ∀ ref, veil ref = none → Visible (s.view veil) (s.table ref)
  hidden : ∀ ref table, veil ref = some table →
    ref < s.heap.tables.size ∧ s.table ref = table ∧ table.metatable = none
  cells : Visible (s.view veil) s.heap.cells
  natives : Visible (s.view veil) s.heap.natives
  registry : Visible (s.view veil) s.registry
  scope : Shown (s.view veil) s.scope
  finalizable : Visible (s.view veil) s.finalizable
  frame : Visible (s.view veil) s.frame

variable {s t : Store}

/-- The rest of a store does not count. -/
theorem Veiled.congr (veiled : s.Veiled veil) (tables : t.heap.tables = s.heap.tables)
    (cells : t.heap.cells = s.heap.cells) (natives : t.heap.natives = s.heap.natives)
    (registry : t.registry = s.registry) (scope : t.scope = s.scope)
    (finalizable : t.finalizable = s.finalizable) (frame : t.frame = s.frame) : t.Veiled veil := by
  have get (ref : Nat) : t.table ref = s.table ref := by rw [table, table, tables]
  have same : t.view veil = s.view veil := by rw [view, view, tables]
  constructor
  · intro ref isOpen
    rw [get, same]
    exact veiled.shown ref isOpen
  · intro ref table isHidden
    rw [get, tables]
    exact veiled.hidden ref table isHidden
  · rw [same, cells]
    exact veiled.cells
  · rw [same, natives]
    exact veiled.natives
  · rw [same, registry]
    exact veiled.registry
  · rw [same, scope]
    exact veiled.scope
  · rw [same, finalizable]
    exact veiled.finalizable
  · rw [same, frame]
    exact veiled.frame

/-- More tables are a larger view. -/
theorem grown_of_le (fewer : s.heap.tables.size ≤ t.heap.tables.size) :
    Grown (s.view veil) (t.view veil) :=
  ⟨fewer, fun _ _ isOpen => isOpen⟩

/-- A store that is reached by steps that scripts can make: it is veiled, and no table has
been lost. -/
structure Reaches (veil : Veil) (s t : Store) : Prop where
  veiled : t.Veiled veil
  grown : Grown (s.view veil) (t.view veil)

theorem Reaches.trans {u : Store} (first : s.Reaches veil t) (second : t.Reaches veil u) :
    s.Reaches veil u :=
  ⟨second.veiled, first.grown.trans second.grown⟩

section Veiled

variable (veiled : s.Veiled veil)

include veiled

theorem Veiled.refl : s.Reaches veil s := ⟨veiled, .refl _⟩

/-- A change of something else. -/
theorem Veiled.same (tables : t.heap.tables = s.heap.tables)
    (cells : t.heap.cells = s.heap.cells) (natives : t.heap.natives = s.heap.natives)
    (registry : t.registry = s.registry) (scope : t.scope = s.scope)
    (finalizable : t.finalizable = s.finalizable) (frame : t.frame = s.frame) :
    s.Reaches veil t :=
  ⟨veiled.congr tables cells natives registry scope finalizable frame,
    grown_of_le (Nat.le_of_eq (congrArg Array.size tables.symm))⟩

theorem Veiled.charge (charge : Nat) : s.Reaches veil { s with charge } :=
  veiled.same rfl rfl rfl rfl rfl rfl rfl

theorem Veiled.charged (bytes : Nat) : s.Reaches veil (s.charged bytes) := veiled.charge _

theorem Veiled.world (world : World) : s.Reaches veil { s with world } :=
  veiled.same rfl rfl rfl rfl rfl rfl rfl

theorem Veiled.setFrame {frame : Frame} (visible : Visible (s.view veil) frame) :
    s.Reaches veil (s.withFrame frame) :=
  ⟨⟨veiled.shown, veiled.hidden, veiled.cells, veiled.natives, veiled.registry, veiled.scope,
    veiled.finalizable, visible⟩, .refl _⟩

theorem Veiled.setBoxes (boxes : Array Nat) :
    s.Reaches veil (s.withFrame { s.frame with boxes }) :=
  veiled.setFrame veiled.frame

theorem Veiled.setFinalizable {values : List Value} (visible : Visible (s.view veil) values) :
    s.Reaches veil { s with finalizable := values } :=
  ⟨⟨veiled.shown, veiled.hidden, veiled.cells, veiled.natives, veiled.registry, veiled.scope,
    visible, veiled.frame⟩, .refl _⟩

theorem Veiled.setRegistry {registry : Registry} (visible : Visible (s.view veil) registry) :
    s.Reaches veil { s with registry } :=
  ⟨⟨veiled.shown, veiled.hidden, veiled.cells, veiled.natives, visible, veiled.scope,
    veiled.finalizable, veiled.frame⟩, .refl _⟩

/-! ### What is read -/

@[grind ←] theorem Veiled.visible_get {ref : Nat} (isOpen : veil ref = none) (key : Value) :
    Visible (s.view veil) ((s.table ref).get key) :=
  Table.visible_get (veiled.shown ref isOpen) key

@[grind ←] theorem Veiled.visible_next? {ref : Nat} (isOpen : veil ref = none) (key : Value) :
    Visible (s.view veil) ((s.table ref).next? key) :=
  Table.visible_next? (veiled.shown ref isOpen) key

@[grind ←] theorem Veiled.visible_cell (ref : Nat) : Visible (s.view veil) (s.cell ref) :=
  visible_getD veiled.cells visible_nil ref

@[grind ←] theorem Veiled.visible_native (ref : Nat) (inside : ref < s.heap.natives.size) :
    Visible (s.view veil) (s.native ref) := by
  rw [native, Array.getD, dif_pos inside]
  exact veiled.natives _ (Array.getElem_mem _)

@[grind ←] theorem Veiled.visible_slot (index : Nat) : Visible (s.view veil) (s.slot index) := by
  unfold slot
  dsimp only
  split
  · exact visible_getD veiled.frame.slots visible_nil _
  · exact veiled.visible_cell _

@[grind ←] theorem Veiled.visible_capturedValue (index : Nat) :
    Visible (s.view veil) (s.capturedValue index) :=
  veiled.visible_cell _

/-- A metatable of a visible value is shown. -/
theorem Veiled.shown_metatable? {value : Value} {ref : Nat} (visible : Visible (s.view veil) value)
    (found : s.metatable? value = some ref) : Shown (s.view veil) ref := by
  unfold metatable? at found
  split at found
  next own => exact (veiled.shown own (visible_table.mp visible).isOpen).metatable ref found
  next =>
    obtain rfl := Option.some.inj found
    exact veiled.registry.strings
  next =>
    split at found
    next =>
      obtain rfl := Option.some.inj found
      exact veiled.registry.files
    next => cases found
  next => cases found

omit veiled in
theorem visible_resource_metafield (resource : Resource) (name : Value) :
    Visible n (resource.metafield name) := by
  unfold Resource.metafield
  split
  next field value found =>
    have isMember := List.mem_of_find?_eq_some found
    cases resource with
    | adapter | failure _ | panic _ | spentPanic =>
        simp only [Resource.metafields, List.mem_cons, Prod.mk.injEq, List.not_mem_nil, or_false] at isMember
        grind
    | file _ => cases isMember
  next => exact visible_nil

@[grind ←] theorem Veiled.visible_metafield {value : Value}
    (visible : Visible (s.view veil) value) (name : Value) :
    Visible (s.view veil) (s.metafield value name) := by
  unfold metafield
  split
  next ref found => exact veiled.visible_get (veiled.shown_metatable? visible found).isOpen name
  next =>
    split
    · exact visible_resource_metafield _ _
    · exact visible_nil

/-! ### What is changed -/

/-- A table is changed to one in which everything is visible. -/
theorem Veiled.modifyTable {ref : Nat} {f : Table → Table} (isOpen : veil ref = none)
    (visible : ∀ table, Visible (s.view veil) table → Visible (s.view veil) (f table)) :
    s.Reaches veil (s.modifyTable ref f) := by
  have same : (s.modifyTable ref f).view veil = s.view veil :=
    congrArg (View.mk veil) Array.size_modify
  have other {place : Nat} (differs : ref ≠ place) :
      (s.modifyTable ref f).table place = s.table place := by
    simp [table, Store.modifyTable, Array.getD_eq_getD_getElem?, Array.getElem?_modify, differs]
  refine ⟨⟨?_, ?_, ?_, ?_, ?_, ?_, ?_, ?_⟩, same ▸ Grown.refl _⟩
  · intro place isShown
    rw [same]
    by_cases isRef : ref = place
    · subst isRef
      have found : (s.modifyTable ref f).table ref = s.table ref ∨
          (s.modifyTable ref f).table ref = f (s.table ref) := by
        simp only [table, Store.modifyTable, Array.getD_eq_getD_getElem?, Array.getElem?_modify]
        cases s.heap.tables[ref]? <;> simp
      obtain unchanged | changed := found
      · rw [unchanged]
        exact veiled.shown ref isOpen
      · rw [changed]
        exact visible _ (veiled.shown ref isOpen)
    · rw [other isRef]
      exact veiled.shown place isShown
  · intro place table isHidden
    have differs : ref ≠ place := by
      rintro rfl
      rw [isOpen] at isHidden
      cases isHidden
    rw [other differs]
    have holds := veiled.hidden place table isHidden
    rwa [← Array.size_modify (i := ref) (f := f)] at holds
  all_goals rw [same]
  · exact veiled.cells
  · exact veiled.natives
  · exact veiled.registry
  · exact veiled.scope
  · exact veiled.finalizable
  · exact veiled.frame

omit veiled in
/-- What the host's table is assigned is noted besides. -/
theorem Reaches.noted {assigned : List Pair} (reaches : s.Reaches veil t) :
    s.Reaches veil { t with assigned } :=
  reaches.trans (reaches.veiled.same rfl rfl rfl rfl rfl rfl rfl)

theorem Veiled.put {ref : Nat} {key value : Value} (isOpen : veil ref = none)
    (isKey : Visible (s.view veil) key) (isValue : Visible (s.view veil) value) :
    s.Reaches veil (s.put ref key value) := by
  have changed := veiled.modifyTable (f := (·.set key value)) isOpen fun table visible =>
    Table.visible_set visible isKey isValue
  unfold Store.put
  dsimp only
  split
  · exact changed.noted
  · exact changed

theorem Veiled.sweep {ref : Nat} (isOpen : veil ref = none) (test : Value → Value → Bool) :
    s.Reaches veil (s.sweep ref test) := by
  have changed := veiled.modifyTable (f := (·.keep test)) isOpen fun table visible =>
    Table.visible_keep visible test
  unfold Store.sweep
  dsimp only
  split
  · exact changed.noted
  · exact changed

theorem Veiled.newTable {table : Table} (visible : Visible (s.view veil) table) :
    s.Reaches veil (s.newTable table).2 ∧
      Shown ((s.newTable table).2.view veil) (s.newTable table).1 := by
  have size : (s.newTable table).2.heap.tables.size = s.heap.tables.size + 1 := Array.size_push _
  have grown : Grown (s.view veil) ((s.newTable table).2.view veil) :=
    grown_of_le (size ▸ Nat.le_succ _)
  have isNew : veil s.heap.tables.size = none := by
    cases found : veil s.heap.tables.size with
    | none => rfl
    | some table => exact absurd (veiled.hidden _ table found).1 (Nat.lt_irrefl _)
  have get (ref : Nat) : (s.newTable table).2.table ref =
      if ref = s.heap.tables.size then table else s.table ref := by
    simp only [Store.table, Store.newTable, Array.getD_eq_getD_getElem?, Array.getElem?_push]
    split <;> rfl
  refine ⟨⟨⟨?_, ?_, ?_, ?_, ?_, ?_, ?_, ?_⟩, grown⟩, ?_, isNew⟩
  · intro ref isOpen
    rw [get]
    split
    · exact visible.grow grown
    · exact (veiled.shown ref isOpen).grow grown
  · intro ref hidden isHidden
    obtain ⟨inside, holds, noMetatable⟩ := veiled.hidden ref hidden isHidden
    rw [get, if_neg (Nat.ne_of_lt inside)]
    exact ⟨Nat.lt_of_lt_of_le inside grown.size, holds, noMetatable⟩
  · exact veiled.cells.grow grown
  · exact veiled.natives.grow grown
  · exact veiled.registry.grow grown
  · exact veiled.scope.grow grown
  · exact veiled.finalizable.grow grown
  · exact veiled.frame.grow grown
  · rw [view_size, size]
    exact Nat.lt_succ_self _

/-- Only variables differ. -/
theorem Veiled.setCells {cells : Array Value} (visible : Visible (s.view veil) cells) :
    s.Reaches veil { s with heap := { s.heap with cells } } :=
  ⟨⟨veiled.shown, veiled.hidden, visible, veiled.natives, veiled.registry, veiled.scope,
    veiled.finalizable, veiled.frame⟩, .refl _⟩

/-- Only functions with a state differ. -/
theorem Veiled.setNatives {natives : Array Native} (visible : Visible (s.view veil) natives) :
    s.Reaches veil { s with heap := { s.heap with natives } } :=
  ⟨⟨veiled.shown, veiled.hidden, veiled.cells, visible, veiled.registry, veiled.scope,
    veiled.finalizable, veiled.frame⟩, .refl _⟩

theorem Veiled.setCell (ref : Nat) {value : Value} (visible : Visible (s.view veil) value) :
    s.Reaches veil (s.setCell ref value) :=
  veiled.setCells (visible_setIfInBounds veiled.cells visible ref)

theorem Veiled.newCell {value : Value} (visible : Visible (s.view veil) value) :
    s.Reaches veil (s.newCell value).2 := by
  have cells := veiled.setCells (visible_push.mpr ⟨veiled.cells, visible⟩)
  exact cells.trans (cells.veiled.charge _)

theorem Veiled.newNative {native : Native} (visible : Visible (s.view veil) native) :
    s.Reaches veil (s.newNative native).2 :=
  veiled.setNatives (visible_push.mpr ⟨veiled.natives, visible⟩)

theorem Veiled.setNative (ref : Nat) {native : Native} (visible : Visible (s.view veil) native) :
    s.Reaches veil (s.setNative ref native) :=
  veiled.setNatives (visible_setIfInBounds veiled.natives visible ref)

theorem Veiled.newResource (resource : Resource) : s.Reaches veil (s.newResource resource).2 :=
  veiled.same rfl rfl rfl rfl rfl rfl rfl

theorem Veiled.setResource (ref : Nat) (resource : Resource) :
    s.Reaches veil (s.setResource ref resource) :=
  veiled.same rfl rfl rfl rfl rfl rfl rfl

theorem Veiled.newClosure (closure : Closure) : s.Reaches veil (s.newClosure closure).2 :=
  veiled.same rfl rfl rfl rfl rfl rfl rfl

theorem Veiled.emit (emission : Emission) : s.Reaches veil (s.emit emission) := veiled.world _

theorem Veiled.setSlot (index : Nat) {value : Value} (visible : Visible (s.view veil) value) :
    s.Reaches veil (s.setSlot index value) := by
  unfold Store.setSlot
  dsimp only
  split
  · exact veiled.setFrame
      ⟨visible_setIfInBounds veiled.frame.slots visible index, veiled.frame.extra⟩
  · exact veiled.setCell _ visible

theorem Veiled.declareSlot (index : Nat) {value : Value} (visible : Visible (s.view veil) value) :
    s.Reaches veil (s.declareSlot index value) := by
  unfold Store.declareSlot
  split
  · have made := veiled.newCell visible
    exact made.trans (made.veiled.setFrame made.veiled.frame)
  · exact veiled.setFrame
      ⟨visible_setIfInBounds veiled.frame.slots visible index, veiled.frame.extra⟩

theorem Veiled.setCaptured (index : Nat) {value : Value} (visible : Visible (s.view veil) value) :
    s.Reaches veil (s.setCaptured index value) :=
  veiled.setCell _ visible

theorem Veiled.capture (captures : Array Capture) : s.Reaches veil (s.capture captures).2 := by
  unfold Store.capture
  rw [← Array.foldl_toList]
  generalize (#[] : Array Nat) = cells
  induction captures.toList generalizing s cells with
  | nil => exact veiled.refl
  | cons capture captures ih =>
      rw [List.foldl_cons]
      cases capture with
      | captured index => exact ih veiled _
      | slot index =>
          dsimp only
          split
          · exact ih veiled _
          · have made := veiled.newCell (visible_getD veiled.frame.slots visible_nil index)
            have framed := made.trans (made.veiled.setBoxes
              (s.frame.boxes.setIfInBounds index (s.heap.cells.size + 1)))
            exact framed.trans (ih framed.veiled _)

theorem Veiled.makeClosure (code : Code) : s.Reaches veil (s.makeClosure code).2 := by
  have captured := veiled.capture code.info.captures
  exact captured.trans (captured.veiled.newClosure _)

end Veiled

end Store

end LuaSession.Script
