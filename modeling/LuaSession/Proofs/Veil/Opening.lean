import LuaSession.Proofs.Bootstrap.Computing
import LuaSession.Proofs.Veil.Stores

/-!
# Nothing dangles in a new session

Where nothing is hidden, what is visible is what is there. In a new session every table that
is referred to is there, before the first script runs and when it has redirected output.
-/

namespace LuaSession

open LuaSession.Script LuaSession.Library LuaSession.Library.Opening

/-- Nothing is hidden. -/
def noVeil : Veil := fun _ => none

namespace Library.Opening

variable {s : Store} {fields : Fields} {n : View}

/-! ## Tables of libraries -/

/-- No field refers to a table. -/
def Plain (fields : Fields) : Prop := ∀ field ∈ fields, ∀ ref, field.2 ≠ .table ref

theorem Plain.visible (plain : Plain fields) (n : View) :
    ∀ field ∈ fields, Visible n field.2 := by
  intro field isMember
  have notTable := plain field isMember
  cases found : field.2 with
  | table ref => exact absurd found (notTable ref)
  | _ => trivial

/-- Functions are no tables. -/
theorem plain_map {α : Type} (functions : List (String × α)) (f : α → Builtin) :
    Plain (functions.map fun (name, function) => (name, .builtin (f function))) := by
  intro field isMember ref isTable
  obtain ⟨function, _, rfl⟩ := List.mem_map.mp isMember
  cases isTable

theorem Plain.append {others : Fields} (plain : Plain fields) (areOthers : Plain others) :
    Plain (fields ++ others) :=
  List.forall_mem_append.mpr ⟨plain, areOthers⟩

theorem visible_setString {table : Table} (visible : Visible n table) (name : String)
    {value : Value} (isVisible : Visible n value) : Visible n (table.setString name value) :=
  Table.visible_set visible (visible_ofString name) isVisible

/-- A table whose fields are visible. -/
theorem visible_foldl_fields {table : Table} (start : Visible n table)
    (visible : ∀ field ∈ fields, Visible n field.2) :
    Visible n (fields.foldl (fun t (name, value) => t.setString name value) table) := by
  induction fields generalizing table with
  | nil => exact start
  | cons field fields ih =>
      obtain ⟨isVisible, others⟩ := List.forall_mem_cons.mp visible
      exact ih (visible_setString start field.1 isVisible) others

theorem plain_strings : Plain stringFields := plain_map _ .string

theorem plain_operators : Plain stringOperators := plain_map _ .stringArithmetic

theorem plain_system : Plain systemFields := plain_map _ .system

theorem plain_base : Plain baseFields :=
  (plain_map _ .base).append (by simp [Plain, Value.ofString])

/-- The libraries that only compute. -/
theorem plain_core : ∀ library ∈ [("coroutine", coroutineFields), ("table", tableFields),
    ("utf8", utf8Fields), ("math", mathFields)], Plain library.2 := by
  simp only [List.forall_mem_cons, List.not_mem_nil, false_imp_iff, implies_true, and_true]
  refine ⟨plain_map _ .coroutine, plain_map _ .table, ?_, ?_⟩
  · exact (plain_map _ .utf8).append (by simp [Plain])
  · exact (plain_map _ .math).append (by simp [Plain])

theorem plain_files (input output errors : Nat) : Plain (fileFields ++
    [("stdin", .handle input), ("stdout", .handle output), ("stderr", .handle errors)]) :=
  (plain_map _ .file).append (by simp [Plain])

theorem plain_methods : Plain fileMethods := plain_map _ .fileMethod

theorem plain_events : Plain fileEvents := by simp [Plain, fileEvents, Value.ofString]

/-- A table of plain fields that refers to another one. -/
theorem visible_indexed (plain : Plain fields) {ref : Nat} (shown : Shown n ref) :
    ∀ field ∈ fields ++ [("__index", .table ref)], Visible n field.2 :=
  List.forall_mem_append.mpr
    ⟨plain.visible n, List.forall_mem_singleton.mpr (visible_table.mpr shown)⟩

/-- The searchers of the library of packages. -/
def searchers : Table :=
  .ofArray #[.builtin (.package .searchPreload), .builtin (.package .searchScript),
    .builtin (.package .searchNative)]

theorem visible_searchers (n : View) : Visible n searchers :=
  Table.visible_ofArray (visible_three trivial trivial trivial)

section Opened

variable (veiled : s.Veiled noVeil)

include veiled

theorem veiled_makeTable (visible : ∀ field ∈ fields, Visible (s.view noVeil) field.2) :
    s.Reaches noVeil (makeTable fields s).2 ∧
      Shown ((makeTable fields s).2.view noVeil) (makeTable fields s).1 :=
  veiled.newTable (visible_foldl_fields (Table.visible_blank 0 0) visible)

theorem veiled_putField (ref : Nat) (name : String) {value : Value}
    (visible : Visible (s.view noVeil) value) : s.Reaches noVeil (putField ref name value s) :=
  veiled.modifyTable rfl fun _ isVisible => visible_setString isVisible name visible

theorem veiled_openLibrary (name : String)
    (visible : ∀ field ∈ fields, Visible (s.view noVeil) field.2) :
    s.Reaches noVeil (openLibrary name fields s).2 ∧
      Shown ((openLibrary name fields s).2.view noVeil) (openLibrary name fields s).1 := by
  obtain ⟨made, shown⟩ := veiled_makeTable veiled visible
  have global := veiled_putField made.veiled s.registry.globals name (visible_table.mpr shown)
  have loaded := veiled_putField global.veiled s.registry.loaded name
    (visible_table.mpr (shown.grow global.grown))
  exact ⟨made.trans (global.trans loaded), (shown.grow global.grown).grow loaded.grown⟩

theorem veiled_openPlain (name : String) (plain : Plain fields) :
    (openLibrary name fields s).2.Veiled noVeil :=
  (veiled_openLibrary veiled name (plain.visible _)).1.veiled

theorem veiled_openStrings : (openStrings s).Veiled noVeil := by
  have opened := veiled_openLibrary veiled "string" (plain_strings.visible _)
  have made := veiled_makeTable opened.1.veiled (visible_indexed plain_operators opened.2)
  have registry := made.1.veiled.registry
  refine (made.1.veiled.setRegistry ?_).veiled
  exact ⟨registry.globals, registry.loaded, registry.preload, made.2, registry.files,
    registry.package⟩

/-- The library of files, when its metatable and the handles of the streams are there. -/
theorem veiled_openStreams {files : Nat} (shown : Shown (s.view noVeil) files)
    (input output errors : Nat) :
    let opened := (openLibrary "io" (fileFields ++
      [("stdin", .handle input), ("stdout", .handle output), ("stderr", .handle errors)]) s).2
    Store.Veiled noVeil { opened with registry := { opened.registry with
      files
      standardInput := input
      standardOutput := output
      defaultInput := input
      defaultOutput := output } } := by
  have opened := veiled_openLibrary veiled "io" ((plain_files input output errors).visible _)
  have registry := opened.1.veiled.registry
  refine (opened.1.veiled.setRegistry ?_).veiled
  exact ⟨registry.globals, registry.loaded, registry.preload, registry.strings,
    shown.grow opened.1.grown, registry.package⟩

theorem veiled_openFiles : (openFiles s).Veiled noVeil := by
  have methods := veiled_makeTable veiled (plain_methods.visible _)
  have files := veiled_makeTable methods.1.veiled (visible_indexed plain_events methods.2)
  have input := files.1.veiled.newResource (standardFile .input true .whole)
  have output := input.veiled.newResource (standardFile .output false .whole)
  have errors := output.veiled.newResource (standardFile .errors false .none)
  have shown := files.2.grow (input.trans (output.trans errors)).grown
  exact veiled_openStreams errors.veiled shown _ _ _

theorem veiled_openPackages : (openPackages s).Veiled noVeil := by
  have made := veiled.newTable (visible_searchers _)
  have before := made.1.veiled.registry
  have visible : ∀ field ∈ [ ("loadlib", Value.builtin (.package .loadlib)),
      ("searchpath", .builtin (.package .searchpath)), ("preload", .table s.registry.preload),
      ("loaded", .table s.registry.loaded), ("searchers", .table s.heap.tables.size),
      ("path", .ofString Packages.standardPath), ("cpath", .ofString Packages.standardNativePath),
      ("config", .ofString Packages.configuration) ],
      Visible ((s.newTable searchers).2.view noVeil) field.2 := by
    simp only [List.forall_mem_cons, visible_builtin, visible_table, visible_ofString, true_and]
    exact ⟨before.preload, before.loaded, made.2, List.forall_mem_nil _⟩
  have opened := veiled_openLibrary made.1.veiled "package" visible
  have required := veiled_putField opened.1.veiled s.registry.globals "require"
    (visible_builtin (.base .require))
  have registry := required.veiled.registry
  refine (required.veiled.setRegistry ?_).veiled
  refine ⟨registry.globals, registry.loaded, registry.preload, registry.strings, registry.files, ?_⟩
  rintro ref ⟨⟩
  exact opened.2.grow required.grown

/-- The scope falls back to another table. -/
theorem veiled_setScope {scope fallback : Nat} (isScope : Shown (s.view noVeil) scope)
    (isFallback : Shown (s.view noVeil) fallback) (assigned : List Pair) :
    Store.Veiled noVeil { s.modifyTable scope fun t => { t with metatable := some fallback } with
      scope, assigned } := by
  have isOpen : noVeil scope = none := rfl
  have linked := veiled.modifyTable (f := fun t => { t with metatable := some fallback })
    isOpen fun table visible =>
      ⟨visible.array, visible.pairs, fun ref isMetatable => Option.some.inj isMetatable ▸ isFallback⟩
  have isVeiled := linked.veiled
  exact ⟨isVeiled.shown, isVeiled.hidden, isVeiled.cells, isVeiled.natives, isVeiled.registry,
    isScope.grow linked.grown, isVeiled.finalizable, isVeiled.frame⟩

theorem veiled_makeScope : (Session.makeScope s).Veiled noVeil := by
  have globals : ∀ field ∈ [("__index", Value.table s.registry.globals)],
      Visible (s.view noVeil) field.2 :=
    List.forall_mem_singleton.mpr (visible_table.mpr veiled.registry.globals)
  have fallback := veiled_makeTable veiled globals
  have adapter := fallback.1.veiled.newResource .adapter
  have output : Plain [(Bootstrap.outputBinding, .handle s.heap.resources.size)] := by simp [Plain]
  have scope := veiled_makeTable adapter.veiled (output.visible _)
  exact veiled_setScope scope.1.veiled scope.2
    (fallback.2.grow (adapter.trans scope.1).grown) _

end Opened

/-! ## The first tables -/

/-- Changing one of several tables. -/
theorem visible_modify {tables : Array Table} (visible : Visible n tables) (ref : Nat)
    {f : Table → Table} (changes : ∀ table, Visible n table → Visible n (f table)) :
    Visible n (tables.modify ref f) := by
  intro table isMember
  obtain ⟨place, inside, rfl⟩ := Array.mem_iff_getElem.mp isMember
  rw [Array.getElem_modify]
  split
  · exact changes _ (visible _ (Array.getElem_mem _))
  · exact visible _ (Array.getElem_mem _)

theorem veiled_openBase (limit : Option Nat) : (openBase { limit }).Veiled noVeil := by
  have shown (ref : Nat) (isFirst : ref < 3) : Shown ((openBase { limit }).view noVeil) ref := by
    refine ⟨?_, rfl⟩
    simpa [openBase, makeTable, putField, Store.newTable, Store.modifyTable] using isFirst
  have globals := shown 0 (by decide)
  have tables : Visible ((openBase { limit }).view noVeil) (openBase { limit }).heap.tables := by
    have first := visible_foldl_fields (Table.visible_blank 0 0)
      (plain_base.visible ((openBase { limit }).view noVeil))
    have itself := visible_modify (visible_one first) 0 fun table visible =>
      visible_setString visible "_G" (visible_table.mpr globals)
    have loaded := visible_setString (Table.visible_blank 0 0) "_G" (visible_table.mpr globals)
    exact visible_push.mpr ⟨visible_push.mpr ⟨itself, loaded⟩, Table.visible_blank 0 0⟩
  constructor
  · intro ref _
    exact visible_getD tables (Table.visible_blank 0 0) ref
  · rintro ref table ⟨⟩
  · exact visible_empty
  · exact visible_empty
  · refine ⟨globals, shown 1 (by decide), shown 2 (by decide), globals, globals, ?_⟩
    rintro _ ⟨⟩
  · exact globals
  · exact visible_list_nil
  · exact visible_noFrame

theorem veiled_openCore (limit : Option Nat) : (openCore { limit }).Veiled noVeil :=
  List.foldlRecOn _ _ (veiled_openStrings (veiled_openBase limit))
    fun _ veiled library isLibrary =>
      veiled_openPlain veiled library.1 (plain_core library isLibrary)

end Library.Opening

namespace Bootstrap

/-- In a new session, everything that is referred to is there. -/
theorem veiled_start (libraries : Libraries) (limit : Option Nat) :
    (start libraries limit).Veiled noVeil := by
  refine veiled_makeScope ?_
  cases libraries with
  | core => exact veiled_openCore limit
  | safe =>
      exact veiled_openPackages (veiled_openFiles
        (veiled_openPlain (veiled_openCore limit) "os" plain_system))

variable {s : Store} (veiled : s.Veiled noVeil)

include veiled

/-- What the first script leaves in place of what it has found. -/
theorem veiled_running {values : List Value} (visible : Visible (s.view noVeil) values)
    (closures : List Closure) (charge : Nat) {frame : Frame}
    (isFrame : Visible (s.view noVeil) frame) :
    ((running s values closures charge).withFrame frame).Veiled noVeil where
  shown := veiled.shown
  hidden := veiled.hidden
  cells := visible_toArray.mpr (visible_cons.mpr ⟨visible_table.mpr veiled.scope, visible⟩)
  natives := veiled.natives
  registry := veiled.registry
  scope := veiled.scope
  finalizable := veiled.finalizable
  frame := isFrame

theorem veiled_put (ref : Nat) (name : String) {value : Value}
    (visible : Visible (s.view noVeil) value) :
    s.Reaches noVeil (s.put ref (.ofString name) value) :=
  veiled.put rfl (visible_ofString _) visible

theorem veiled_redirectPrint : s.Reaches noVeil (redirectPrint s) :=
  veiled_put veiled _ "print" (visible_closure 1)

theorem veiled_redirect (places : Places) : s.Reaches noVeil (redirect places s) := by
  have print := veiled_redirectPrint veiled
  have output := veiled_put print.veiled places.io "output" (visible_closure 2)
  have write := veiled_put output.veiled places.io "write" (visible_closure 3)
  have stdout := veiled_put write.veiled places.io "stdout" (visible_handle places.adapter)
  have exit := veiled_put stdout.veiled places.os "exit" (visible_closure 4)
  exact print.trans (output.trans (write.trans (stdout.trans exit)))

omit veiled in
theorem visible_printing (n : View) (adapter : Nat) : Visible n (printing adapter) := by
  simp [printing]

/-- When output has been redirected, everything that is referred to is there. -/
theorem veiled_redirected (places : Places) (charge : Nat) :
    (redirected places s charge).Veiled noVeil := by
  have redirects := veiled_redirect veiled places
  refine veiled_running redirects.veiled ?_ _ charge (veiled.frame.grow redirects.grown)
  exact visible_list_append.mpr ⟨visible_printing _ _, by simp⟩

theorem veiled_redirectedCore (adapter charge : Nat) :
    (redirectedCore adapter s charge).Veiled noVeil := by
  have redirects := veiled_redirectPrint veiled
  exact veiled_running redirects.veiled (visible_printing _ _) _ charge
    (veiled.frame.grow redirects.grown)

end Bootstrap

end LuaSession
