import LuaSession.Proofs.Bootstrap.Scene

/-!
# What the first script finds

A new session has its functions and the tables of its libraries among the globals, and
the adapter in the scope. The libraries of files and of the operating system may be
missing.
-/

namespace LuaSession

open LuaSession.Script LuaSession.Library

namespace Library.Opening

/-- The tables that libraries are put into are there, and there are two of them. -/
structure Shelves (s : Store) : Prop where
  hasGlobals : s.HasGlobals
  hasLoaded : s.registry.loaded < s.heap.tables.size
  apart : s.registry.loaded ≠ s.registry.globals

namespace Shelves

variable {s : Store} (shelves : Shelves s)

include shelves

/-- Opening more libraries leaves them where they are. -/
theorem mono {t : Store} (more : Nat) (globals : t.registry.globals = s.registry.globals)
    (loaded : t.registry.loaded = s.registry.loaded)
    (size : t.heap.tables.size = s.heap.tables.size + more) : Shelves t where
  hasGlobals := HasGlobals.mono more shelves.hasGlobals globals size
  hasLoaded := by
    rw [loaded, size]
    exact Nat.lt_add_right more shelves.hasLoaded
  apart := by
    rw [loaded, globals]
    exact shelves.apart

theorem openLibrary (name : String) (fields : Fields) : Shelves (openLibrary name fields s).2 :=
  shelves.mono 1 rfl rfl <| by
    simp [Opening.openLibrary, makeTable, Opening.putField, Store.newTable, Store.modifyTable]

theorem openStrings : Shelves (openStrings s) :=
  shelves.mono 2 rfl rfl <| by
    simp [Opening.openStrings, Opening.openLibrary, makeTable, Opening.putField, Store.newTable,
      Store.modifyTable]

end Shelves

theorem shelves_openBase (s : Store) : Shelves (openBase s) where
  hasGlobals := hasGlobals_openBase s
  hasLoaded := by simp [openBase, makeTable, putField, Store.newTable, Store.modifyTable]
  apart := by simp [openBase, makeTable, putField, Store.newTable, Store.modifyTable]

theorem shelves_openCore (s : Store) : Shelves (openCore s) :=
  List.foldlRecOn _ _ (shelves_openBase s).openStrings fun _ shelves library _ =>
    shelves.openLibrary library.1 library.2

/-- A library stands under its name among the globals, as it was opened. -/
structure HasLibrary (name : String) (fields : Fields) (ref : Nat) (s : Store) : Prop where
  binds : Binds name (.table ref) s
  stands : Stands ref (tableOf fields) s

namespace HasLibrary

variable {name : String} {fields : Fields} {ref : Nat} {s : Store}
  (has : HasLibrary name fields ref s)

include has

theorem openLibrary {other : String} (differs : other ≠ name) (others : Fields) :
    HasLibrary name fields ref (openLibrary other others s).2 :=
  ⟨has.binds.openLibrary differs others, has.stands.openLibrary other others⟩

theorem openFiles (differs : "io" ≠ name) : HasLibrary name fields ref (openFiles s) :=
  ⟨has.binds.openFiles differs, has.stands.openFiles⟩

theorem openPackages (differs : "package" ≠ name) (notRequire : "require" ≠ name) :
    HasLibrary name fields ref (openPackages s) :=
  ⟨has.binds.openPackages differs notRequire, has.stands.openPackages⟩

theorem makeScope : HasLibrary name fields ref (Session.makeScope s) :=
  ⟨has.binds.makeScope, has.stands.makeScope⟩

end HasLibrary

variable {s : Store}

/-- A library that has just been opened. -/
theorem hasLibrary_openLibrary {other : String} {value : Value} (binds : Binds other value s)
    (shelves : Shelves s) (name : String) (fields : Fields) :
    HasLibrary name fields s.heap.tables.size (openLibrary name fields s).2 :=
  ⟨binds.opened shelves.apart fields,
    stands_openLibrary shelves.hasGlobals shelves.hasLoaded name fields⟩

/-- The library of tables is open in every session. -/
theorem exists_tables (s : Store) : ∃ ref, HasLibrary "table" tableFields ref (openCore s) := by
  let coroutines := (openLibrary "coroutine" coroutineFields (openStrings (openBase s))).2
  have shelves : Shelves coroutines := (shelves_openBase s).openStrings.openLibrary _ _
  have binds : Binds "_G" (.table (openBase s).registry.globals) coroutines :=
    ((binds_self s).openStrings (by decide)).openLibrary (by decide) _
  have tables := hasLibrary_openLibrary binds shelves "table" tableFields
  exact ⟨_, (tables.openLibrary (by decide) utf8Fields).openLibrary (by decide) mathFields⟩

/-- The handle of a standard stream. -/
def standardFile (stream : Stream) (readable : Bool) (buffering : Buffering) : Resource :=
  .file { stream, readable, writable := !readable, buffering, standard := true }

/-- The fields of the library of files, with the handles of the standard streams. -/
def allFileFields (input output errors : Nat) : Fields :=
  fileFields ++ [("stdin", .handle input), ("stdout", .handle output), ("stderr", .handle errors)]

/-- The library of files is opened with the metatable of files and its methods. -/
theorem hasLibrary_openFiles {other : String} {value : Value} (binds : Binds other value s)
    (shelves : Shelves s) :
    HasLibrary "io" (allFileFields s.heap.resources.size (s.heap.resources.size + 1)
      (s.heap.resources.size + 2)) (s.heap.tables.size + 2) (openFiles s) ∧
    Stands (openFiles s).registry.files
      (tableOf (fileEvents ++ [("__index", .table s.heap.tables.size)])) (openFiles s) ∧
    Stands s.heap.tables.size (tableOf fileMethods) (openFiles s) := by
  let methods := (makeTable fileMethods s).2
  let files := (makeTable (fileEvents ++ [("__index", .table s.heap.tables.size)]) methods).2
  let input := (files.newResource (standardFile .input true .whole)).2
  let output := (input.newResource (standardFile .output false .whole)).2
  let errors := (output.newResource (standardFile .errors false .none)).2
  have size : errors.heap.tables.size = s.heap.tables.size + 2 := by
    simp [errors, output, input, files, methods, makeTable, Store.newTable, Store.newResource]
  have shelved : Shelves methods := shelves.mono 1 rfl rfl (Array.size_push _)
  have ready : Shelves errors := shelves.mono 2 rfl rfl size
  have bound : Binds other value errors := Binds.congr ((binds.newTable _).newTable _) rfl rfl
  have own := stands_makeTable shelves.hasGlobals shelves.hasLoaded fileMethods
  have events := stands_makeTable shelved.hasGlobals shelved.hasLoaded
    (fileEvents ++ [("__index", .table s.heap.tables.size)])
  have opened := hasLibrary_openLibrary bound ready "io" (allFileFields s.heap.resources.size
    (s.heap.resources.size + 1) (s.heap.resources.size + 2))
  rw [size] at opened
  have tables : (openFiles s).heap.tables = (openLibrary "io" (allFileFields
      s.heap.resources.size (s.heap.resources.size + 1) (s.heap.resources.size + 2))
        errors).2.heap.tables := by
    have second : (s.heap.resources.push (standardFile .input true .whole)).size =
        s.heap.resources.size + 1 := Array.size_push _
    have third : ((s.heap.resources.push (standardFile .input true .whole)).push
        (standardFile .output false .whole)).size = s.heap.resources.size + 2 := by simp
    rw [← second, ← third]
    rfl
  refine ⟨⟨Binds.congr opened.binds tables rfl, Stands.congr opened.stands tables rfl rfl⟩, ?_, ?_⟩
  · exact Stands.congr (Stands.openLibrary (Stands.congr events rfl rfl rfl) _ _) rfl rfl rfl
  · exact Stands.congr (Stands.openLibrary (Stands.congr (own.newTable _) rfl rfl rfl) _ _)
      rfl rfl rfl

theorem files_openPackages (s : Store) :
    (openPackages s).registry.files = s.registry.files := rfl

end Library.Opening

namespace Bootstrap

open Library.Opening

/-- The store of a new session. -/
def start (libraries : Libraries) (limit : Option Nat) : Store :=
  Session.makeScope (openLibraries libraries { limit })

/-- What the first script finds in every session. -/
structure Finds (tables : Nat) (s : Store) : Prop extends Scene s where
  self : Binds "_G" (.table s.registry.globals) s
  select : Binds "select" (.builtin (.base .select)) s
  tostring : Binds "tostring" (.builtin (.base .tostring)) s
  error : Binds "error" (.builtin (.base .error)) s
  table : HasLibrary "table" tableFields tables s

/-- The metatable of files as it is at first. -/
def fileMetatable (methods : Nat) : Table :=
  tableOf (fileEvents ++ [("__index", .table methods)])

/-- What it finds when all libraries are open. -/
structure FindsFiles (io os : Nat) (s : Store) : Prop where
  io : HasLibrary "io" (allFileFields 0 1 2) io s
  os : HasLibrary "os" systemFields os s
  handles : ∃ methods, Stands s.registry.files (fileMetatable methods) s ∧
    Stands methods (tableOf fileMethods) s

variable (limit : Option Nat)

theorem exists_finds (libraries : Libraries) : ∃ tables, Finds tables (start libraries limit) := by
  let opened : Store := openLibraries libraries { limit }
  have binds {name : String} {value : Value}
      (begins : Binds name value (openBase { limit })) (others : name ∉ Binds.libraryNames) :
      Binds name value (start libraries limit) := (begins.openLibraries libraries others).makeScope
  have globals : (start libraries limit).registry.globals =
      (openBase { limit }).registry.globals := by
    cases libraries <;> rfl
  obtain ⟨tables, core⟩ := exists_tables { limit }
  have table : HasLibrary "table" tableFields tables opened := by
    cases libraries with
    | core => exact core
    | safe =>
        exact ((core.openLibrary (by decide) systemFields).openFiles (by decide)).openPackages
          (by decide) (by decide)
  refine ⟨tables, ⟨Session.remembers_makeScope (hasGlobals_openLibraries _ _),
    Session.fallsBack_makeScope _, fun name other => ?_⟩, ?_, ?_, ?_, ?_, table.makeScope⟩
  · have assigned := Session.assigned_makeScope opened
    refine (Store.lastAssigned?_cons (s := {}) assigned _).trans (if_neg ?_)
    simpa [Value.ofString, String.toByteArray_inj] using Ne.symm other
  · rw [globals]
    exact binds (binds_self _) (by decide)
  · exact binds (binds_openBase _ (by decide) (by decide)) (by decide)
  · exact binds (binds_openBase _ (by decide) (by decide)) (by decide)
  · exact binds (binds_openBase _ (by decide) (by decide)) (by decide)

theorem exists_findsFiles : ∃ io os, FindsFiles io os (start .safe limit) := by
  let system : Store := (openLibrary "os" systemFields (openCore { limit })).2
  have binds : Binds "_G" (.table (openBase { limit }).registry.globals) (openCore { limit }) :=
    (binds_self _).openCore (by decide)
  have shelves : Shelves (openCore { limit }) := shelves_openCore _
  have os := hasLibrary_openLibrary binds shelves "os" systemFields
  have resources : system.heap.resources.size = 0 := rfl
  obtain ⟨io, events, methods⟩ :
      HasLibrary "io" (allFileFields system.heap.resources.size (system.heap.resources.size + 1)
        (system.heap.resources.size + 2)) (system.heap.tables.size + 2) (openFiles system) ∧
      Stands (openFiles system).registry.files (fileMetatable system.heap.tables.size)
        (openFiles system) ∧
      Stands system.heap.tables.size (tableOf fileMethods) (openFiles system) :=
    hasLibrary_openFiles os.binds (shelves.openLibrary _ _)
  rw [resources] at io
  have started : start .safe limit = Session.makeScope (openPackages (openFiles system)) := rfl
  have files : (Session.makeScope (openPackages (openFiles system))).registry.files =
      (openFiles system).registry.files := by
    rw [(Session.makeScope_spec _).2.1, files_openPackages]
  rw [started]
  refine ⟨_, _, (io.openPackages (by decide) (by decide)).makeScope,
    ((os.openFiles (by decide)).openPackages (by decide) (by decide)).makeScope, _, ?_,
    methods.openPackages.makeScope⟩
  rw [files]
  exact events.openPackages.makeScope

end Bootstrap

end LuaSession
