import LuaSession.Proofs.Session.Reached

/-!
# The globals of a new session

Every library that is opened puts one table under its name among the globals; what
the basic library has put there stays.
-/

namespace LuaSession

open LuaSession.Script LuaSession.Library

namespace Library.Opening

/-- Putting fields into a table keeps it sound. -/
theorem sound_fields (fields : Fields) {t : Table} (sound : t.Sound) :
    (fields.foldl (fun t (name, value) => t.setString name value) t).Sound :=
  List.foldlRecOn _ _ sound fun _ sound field _ => sound.set (.ofString field.1) field.2

/-- Putting fields into a table gives it no metatable. -/
theorem metatable_fields (fields : Fields) {t : Table} (plain : t.metatable = none) :
    (fields.foldl (fun t (name, value) => t.setString name value) t).metatable = none := by
  refine List.foldlRecOn (motive := fun t : Table => t.metatable = none) fields _ plain ?_
  exact fun t plain field _ => (Table.metatable_set t _ _).trans plain

/-- A field is what was put into a table last for its name. -/
theorem get_fields (fields : Fields) {t : Table} (sound : t.Sound) (name : String) :
    (fields.foldl (fun t (name, value) => t.setString name value) t).get (.ofString name) =
      ((fields.reverse.find? fun field => field.1 == name).map (·.2)).getD
        (t.get (.ofString name)) := by
  induction fields generalizing t with
  | nil => rfl
  | cons field rest ih =>
      obtain ⟨other, value⟩ := field
      have next : (t.setString other value).get (.ofString name) =
          if other = name then value else t.get (.ofString name) :=
        (Table.get_set sound _ _ _).trans <|
          if_congr (by simp [Value.ofString, String.toByteArray_inj]) rfl rfl
      have more : (t.setString other value).Sound := sound.set _ _
      rw [List.foldl_cons, ih more, next, List.reverse_cons, List.find?_append]
      cases rest.reverse.find? fun field => field.1 == name with
      | some found => rfl
      | none => by_cases same : other = name <;> simp [same]

/-- The globals have a value for a name, and no metatable. -/
structure Binds (name : String) (value : Value) (s : Store) : Prop where
  hasGlobals : s.HasGlobals
  sound : (s.table s.registry.globals).Sound
  plain : (s.table s.registry.globals).metatable = none
  get : (s.table s.registry.globals).get (.ofString name) = value

namespace Binds

variable {name : String} {value : Value} {s : Store}

/-- Only the globals count. -/
theorem congr (binds : Binds name value s) {t : Store} (tables : t.heap.tables = s.heap.tables)
    (globals : t.registry.globals = s.registry.globals) : Binds name value t where
  hasGlobals := by
    rw [Store.HasGlobals, tables, globals]
    exact binds.hasGlobals
  sound := by
    rw [Store.table, tables, globals]
    exact binds.sound
  plain := by
    rw [Store.table, tables, globals]
    exact binds.plain
  get := by
    rw [Store.table, tables, globals]
    exact binds.get

theorem newTable (binds : Binds name value s) (table : Table) :
    Binds name value (s.newTable table).2 where
  hasGlobals := binds.hasGlobals.newTable table
  sound := (Store.table_newTable binds.hasGlobals table).symm ▸ binds.sound
  plain := (Store.table_newTable binds.hasGlobals table).symm ▸ binds.plain
  get := (Store.table_newTable binds.hasGlobals table).symm ▸ binds.get

/-- Another field of any table. -/
theorem putField (binds : Binds name value s) (ref : Nat) {other : String} (differs : other ≠ name)
    (field : Value) : Binds name value (putField ref other field s) := by
  have hasGlobals : (Opening.putField ref other field s).HasGlobals :=
    HasGlobals.mono 0 binds.hasGlobals rfl (Store.size_modifyTable ..)
  by_cases same : ref = s.registry.globals
  · have table : (Opening.putField ref other field s).table s.registry.globals =
        (s.table s.registry.globals).set (.ofString other) field := by
      rw [Opening.putField, same]
      exact Store.table_modifyTable_self binds.hasGlobals _
    refine ⟨hasGlobals, ?_, ?_, ?_⟩
    · exact table.symm ▸ binds.sound.set _ _
    · exact (congrArg Table.metatable table).trans ((Table.metatable_set _ _ _).trans binds.plain)
    · refine (congrArg (·.get (.ofString name)) table).trans ?_
      refine (Table.get_set binds.sound _ _ _).trans ?_
      rw [if_neg]
      · exact binds.get
      · simpa [Value.ofString, String.toByteArray_inj] using differs
  · have table : (Opening.putField ref other field s).table s.registry.globals =
        s.table s.registry.globals := Store.table_modifyTable_of_ne same _
    exact ⟨hasGlobals, table.symm ▸ binds.sound, table.symm ▸ binds.plain,
      table.symm ▸ binds.get⟩

/-- A new field of the globals. -/
theorem putGlobal (binds : Binds name value s) (other : String) (field : Value) :
    Binds other field (Opening.putField s.registry.globals other field s) := by
  have table : (Opening.putField s.registry.globals other field s).table s.registry.globals =
      (s.table s.registry.globals).set (.ofString other) field :=
    Store.table_modifyTable_self binds.hasGlobals _
  refine ⟨HasGlobals.mono 0 binds.hasGlobals rfl (Store.size_modifyTable ..), ?_, ?_, ?_⟩
  · exact table.symm ▸ binds.sound.set _ _
  · exact (congrArg Table.metatable table).trans ((Table.metatable_set _ _ _).trans binds.plain)
  · refine (congrArg (·.get (.ofString other)) table).trans ?_
    exact (Table.get_set binds.sound _ _ _).trans (if_pos rfl)

theorem openLibrary (binds : Binds name value s) {other : String} (differs : other ≠ name)
    (fields : Fields) : Binds name value (openLibrary other fields s).2 :=
  ((binds.newTable _).putField _ differs _).putField _ differs _

theorem openStrings (binds : Binds name value s) (differs : "string" ≠ name) :
    Binds name value (openStrings s) :=
  Binds.congr ((binds.openLibrary differs stringFields).newTable _) rfl rfl

theorem openFiles (binds : Binds name value s) (differs : "io" ≠ name) :
    Binds name value (openFiles s) :=
  Binds.congr (Binds.openLibrary (Binds.congr ((binds.newTable _).newTable _) rfl rfl) differs _)
    rfl rfl

theorem openPackages (binds : Binds name value s) (differs : "package" ≠ name)
    (notRequire : "require" ≠ name) : Binds name value (openPackages s) :=
  Binds.congr (((binds.newTable _).openLibrary differs _).putField _ notRequire _) rfl rfl

/-- The names of the libraries that only compute. -/
def coreNames : List String := ["string", "coroutine", "table", "utf8", "math"]

/-- The names that opening libraries binds after the functions of the basic library. -/
def libraryNames : List String := coreNames ++ ["os", "io", "package", "require"]

/-- Opening the libraries that only compute. -/
theorem openCore (binds : Binds name value (openBase s)) (others : name ∉ coreNames) :
    Binds name value (openCore s) := by
  simp only [coreNames, List.mem_cons, List.not_mem_nil, or_false, not_or] at others
  obtain ⟨string, coroutine, table, utf8, math⟩ := others
  refine List.foldlRecOn _ _ (binds.openStrings (Ne.symm string)) fun _ binds library isMember =>
    binds.openLibrary ?_ library.2
  simp only [List.mem_cons, List.not_mem_nil, or_false] at isMember
  obtain rfl | rfl | rfl | rfl := isMember
  · exact Ne.symm coroutine
  · exact Ne.symm table
  · exact Ne.symm utf8
  · exact Ne.symm math

/-- Whatever other libraries are opened. -/
theorem openLibraries (binds : Binds name value (openBase s)) (libraries : Libraries)
    (others : name ∉ libraryNames) : Binds name value (openLibraries libraries s) := by
  have core : Binds name value (Opening.openCore s) :=
    binds.openCore fun isMember => others (List.mem_append_left _ isMember)
  simp only [libraryNames, coreNames, List.cons_append, List.nil_append, List.mem_cons,
    List.not_mem_nil, or_false, not_or] at others
  obtain ⟨_, _, _, _, _, os, io, package, require⟩ := others
  cases libraries with
  | core => exact core
  | safe =>
      exact ((core.openLibrary (Ne.symm os) systemFields).openFiles (Ne.symm io)).openPackages
        (Ne.symm package) (Ne.symm require)

/-- Another table may change. -/
theorem modifyTable (binds : Binds name value s) {ref : Nat}
    (differs : ref ≠ s.registry.globals) (f : Table → Table) :
    Binds name value (s.modifyTable ref f) where
  hasGlobals := HasGlobals.mono 0 binds.hasGlobals rfl (Store.size_modifyTable ..)
  sound := (Store.table_modifyTable_of_ne differs f).symm ▸ binds.sound
  plain := (Store.table_modifyTable_of_ne differs f).symm ▸ binds.plain
  get := (Store.table_modifyTable_of_ne differs f).symm ▸ binds.get

/-- Making the scope leaves the globals alone. -/
theorem makeScope (binds : Binds name value s) : Binds name value (Session.makeScope s) := by
  have fallback := binds.newTable (({} : Table).setString "__index" (.table s.registry.globals))
  have adapter : Binds name value ((s.newTable
      (({} : Table).setString "__index" (.table s.registry.globals))).2.newResource .adapter).2 :=
    fallback.congr rfl rfl
  have scope := adapter.newTable
    (({} : Table).setString Bootstrap.outputBinding (.handle s.heap.resources.size))
  refine (scope.modifyTable ?_ _).congr rfl rfl
  exact Nat.ne_of_gt fallback.hasGlobals

end Binds

/-- The globals begin with the functions of the basic library. -/
theorem binds_baseFields {name : String} {value : Value} (s : Store)
    (found : (baseFields.reverse.find? fun field => field.1 == name).map (·.2) = some value) :
    Binds name value { (makeTable baseFields s).2 with
      registry := { s.registry with globals := s.heap.tables.size } } := by
  have made : (s.newTable (baseFields.foldl (fun t (name, value) => t.setString name value) {})).2.table
      s.heap.tables.size = baseFields.foldl (fun t (name, value) => t.setString name value) {} := by
    simp [Store.table, Store.newTable]
  refine ⟨?_, ?_, ?_, ?_⟩
  · simp [Store.HasGlobals, makeTable, Store.newTable]
  · exact made.symm ▸ sound_fields baseFields Table.sound_empty
  · exact (congrArg Table.metatable made).trans (metatable_fields baseFields rfl)
  · refine (congrArg (·.get (.ofString name)) made).trans ?_
    rw [get_fields baseFields Table.sound_empty, found]
    rfl

/-- What the basic library has put among the globals stays there. -/
theorem binds_openBase {name : String} {value : Value} (s : Store)
    (found : (baseFields.reverse.find? fun field => field.1 == name).map (·.2) = some value)
    (differs : "_G" ≠ name) : Binds name value (openBase s) :=
  Binds.congr ((((binds_baseFields s found).putField _ differs _).newTable _).newTable _) rfl rfl

/-- The globals are a global. -/
theorem binds_self (s : Store) : Binds "_G" (.table (openBase s).registry.globals) (openBase s) :=
  have begins : Binds "_VERSION" _ _ := binds_baseFields s rfl
  Binds.congr (((begins.putGlobal "_G" _).newTable _).newTable _) rfl rfl

/-! ## Tables that stand apart -/

/-- A table is there, and libraries are put into other tables. -/
structure Stands (ref : Nat) (table : Table) (s : Store) : Prop where
  inHeap : ref < s.heap.tables.size
  notGlobals : s.registry.globals ≠ ref
  notLoaded : s.registry.loaded ≠ ref
  table : s.table ref = table

namespace Stands

variable {ref : Nat} {table : Table} {s : Store} (stands : Stands ref table s)

include stands

/-- Only the tables count, and what the libraries know of them. -/
theorem congr {t : Store} (tables : t.heap.tables = s.heap.tables)
    (globals : t.registry.globals = s.registry.globals)
    (loaded : t.registry.loaded = s.registry.loaded) : Stands ref table t where
  inHeap := tables ▸ stands.inHeap
  notGlobals := globals ▸ stands.notGlobals
  notLoaded := loaded ▸ stands.notLoaded
  table := (Store.table_congr tables ref).trans stands.table

theorem newTable (other : Table) : Stands ref table (s.newTable other).2 where
  inHeap := Nat.lt_of_lt_of_eq (Nat.lt_succ_of_lt stands.inHeap) (Array.size_push other).symm
  notGlobals := stands.notGlobals
  notLoaded := stands.notLoaded
  table := (Store.table_newTable stands.inHeap other).trans stands.table

theorem modifyTable {other : Nat} (differs : other ≠ ref) (f : Table → Table) :
    Stands ref table (s.modifyTable other f) where
  inHeap := Nat.lt_of_lt_of_eq stands.inHeap (Store.size_modifyTable ..).symm
  notGlobals := stands.notGlobals
  notLoaded := stands.notLoaded
  table := (Store.table_modifyTable_of_ne differs f).trans stands.table

theorem openLibrary (name : String) (fields : Fields) :
    Stands ref table (openLibrary name fields s).2 :=
  ((stands.newTable _).modifyTable stands.notGlobals _).modifyTable stands.notLoaded _

theorem openFiles : Stands ref table (openFiles s) :=
  Stands.congr (Stands.openLibrary (Stands.congr ((stands.newTable _).newTable _) rfl rfl rfl) _ _)
    rfl rfl rfl

theorem openPackages : Stands ref table (openPackages s) :=
  Stands.congr (((stands.newTable _).openLibrary _ _).modifyTable stands.notGlobals _) rfl rfl rfl

theorem makeScope : Stands ref table (Session.makeScope s) := by
  have fallback := stands.newTable (({} : Table).setString "__index" (.table s.registry.globals))
  have adapter : Stands ref table ((s.newTable
      (({} : Table).setString "__index" (.table s.registry.globals))).2.newResource .adapter).2 :=
    fallback.congr rfl rfl rfl
  have scope := adapter.newTable
    (({} : Table).setString Bootstrap.outputBinding (.handle s.heap.resources.size))
  refine (scope.modifyTable ?_ _).congr rfl rfl rfl
  exact Nat.ne_of_gt fallback.inHeap

end Stands

/-- The table of some fields. -/
def tableOf (fields : Fields) : Table :=
  fields.foldl (fun t (name, value) => t.setString name value) {}

theorem sound_tableOf (fields : Fields) : (tableOf fields).Sound :=
  sound_fields fields Table.sound_empty

theorem metatable_tableOf (fields : Fields) : (tableOf fields).metatable = none :=
  metatable_fields fields rfl

/-- What the table of some fields has for a name. -/
theorem get_tableOf {fields : Fields} {name : String} {value : Value}
    (found : (fields.reverse.find? fun field => field.1 == name).map (·.2) = some value) :
    (tableOf fields).get (.ofString name) = value := by
  rw [tableOf, get_fields fields Table.sound_empty, found, Option.getD_some]

theorem get_tableOf_of_absent {fields : Fields} {name : String}
    (absent : ∀ field ∈ fields, field.1 ≠ name) : (tableOf fields).get (.ofString name) = .nil := by
  have none : (fields.reverse.find? fun field => field.1 == name) = none :=
    List.find?_eq_none.mpr fun field isField same =>
      absent field (List.mem_reverse.mp isField) (eq_of_beq same)
  rw [tableOf, get_fields fields Table.sound_empty, none, Value.ofString, Table.get_str,
    Table.getPair_of_index_none (by simp)]
  rfl

/-- A new table stands apart from the globals and the loaded modules. -/
theorem stands_makeTable {s : Store} (hasGlobals : s.HasGlobals)
    (hasLoaded : s.registry.loaded < s.heap.tables.size) (fields : Fields) :
    Stands s.heap.tables.size (tableOf fields) (makeTable fields s).2 where
  inHeap := Nat.lt_of_lt_of_eq (Nat.lt_succ_self _) (Array.size_push _).symm
  notGlobals := Nat.ne_of_lt hasGlobals
  notLoaded := Nat.ne_of_lt hasLoaded
  table := by
    change (s.newTable (tableOf fields)).2.table s.heap.tables.size = tableOf fields
    simp [Store.table, Store.newTable]

/-- The table of a library stands apart. -/
theorem stands_openLibrary {s : Store} (hasGlobals : s.HasGlobals)
    (hasLoaded : s.registry.loaded < s.heap.tables.size) (name : String) (fields : Fields) :
    Stands s.heap.tables.size (tableOf fields) (openLibrary name fields s).2 :=
  have stands := stands_makeTable hasGlobals hasLoaded fields
  (stands.modifyTable stands.notGlobals _).modifyTable stands.notLoaded _

/-- A library stands under its name among the globals. -/
theorem Binds.opened {other name : String} {value : Value} {s : Store} (binds : Binds other value s)
    (apart : s.registry.loaded ≠ s.registry.globals) (fields : Fields) :
    Binds name (.table s.heap.tables.size) (Opening.openLibrary name fields s).2 :=
  ((binds.newTable (tableOf fields)).putGlobal name _).modifyTable apart _

/-! ## The metatable of strings -/

/-- The library of strings makes their metatable, which gives them no text of their own. -/
theorem exists_strings_openStrings {s : Store} (hasGlobals : s.HasGlobals)
    (hasLoaded : s.registry.loaded < s.heap.tables.size) :
    ∃ metatable, Stands (openStrings s).registry.strings metatable (openStrings s) ∧
      metatable.get Event.tostring = .nil := by
  let library := openLibrary "string" stringFields s
  have size : library.2.heap.tables.size = s.heap.tables.size + 1 := by
    simp [library, openLibrary, makeTable, putField, Store.newTable, Store.modifyTable]
  have loaded : library.2.registry.loaded < library.2.heap.tables.size := by
    rw [size]
    exact Nat.lt_succ_of_lt hasLoaded
  refine ⟨_, Stands.congr (stands_makeTable (hasGlobals_openLibrary hasGlobals _ _) loaded
    (stringOperators ++ [("__index", .table s.heap.tables.size)])) rfl rfl rfl, ?_⟩
  refine get_tableOf_of_absent fun field isField same => ?_
  have isName := List.mem_map_of_mem (f := Prod.fst) isField
  rw [List.map_append, same] at isName
  change _ ∈ stringOperators.map Prod.fst ++ ["__index"] at isName
  exact absurd isName (by decide)

/-- In a new session strings have no text of their own. -/
theorem metafield_tostring_makeScope (bytes : Bytes) :
    (Session.makeScope (openLibraries .safe {})).metafield (.str bytes) Event.tostring = .nil := by
  obtain ⟨metatable, strings, get⟩ := exists_strings_openStrings (s := openBase {})
    (hasGlobals_openBase {}) (by decide)
  have core : Stands _ metatable (openCore {}) :=
    List.foldlRecOn _ _ strings fun _ strings library _ => strings.openLibrary library.1 library.2
  have made : Stands _ metatable (Session.makeScope (openLibraries .safe {})) :=
    ((core.openLibrary "os" systemFields).openFiles.openPackages).makeScope
  have ref : (Session.makeScope (openLibraries .safe {})).registry.strings =
      (openStrings (openBase {})).registry.strings := rfl
  simp only [Store.metafield, Store.metatable?, ref, made.table, get]

end Library.Opening
end LuaSession
