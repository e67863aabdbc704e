import LuaSession.Proofs.Script.FreeNames
import LuaSession.Session

/-!
# The scope that a session begins with

Opening the libraries makes the table of globals; the scope is made after them, so
it is another table. It has the adapter in it, and falls back on the globals.
-/

namespace LuaSession

open LuaSession.Script LuaSession.Library

/-- The table of globals is there. -/
def Script.Store.HasGlobals (s : Store) : Prop := s.registry.globals < s.heap.tables.size

namespace Library.Opening

open Script.Store (HasGlobals)

/-- Opening more libraries leaves the globals where they are. -/
theorem HasGlobals.mono {s t : Store} (more : Nat) (has : s.HasGlobals)
    (globals : t.registry.globals = s.registry.globals)
    (size : t.heap.tables.size = s.heap.tables.size + more) : t.HasGlobals := by
  rw [HasGlobals, globals, size]
  exact Nat.lt_add_right more has

theorem hasGlobals_openLibrary {s : Store} (has : s.HasGlobals) (name : String)
    (fields : Fields) : (openLibrary name fields s).2.HasGlobals :=
  HasGlobals.mono 1 has rfl <| by
    simp [openLibrary, makeTable, putField, Store.newTable, Store.modifyTable]

theorem hasGlobals_openBase (s : Store) : (openBase s).HasGlobals := by
  have size : (openBase s).heap.tables.size = s.heap.tables.size + 3 := by
    simp [openBase, makeTable, putField, Store.newTable, Store.modifyTable]
  rw [HasGlobals, size]
  exact Nat.lt_add_of_pos_right (by decide)

theorem hasGlobals_openStrings {s : Store} (has : s.HasGlobals) : (openStrings s).HasGlobals :=
  HasGlobals.mono 2 has rfl <| by
    simp [openStrings, openLibrary, makeTable, putField, Store.newTable, Store.modifyTable]

theorem hasGlobals_openFiles {s : Store} (has : s.HasGlobals) : (openFiles s).HasGlobals :=
  HasGlobals.mono 3 has rfl <| by
    simp [openFiles, openLibrary, makeTable, putField, Store.newTable, Store.modifyTable,
      Store.newResource]

theorem hasGlobals_openPackages {s : Store} (has : s.HasGlobals) : (openPackages s).HasGlobals :=
  HasGlobals.mono 2 has rfl <| by
    simp [openPackages, openLibrary, makeTable, putField, Store.newTable, Store.modifyTable]

theorem hasGlobals_openCore (s : Store) : (openCore s).HasGlobals :=
  List.foldlRecOn _ _ (hasGlobals_openStrings (hasGlobals_openBase s)) fun _ has library _ =>
    hasGlobals_openLibrary has library.1 library.2

theorem hasGlobals_openLibraries (libraries : Libraries) (s : Store) :
    (openLibraries libraries s).HasGlobals := by
  cases libraries with
  | core => exact hasGlobals_openCore s
  | safe =>
      exact hasGlobals_openPackages <| hasGlobals_openFiles <|
        hasGlobals_openLibrary (hasGlobals_openCore s) _ _

end Library.Opening

namespace Session

/-- The scope is made anew, apart from all tables that there were, with the adapter
in it. -/
theorem makeScope_spec (s : Store) :
    (makeScope s).scope = s.heap.tables.size + 1 ∧
      (makeScope s).registry = s.registry ∧
      (makeScope s).heap.tables.size = s.heap.tables.size + 2 ∧
      (makeScope s).table s.heap.tables.size = Store.fallback s.registry.globals ∧
      (makeScope s).table (s.heap.tables.size + 1) =
        { ({} : Table).setString Bootstrap.outputBinding (.handle s.heap.resources.size) with
          metatable := some s.heap.tables.size } := by
  refine ⟨?_, rfl, ?_, ?_, ?_⟩
  · simp [makeScope, Opening.makeTable, Store.newTable, Store.newResource]
  · simp [makeScope, Opening.makeTable, Store.newTable, Store.newResource, Store.modifyTable]
  · simp only [makeScope, Opening.makeTable, Store.newTable, Store.newResource,
      Store.modifyTable, Store.table, Array.getD_eq_getD_getElem?, Array.getElem?_modify,
      Array.getElem?_push, Array.size_push]
    simp [Store.fallback]
  · simp only [makeScope, Opening.makeTable, Store.newTable, Store.newResource,
      Store.modifyTable, Store.table, Array.getD_eq_getD_getElem?, Array.getElem?_modify,
      Array.getElem?_push, Array.size_push]
    simp

theorem assigned_makeScope (s : Store) :
    (makeScope s).assigned =
      [⟨.ofString Bootstrap.outputBinding, .handle s.heap.resources.size⟩] :=
  rfl

theorem fallsBack_makeScope (s : Store) : (makeScope s).FallsBack := by
  obtain ⟨scope, registry, _, fallback, table⟩ := makeScope_spec s
  refine ⟨s.heap.tables.size, ?_, ?_⟩
  · rw [scope, table]
  · rw [fallback, registry]

theorem remembers_makeScope {s : Store} (has : s.HasGlobals) : (makeScope s).Remembers := by
  obtain ⟨scope, registry, size, _, table⟩ := makeScope_spec s
  have sound := Table.sound_empty.set (.ofString Bootstrap.outputBinding)
    (.handle s.heap.resources.size)
  refine ⟨?_, ?_, ?_, fun name => ?_⟩
  · rw [scope, size]
    exact Nat.lt_succ_self _
  · rw [scope, registry]
    exact Nat.ne_of_lt (Nat.lt_succ_of_lt has)
  · rw [scope, table]
    exact sound.congr rfl rfl
  · rw [scope, table, Store.lastAssigned?_cons (s := {}) (assigned_makeScope s)]
    change (Table.set {} _ _).get (.str name) = _
    rw [Table.get_set Table.sound_empty, Table.get_str {}, Table.getPair_of_index_none (by simp)]
    dsimp only
    split <;> rfl

/-- A session is opened with the scope made after its libraries. -/
theorem openStore_eq {settings : Settings} {start : Store}
    (opened : openStore settings = .ok start) :
    start = makeScope
      (Library.openLibraries settings.libraries { limit := settings.memoryLimit }) := by
  rw [openStore] at opened
  split at opened
  · split at opened
    · cases opened
    · exact (Except.ok.inj opened).symm
  · exact (Except.ok.inj opened).symm

/-- What holds of the store with which a session is opened. -/
theorem openStore_spec {settings : Settings} {start : Store}
    (opened : openStore settings = .ok start) :
    start.FallsBack ∧ start.Remembers ∧
      ∃ adapter, start.assigned = [⟨.ofString Bootstrap.outputBinding, .handle adapter⟩] := by
  rw [openStore_eq opened]
  exact ⟨fallsBack_makeScope _, remembers_makeScope (Opening.hasGlobals_openLibraries _ _), _,
    assigned_makeScope _⟩

theorem hasGlobals_openStore {settings : Settings} {start : Store}
    (opened : openStore settings = .ok start) : start.HasGlobals := by
  rw [openStore_eq opened]
  obtain ⟨_, registry, size, _⟩ := makeScope_spec
    (Library.openLibraries settings.libraries { limit := settings.memoryLimit })
  exact Opening.HasGlobals.mono 2 (Opening.hasGlobals_openLibraries _ _)
    (congrArg _ registry) size

end Session

end LuaSession
