import LuaSession.Proofs.Bootstrap.Redirecting

/-!
# Sessions that only compute

Where the libraries of files and of the operating system are missing, the first script
redirects `print` and nothing else. With all libraries or without those, it says nothing.
-/

namespace LuaSession

open LuaSession.Script LuaSession.Library LuaSession.Library.Opening LuaSession.Machine

/-- What no library puts among the globals is missing there. -/
theorem Library.Opening.binds_nil_openBase {name : String} (s : Store)
    (absent : ∀ field ∈ baseFields, field.1 ≠ name) (differs : "_G" ≠ name) :
    Binds name .nil (openBase s) := by
  have version : Binds "_VERSION" _ _ := binds_baseFields s rfl
  have made : (s.newTable (tableOf baseFields)).2.table s.heap.tables.size =
      tableOf baseFields := by
    simp [Store.table, Store.newTable]
  have missing : Binds name .nil { (makeTable baseFields s).2 with
      registry := { s.registry with globals := s.heap.tables.size } } :=
    ⟨version.hasGlobals, version.sound, version.plain,
      (congrArg (·.get (.ofString name)) made).trans (get_tableOf_of_absent absent)⟩
  exact Binds.congr (((missing.putField _ differs _).newTable _).newTable _) rfl rfl

namespace Bootstrap

/-- What the first script finds where two libraries are missing. -/
structure FindsCore (tables adapter : Nat) (s : Store) : Prop where
  basics : Finds tables s
  adapter : s.lastAssigned? outputBinding.toUTF8 = some (.handle adapter)
  noFiles : Binds "io" .nil s
  noSystem : Binds "os" .nil s

theorem exists_findsCore (limit : Option Nat) :
    ∃ tables adapter, FindsCore tables adapter (start .core limit) ∧
      (start .core limit).heap.resources[adapter]? = some .adapter := by
  obtain ⟨tables, basics⟩ := exists_finds limit .core
  have missing {name : String} (absent : ∀ field ∈ baseFields, field.1 ≠ name)
      (differs : "_G" ≠ name) (others : name ∉ Binds.coreNames) :
      Binds name .nil (start .core limit) :=
    ((binds_nil_openBase { limit } absent differs).openCore others).makeScope
  refine ⟨tables, 0, ⟨basics, rfl, ?_, ?_⟩, rfl⟩
  · exact missing (by decide) (by decide) (by decide)
  · exact missing (by decide) (by decide) (by decide)

variable {tables adapter : Nat} {s : Store} {charge : Nat}

/-- A conditional statement without a condition that holds does nothing. -/
theorem exec_missing {name : String} {line : Nat} {body : List Stmt} {values : List Value}
    {closures : List Closure} (scene : Scene s) (missing : Binds name .nil s)
    (other : name ≠ outputBinding) :
    exec (.branch [.mk (global name line) false body]) (running s values closures charge) =
      .done .fell (running s values closures charge) :=
  (Run.exec_branch_of_not_truthy (eval_global scene missing other line) rfl).trans rfl

/-- Where two libraries are missing, the first script ends when it has redirected `print`. -/
theorem runBody_script_core (finds : FindsCore tables adapter s) :
    ∃ after, runBody script (running s [] [] charge) =
      .done .fell (running (redirectPrint s) (printing adapter) [printer] after) := by
  have self := finds.basics.globals
  have printed : Scene (redirectPrint s) := finds.basics.toScene.put self "print" (.closure 1)
  have noFiles : Binds "io" .nil (redirectPrint s) := finds.noFiles.put _ (by decide) _
  have noSystem : Binds "os" .nil (redirectPrint s) := finds.noSystem.put _ (by decide) _
  obtain ⟨after, print⟩ := execBlock_redirectPrint charge finds.basics finds.adapter
    [ .branch [.mk (global "io" 13) false redirectFiles],
      .branch [.mk (global "os" 34) false
        [.assign [globalField "os" "exit" 35 0] [.function exit] 37]] ]
  refine ⟨after, ?_⟩
  rw [script, runBody, print,
    Run.execBlock_of_fell (by simp) (exec_missing printed noFiles (by decide)),
    Run.execBlock_of_fell (by simp) (exec_missing printed noSystem (by decide))]
  rfl

/-- The store that the first script has left where two libraries are missing. -/
def redirectedCore (adapter : Nat) (s : Store) (charge : Nat) : Store :=
  (running (redirectPrint s) (printing adapter) [printer] charge).withFrame s.frame

variable {settings : Settings} {outcome : Outcome Unit}

/-- Opening a session that only computes: it is redirected, or memory is limited. -/
theorem open_cases_core (core : settings.libraries = .core) {store : Store}
    (opened : Session.openStore settings = .ok store) :
    store = start .core settings.memoryLimit ∧ ∃ tables adapter, FindsCore tables adapter store ∧
      store.heap.resources[adapter]? = some .adapter ∧
      ((∃ charge, Session.open settings = .ok
        { value := ()
          messages := (redirectedCore adapter store charge).world.emitted.toList.map Emission.text
          session := Session.begun settings store.scope none
            { store := (redirectedCore adapter store charge).delivered } }) ∨
      settings.memoryLimit ≠ none ∧ ∃ outcome, Session.open settings = .ok outcome ∧
        outcome.session.isRedirected = false) := by
  have isStart : store = start .core settings.memoryLimit := by
    rw [Session.openStore_eq opened, core, start]
  obtain ⟨tables, adapter, finds, isAdapter⟩ := exists_findsCore settings.memoryLimit
  rw [← isStart] at finds isAdapter
  have cells : store.heap.cells = #[] := by
    rw [isStart]
    rfl
  have closures : store.heap.closures = #[] := by
    rw [isStart]
    rfl
  refine ⟨isStart, tables, adapter, finds, isAdapter, ?_⟩
  obtain ⟨_, ⟨charge, rfl⟩, performed⟩ | ⟨limited, ending, after, performed⟩ :=
    perform_first (P := fun final => ∃ charge, final = running (redirectPrint store)
      (printing adapter) [printer] charge) cells closures
      fun _ => (runBody_script_core finds).elim fun charge runs => ⟨_, ⟨charge, rfl⟩, runs⟩
  · exact .inl ⟨charge, Session.create_of_performed opened performed⟩
  · refine .inr ⟨fun unlimited => limited ?_, _, Session.create_of_performed opened performed, rfl⟩
    rw [isStart]
    exact unlimited

/-- What the first script has left in a store when output is redirected. -/
inductive Leaves (s : Store) : Store → Prop where
  | all {places : Places} (finds : FindsAll places s)
      (isAdapter : s.heap.resources[places.adapter]? = some .adapter) (charge : Nat) :
      Leaves s (redirected places s charge)
  | core {tables adapter : Nat} (finds : FindsCore tables adapter s)
      (isAdapter : s.heap.resources[adapter]? = some .adapter) (charge : Nat) :
      Leaves s (redirectedCore adapter s charge)

/-- A session that is redirected, as it has been opened. -/
theorem leaves_of_open (opened : Session.open settings = .ok outcome)
    (redirects : outcome.session.isRedirected = true) :
    ∃ store, Leaves (start settings.libraries settings.memoryLimit) store ∧
      outcome.session.interpreter = { store := store.delivered } ∧
      outcome.session.setting.scope = (start settings.libraries settings.memoryLimit).scope ∧
      outcome.messages = store.world.emitted.toList.map Emission.text := by
  cases made : Session.openStore settings with
  | error error =>
      rw [Session.open, Session.create, made] at opened
      cases opened
  | ok store =>
      cases libraries : settings.libraries with
      | core =>
          obtain ⟨isStart, _, adapter, finds, isAdapter, ⟨charge, isOpen⟩ | ⟨_, other, isOpen, direct⟩⟩ :=
            open_cases_core libraries made
          · cases opened.symm.trans isOpen
            rw [← isStart]
            exact ⟨_, .core finds isAdapter charge, rfl, rfl, rfl⟩
          · cases opened.symm.trans isOpen
            rw [direct] at redirects
            cases redirects
      | safe =>
          obtain ⟨isStart, places, finds, isAdapter, ⟨charge, isOpen⟩ | ⟨_, other, isOpen, direct⟩⟩ :=
            open_cases libraries made
          · cases opened.symm.trans isOpen
            rw [← isStart]
            exact ⟨_, .all finds isAdapter charge, rfl, rfl, rfl⟩
          · cases opened.symm.trans isOpen
            rw [direct] at redirects
            cases redirects

end Bootstrap

end LuaSession
