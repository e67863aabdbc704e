import LuaSession.Proofs.Bootstrap.Running
import LuaSession.Proofs.Host.Opening
import LuaSession.Proofs.Session.Assigning

/-!
# Redirected sessions

Opening a session with all libraries redirects its output, unless there is no memory for
calling the first script. Nothing waits then, and the variables of the functions that the
first script has made hold what it has put there.
-/

namespace LuaSession

open LuaSession.Script LuaSession.Library LuaSession.Machine

namespace Bootstrap

/-- The store that the first script has left. -/
def redirected (places : Places) (s : Store) (charge : Nat) : Store :=
  (running (redirect places s) (variablesOf places.adapter) [printer, chooser, writer, refuser]
    charge).withFrame s.frame

/-- A new session finds everything where it looks for it. -/
theorem exists_findsAll (limit : Option Nat) : ∃ places, FindsAll places (start .safe limit) ∧
    (start .safe limit).heap.resources[places.adapter]? = some .adapter := by
  obtain ⟨tables, basics⟩ := exists_finds limit .safe
  obtain ⟨io, os, files⟩ := exists_findsFiles limit
  exact ⟨⟨tables, io, os, 3⟩, ⟨basics, files, rfl⟩, rfl⟩

variable {settings : Settings} {outcome : Outcome Unit}

section Loading

variable {s : Store} (cells : s.heap.cells = #[]) (closures : s.heap.closures = #[])

include cells closures

/-- The first variables and functions of a session are those of the first script. -/
theorem loadedStore_beginning (charge : Nat) :
    ((Session.beginning s).loadedStore script charge).withFrame
        ((Session.beginning s).scriptFrame script) = running s [] [] charge := by
  have store : (Session.beginning s).store = s := rfl
  have scope : (Session.beginning s).setting.scope = s.scope := rfl
  simp only [Session.loadedStore, Session.scriptFrame, store, cells, closures, scope]
  rfl

/-- The first script of a session is loaded, and begins if there is memory. -/
theorem first_loads :
    ∃ charge, (Session.beginning s).interpreter.perform
          (Hosted.loadForHost (Session.beginning s).setting text.toUTF8) =
        (.ok (.ok (.closure 0)), { (Session.beginning s).interpreter with
          store := (Session.beginning s).loadedStore script charge }) ∧
      ∀ after, checkMemory (Session.beginning s).protecting
          ((Session.beginning s).loadedStore script charge) =
            (true, (Session.beginning s).loadedStore script after) →
        Session.called #[default] ((Session.beginning s).loadedStore script charge) 0 =
          ((Session.beginning s).running script,
            runBody script (running s [] [] after)) := by
  have plain : s!"={chunkName}".toUTF8.toList.findIdx? (· == 0) = none := by decide +kernel
  have isText : text.toUTF8.toList.head? ≠ some 0x1B := by
    rw [head_text]
    decide
  have shown : Syntax.shownName s!"={chunkName}".toUTF8 = chunkName.toUTF8 := by decide +kernel
  have read := readScript_text
  rw [← shown] at read
  have none : (Session.beginning s).store.heap.closures.size = 0 := congrArg Array.size closures
  obtain ⟨charge, loaded, begins⟩ := @Session.exists_loads (Session.beginning s) text script plain
    isText read rfl (by decide)
  rw [none] at loaded begins
  refine ⟨charge, loaded, fun after memory => ?_⟩
  rw [← loadedStore_beginning cells closures]
  exact begins after memory

end Loading

/-- The first script's function comes to its end, if there is memory for calling it. -/
theorem first_stops {s loaded final : Store} {charge : Nat}
    (runs : runBody script (running s [] [] charge) = .done .fell final)
    (begins : Session.called #[default] loaded 0 =
      ((Session.beginning s).running script, runBody script (running s [] [] charge))) :
    ∃ machine, machine.threads = #[default] ∧
      Stops { threads := #[default] } (.ask (Session.scriptCall (.closure 0)) loaded ends)
        (.returned #[], machine, final.withFrame s.frame) := by
  rw [runs] at begins
  -- The script returns, then the protected call.
  exact ⟨_, rfl, .next rfl begins (.later rfl (.later rfl (.now rfl)))⟩

/-- Without memory for calling it, the failure is caught. -/
theorem first_caught {s : Store} {charge after : Nat}
    (noMemory : checkMemory (Session.beginning s).protecting
      ((Session.beginning s).loadedStore script charge) =
        (false, (Session.beginning s).loadedStore script after)) :
    ∃ value machine final,
      Stops { threads := #[default] } (.ask (Session.scriptCall (.closure 0))
        ((Session.beginning s).loadedStore script charge) ends)
        (.caught value true, machine, final) := by
  have fails : Session.called #[default] ((Session.beginning s).loadedStore script charge) 0 =
      ((Session.beginning s).protecting,
        .fail .memory ((Session.beginning s).loadedStore script after)) := by
    change call (Session.beginning s).protecting (.closure 0) #[] { kind := .library } ends _ = _
    rw [call, noMemory]
    rfl
  exact ⟨_, _, _, .next rfl fails (.later rfl (.now rfl))⟩

variable {settings : Settings} {outcome : Outcome Unit}

/-- The first script comes to its end, or there is no memory for calling it. -/
theorem perform_first {s : Store} {P : Store → Prop} (cells : s.heap.cells = #[])
    (closures : s.heap.closures = #[])
    (runs : ∀ charge, ∃ final, P final ∧
      runBody script (running s [] [] charge) = .done .fell final) :
    (∃ final, P final ∧ (Session.beginning s).interpreter.perform
        (Hosted.runScript (Session.beginning s).setting text.toUTF8) =
      (.ok none, { store := final.withFrame s.frame })) ∨
    s.limit ≠ none ∧ ∃ ending after, (Session.beginning s).interpreter.perform
        (Hosted.runScript (Session.beginning s).setting text.toUTF8) = (.ok (some ending), after) := by
  obtain ⟨charge, loaded, begins⟩ := first_loads cells closures
  cases hasMemory : (checkMemory (Session.beginning s).protecting
      ((Session.beginning s).loadedStore script charge)).1 with
  | false =>
      obtain ⟨after, noMemory⟩ := Session.exists_checkMemory_eq hasMemory
      obtain ⟨value, machine, final, stops⟩ := first_caught noMemory
      refine .inr ⟨fun unlimited => ?_, _, _, Session.perform_runScript loaded stops⟩
      have same : ((Session.beginning s).loadedStore script charge).limit = none := unlimited
      rw [checkMemory_of_unlimited same] at hasMemory
      cases hasMemory
  | true =>
      obtain ⟨after, memory⟩ := Session.exists_checkMemory_eq hasMemory
      obtain ⟨final, holds, ran⟩ := runs after
      obtain ⟨machine, threads, stops⟩ := first_stops ran (begins after memory)
      refine .inl ⟨final, holds, (Session.perform_runScript loaded stops).trans ?_⟩
      rw [threads]

/-- Opening a session with all libraries: it is redirected, or memory is limited. -/
theorem open_cases (safe : settings.libraries = .safe) {store : Store}
    (opened : Session.openStore settings = .ok store) :
    store = start .safe settings.memoryLimit ∧ ∃ places, FindsAll places store ∧
      store.heap.resources[places.adapter]? = some .adapter ∧
      ((∃ charge, Session.open settings = .ok
        { value := (), messages := (redirected places store charge).world.emitted.toList.map Emission.text
          session := Session.begun settings store.scope none
            { store := (redirected places store charge).delivered } }) ∨
      settings.memoryLimit ≠ none ∧ ∃ outcome, Session.open settings = .ok outcome ∧
        outcome.session.isRedirected = false) := by
  have isStart : store = start .safe settings.memoryLimit := by
    rw [Session.openStore_eq opened, safe, start]
  obtain ⟨places, finds, adapter⟩ := exists_findsAll settings.memoryLimit
  rw [← isStart] at finds adapter
  have cells : store.heap.cells = #[] := by
    rw [isStart]
    rfl
  have closures : store.heap.closures = #[] := by
    rw [isStart]
    rfl
  refine ⟨isStart, places, finds, adapter, ?_⟩
  obtain ⟨_, ⟨charge, rfl⟩, performed⟩ | ⟨limited, ending, after, performed⟩ :=
    perform_first (P := fun final => ∃ charge, final = running (redirect places store)
      (variablesOf places.adapter) [printer, chooser, writer, refuser] charge) cells closures
      fun _ => (runBody_script finds).elim fun charge runs => ⟨_, ⟨charge, rfl⟩, runs⟩
  · exact .inl ⟨charge, Session.create_of_performed opened performed⟩
  · refine .inr ⟨fun unlimited => limited ?_, _, Session.create_of_performed opened performed, rfl⟩
    rw [isStart]
    exact unlimited

/-- A session with all libraries that is redirected, as it has been opened. -/
theorem open_redirected (safe : settings.libraries = .safe)
    (opened : Session.open settings = .ok outcome) (redirects : outcome.session.isRedirected = true) :
    ∃ places charge, FindsAll places (start .safe settings.memoryLimit) ∧
      (start .safe settings.memoryLimit).heap.resources[places.adapter]? = some .adapter ∧
      outcome.session.interpreter =
        { store := (redirected places (start .safe settings.memoryLimit) charge).delivered } ∧
      outcome.session.setting.scope = (start .safe settings.memoryLimit).scope := by
  cases made : Session.openStore settings with
  | error error =>
      rw [Session.open, Session.create, made] at opened
      cases opened
  | ok store =>
      obtain ⟨isStart, places, finds, adapter, ⟨charge, isOpen⟩ | ⟨_, other, isOpen, direct⟩⟩ :=
        open_cases safe made
      · cases opened.symm.trans isOpen
        rw [← isStart]
        exact ⟨places, charge, finds, adapter, rfl, rfl⟩
      · cases opened.symm.trans isOpen
        rw [direct] at redirects
        cases redirects

end Bootstrap

end LuaSession
