import LuaSession.Proofs.Script.Listing
import LuaSession.Proofs.Script.Sameness
import LuaSession.Proofs.Session.Metatables
import LuaSession.Proofs.Text.Encoding

/-!
# Inspecting a session

The host inspects a session: it lists the names, asks whether a name is bound, and
reads what a name stands for. Listing and asking look at the scope itself, and nothing
happens. Reading goes through metatables, as it does for scripts: nothing happens as
long as it comes by no function, and a script that has put one there has it called.
-/

namespace LuaSession

open LuaSession.Script LuaSession.Library

namespace Session

variable {session : Session} {name : String}

theorem contains_eq (session : Session) (name : String) :
    session.contains name = !(session.scopeTable.get (.ofString name)).isNil := rfl

/-- Texts as they are listed. -/
def listed (names : List Bytes) : List String :=
  ((names.map Utf8.lossy).filter (· != Bootstrap.outputBinding)).mergeSort
    fun a b => !decide (b < a)

theorem names_eq (session : Session) :
    session.names = listed session.scopeTable.boundNames := by
  rw [listed, Table.boundNames, List.map_filterMap]
  refine congrArg (fun texts => (texts.filter (· != Bootstrap.outputBinding)).mergeSort
    fun a b => !decide (b < a)) (List.filterMap_congr fun pair _ => ?_)
  obtain ⟨key, value⟩ := pair
  cases key <;> rfl

/-- The scope that the host has is sound. -/
theorem IsSound.scopeTable (sound : session.IsSound) : session.scopeTable.Sound := by
  rw [Session.scopeTable, sound.scope]
  exact sound.remembers.sound

end Session

/-! ## A new session -/

namespace Session

variable {session : Session}

/-- A session of a name whose first script has done nothing. -/
structure IsFresh (session : Session) (chunkName : String) : Prop where
  reached : session.Reached
  named : session.setting.chunkName = chunkName
  fallsBack : session.store.FallsBack
  unlimited : session.store.limit = none
  unbound : ∀ key, key ≠ Bootstrap.outputBinding.toUTF8 → session.store.lastAssigned? key = none
  setmetatable : (session.store.table session.store.registry.globals).get
    (.ofString "setmetatable") = .builtin (.base .setmetatable)
  error : (session.store.table session.store.registry.globals).get (.ofString "error") =
    .builtin (.base .error)
  strings : ∀ bytes, session.store.metafield (.str bytes) Event.tostring = .nil

/-- How scripts are named when they are loaded and when they are shown. -/
theorem IsFresh.plain (fresh : session.IsFresh "snippet") :
    s!"={session.setting.chunkName}".toUTF8.toList.findIdx? (· == 0) = none ∧
      Syntax.shownName s!"={session.setting.chunkName}".toUTF8 = "snippet".toUTF8 := by
  rw [fresh.named]
  constructor
  · rw [Utf8.toList_toUTF8]
    decide
  · decide +kernel

/-- There are new sessions: a first script that cannot be loaded does nothing. -/
theorem exists_fresh (chunkName : String) :
    ∃ outcome, create { chunkName } "\x1b" = .ok outcome ∧ outcome.session.IsFresh chunkName := by
  have opened : openStore { chunkName } = .ok (makeScope (openLibraries .safe {})) := rfl
  have setmetatable : Opening.Binds "setmetatable" (.builtin (.base .setmetatable))
      (makeScope (openLibraries .safe {})) :=
    ((Opening.binds_openBase {} (by decide) (by decide)).openLibraries .safe (by decide)).makeScope
  have error : Opening.Binds "error" (.builtin (.base .error))
      (makeScope (openLibraries .safe {})) :=
    ((Opening.binds_openBase {} (by decide) (by decide)).openLibraries .safe (by decide)).makeScope
  have strings := Opening.metafield_tostring_makeScope
  obtain ⟨fallsBack, remembers, adapter, assigned⟩ := openStore_spec opened
  generalize started : makeScope (openLibraries .safe {}) = start at *
  have unlimited : start.limit = none := started ▸ rfl
  obtain ⟨failure, loaded⟩ := Host.loadForHost_escape { store := start } start.scope
  have begins : (beginning start).Ends "\x1b" (some (.failed failure))
      (Interpreter.store { store := start }) := .notLoaded loaded
  obtain ⟨threads, created⟩ := create_eq_begun opened begins
  refine ⟨_, created, .intro opened begins created .refl, rfl, fallsBack, unlimited,
    fun key other => ?_, setmetatable.get, error.get, strings⟩
  refine (Store.lastAssigned?_cons (s := {}) assigned _).trans (if_neg ?_)
  simpa [Value.ofString] using Ne.symm other

end Session

/-! ## A session that has been tampered with

The script below has a function called for every name that is not bound. -/

/-- What is recognized in a script that has been read is the script. -/
theorem Syntax.readScript_eq_of_recognized {chunk source : Bytes} {script : Code}
    {recognizes : Code → Bool} (exact : ∀ {code}, recognizes code = true → code = script)
    (recognized : (readScript chunk 0 source).toOption.map recognizes = some true) :
    readScript chunk 0 source = .ok script := by
  cases result : readScript chunk 0 source with
  | error trouble =>
      rw [result] at recognized
      cases recognized
  | ok code =>
      rw [result] at recognized
      rw [exact (Option.some.inj recognized)]

namespace Snare

/-- A function that assigns `y`. -/
def assigner : Code :=
  .mk { chunk := "snippet".toUTF8, line := 1, parameters := 0, isVariadic := false, slots := 0
        frameSize := 2, shared := #[], captures := #[.captured 0] } false
    [.assign [.free 0 Expr.environment "y".toUTF8 0] [.const (.int 1)] 1]

/-- It is called for names that are not bound. -/
def assigning : Snare where
  chunk := "snippet".toUTF8
  event := "__index".toUTF8
  handler := assigner
  captures := rfl
  noFinalizer := by decide

def source : String := "setmetatable(_ENV, \x7b__index = function() y = 1 end\x7d)"

/-- Is a function the one that assigns `y`? -/
def isAssigner : Code → Bool
  | .mk info labelled
      [.assign [.index (.captured index environment) (.const key) line] [.const value] other] =>
      info = assigner.info && labelled = false && index = 0 && environment = Expr.environment &&
        key = .ofString "y" && line = 0 && value = .int 1 && other = 1
  | _ => false

theorem eq_assigner {code : Code} (is : isAssigner code = true) : code = assigner := by
  unfold isAssigner at is
  split at is
  · simp only [Bool.and_eq_true, decide_eq_true_eq] at is
    obtain ⟨⟨⟨⟨⟨⟨⟨rfl, rfl⟩, rfl⟩, rfl⟩, rfl⟩, rfl⟩, rfl⟩, rfl⟩ := is
    rfl
  · cases is

/-- Is a script the one with that function? -/
def isAssigning : Code → Bool
  | .mk info labelled
      [.run (.call (.index (.captured index environment) (.const key) line)
        [.captured again scope, .table [.keyed (.const field) (.function code) place]]
          other room)] =>
      info = assigning.script.info && labelled = false && index = 0 &&
        environment = Expr.environment && key = .ofString "setmetatable" && line = 1 &&
        again = 0 && scope = Expr.environment && field = .ofString "__index" && place = 1 &&
        other = 1 && room = 0 && isAssigner code
  | _ => false

theorem eq_assigning {code : Code} (is : isAssigning code = true) : code = assigning.script := by
  unfold isAssigning at is
  split at is
  · simp only [Bool.and_eq_true, decide_eq_true_eq] at is
    obtain ⟨⟨⟨⟨⟨⟨⟨⟨⟨⟨⟨⟨rfl, rfl⟩, rfl⟩, rfl⟩, rfl⟩, rfl⟩, rfl⟩, rfl⟩, rfl⟩, rfl⟩, rfl⟩, rfl⟩, is⟩ := is
    rw [eq_assigner is]
    rfl
  · cases is

theorem read_source :
    Syntax.readScript "snippet".toUTF8 0 source.toUTF8 = .ok assigning.script :=
  Syntax.readScript_eq_of_recognized eq_assigning (by decide +kernel)

/-- The store when `y` has been assigned. -/
def bound (s : Store) (charge : Nat) : Store :=
  { s.modifyTable s.scope (·.set (.ofString "y") (.int 1)) with
    assigned := ⟨.ofString "y", .int 1⟩ :: s.assigned
    charge }

variable {session : Session} {name : String} {s : Store} {ref cell : Nat}

end Snare

namespace Session

end Session

end LuaSession
