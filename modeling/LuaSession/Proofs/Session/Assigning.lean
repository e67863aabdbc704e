import LuaSession.Proofs.Session.Binding

/-!
# Scripts that number names

A script that does nothing but assign numbers to names, whatever bytes these are made
of, is followed here from its text to what it leaves behind.
-/

namespace LuaSession

open LuaSession.Script LuaSession.Library LuaSession.Machine

/-- What is charged does not matter. -/
theorem Script.Store.Extends.charge {s t : Store} {except : Nat → Prop}
    (extends_ : s.Extends except t) (charge : Nat) : s.Extends except { t with charge } where
  rest := by
    obtain ⟨tables, natives, assigned, charge, rfl⟩ := extends_.rest
    exact ⟨_, _, _, _, rfl⟩
  size := extends_.size
  tables := extends_.tables
  sizeNatives := extends_.sizeNatives
  natives := extends_.natives

/-! ## Scripts that ask for nothing -/

/-- The store with a script loaded: its function, and a cell for the environment. -/
def Session.loadedStore (session : Session) (code : Code) (charge : Nat) : Store :=
  { session.store with
    heap := { session.store.heap with
      cells := session.store.heap.cells.push (.table session.setting.scope)
      closures := session.store.heap.closures.push ⟨code, #[session.store.heap.cells.size]⟩ }
    charge }

/-- The frame that a script runs with. -/
def Session.scriptFrame (session : Session) (code : Code) : Frame :=
  frameOf ⟨code, #[session.store.heap.cells.size]⟩ #[]

/-- The first moment of a script's function, when the host calls it. -/
def Session.called (threads : Array Dormant) (s : Store) (function : Nat) : Next :=
  advance { threads } (.ask (scriptCall (.closure function)) s ends)

/-- The machine in which the function of a script begins. -/
def Session.running (session : Session) (code : Code) : State :=
  ((({ threads := session.interpreter.threads } : State).push (.protect .host true ends {})).push
    (.call ends {} session.store.frame 0)).withActivation
      { isScript := true, nesting := 1
        base := baseOf ⟨code, #[session.store.heap.cells.size]⟩ #[] 1
        barriers := 1, depth := 1 }

/-- The machine in which the host calls a function. -/
def Session.protecting (session : Session) : State :=
  ({ threads := session.interpreter.threads } : State).push (.protect .host true ends {})

section Begins

variable {session : Session} {source : String} {code : Code}
  (plain : s!"={session.setting.chunkName}".toUTF8.toList.findIdx? (· == 0) = none)
  (isText : source.toUTF8.toList.head? ≠ some 0x1B)
  (read : Syntax.readScript (Syntax.shownName s!"={session.setting.chunkName}".toUTF8) 0
    source.toUTF8 = .ok code) (captures : code.info.captures.size = 1)
  (small : code.info.frameSize ≤ 1000)

include plain isText read captures small

/-- A script that is read is loaded, and begins if there is memory. -/
theorem Session.exists_loads : ∃ charge,
    session.interpreter.perform (Hosted.loadForHost session.setting source.toUTF8) =
      (.ok (.ok (.closure session.store.heap.closures.size)),
        { session.interpreter with store := session.loadedStore code charge }) ∧
    ∀ after, checkMemory session.protecting (session.loadedStore code charge) =
        (true, session.loadedStore code after) →
      called session.interpreter.threads (session.loadedStore code charge)
          session.store.heap.closures.size =
        (session.running code,
          runBody code ((session.loadedStore code after).withFrame (session.scriptFrame code))) := by
  obtain ⟨charge, loaded⟩ := session.interpreter.perform_loadForHost_of_read plain isText read
    captures
  have closure (charge : Nat) : (session.loadedStore code charge).closure
      session.store.heap.closures.size = ⟨code, #[session.store.heap.cells.size]⟩ := by
    simp [loadedStore, Store.closure]
  have room {m : State} (notOverflowing : m.overflowing = false) :
      hasRoom m (baseOf ⟨code, #[session.store.heap.cells.size]⟩ #[] 1 + code.info.frameSize) =
        true := by
    have below : baseOf ⟨code, #[session.store.heap.cells.size]⟩ #[] 1 ≤ 2 := by
      rw [baseOf]
      split
      · exact Nat.le_refl _
      · decide
    rw [hasRoom, notOverflowing]
    exact decide_eq_true (show _ ≤ 1000000 by omega)
  refine ⟨charge, loaded, fun after memory => ?_⟩
  exact @call_closure session.protecting { kind := .library } ends _ _ #[] memory
    (show 0 + (0 + 1) < 200 by decide) _ _ (closure after) (room rfl)

variable (unlimited : session.store.limit = none)

include unlimited

/-- A script that is read is loaded and begins. -/
theorem Session.exists_begins : ∃ charge,
    session.interpreter.perform (Hosted.loadForHost session.setting source.toUTF8) =
      (.ok (.ok (.closure session.store.heap.closures.size)),
        { session.interpreter with store := session.loadedStore code charge }) ∧
    called session.interpreter.threads (session.loadedStore code charge)
        session.store.heap.closures.size =
      (session.running code,
        runBody code ((session.loadedStore code charge).withFrame (session.scriptFrame code))) := by
  obtain ⟨charge, loaded, begins⟩ := exists_loads plain isText read captures small
  exact ⟨charge, loaded, begins charge (checkMemory_of_unlimited unlimited)⟩

end Begins

namespace Numbering

/-! ## Reading -/

/-- A statement `_ENV["…"] = 1`. -/
def assignment (name : Bytes) : Stmt :=
  .assign [.free 0 Expr.environment name 0] [.const (.int 1)] 1

/-- What a script of such statements is read as. -/
def script (names : List Bytes) : Code :=
  .mk { chunk := "snippet".toUTF8, line := 0, parameters := 0, isVariadic := true, slots := 0
        frameSize := 2, shared := #[], captures := #[.slot 0] } false (names.map assignment)

/-- The name that a statement numbers, if it does nothing else. -/
def name? : Stmt → Option Bytes
  | .assign [.index (.captured index environment) (.const (.str name)) line] [.const value] other =>
      if index = 0 ∧ environment = Expr.environment ∧ line = 0 ∧ value = .int 1 ∧ other = 1 then
        some name
      else none
  | _ => none

/-- The names that statements number, if they do nothing else. -/
def names? : List Stmt → Option (List Bytes)
  | [] => some []
  | statement :: rest => do return (← name? statement) :: (← names? rest)

/-- The names that a script numbers, if it does nothing else. -/
def numbered? : Code → Option (List Bytes)
  | .mk info labelled body =>
      if info = (script []).info ∧ labelled = false then names? body else none

theorem eq_assignment {statement : Stmt} {name : Bytes} (numbers : name? statement = some name) :
    statement = assignment name := by
  unfold name? at numbers
  split at numbers
  · split_ifs at numbers with same
    obtain ⟨rfl, rfl, rfl, rfl, rfl⟩ := same
    rw [← Option.some.inj numbers]
    rfl
  · cases numbers

theorem eq_assignments {body : List Stmt} {names : List Bytes} (numbers : names? body = some names) :
    body = names.map assignment := by
  induction body generalizing names with
  | nil =>
      cases numbers
      rfl
  | cons statement body ih =>
      obtain ⟨name, first, numbers⟩ := Option.bind_eq_some_iff.mp numbers
      obtain ⟨rest, others, numbers⟩ := Option.bind_eq_some_iff.mp numbers
      cases numbers
      rw [List.map_cons, ← ih others, ← eq_assignment first]

theorem eq_script {code : Code} {names : List Bytes} (numbers : numbered? code = some names) :
    code = script names := by
  obtain ⟨info, labelled, body⟩ := code
  simp only [numbered?] at numbers
  split_ifs at numbers with same
  obtain ⟨rfl, rfl⟩ := same
  rw [eq_assignments numbers]
  rfl

/-! ## Running -/

/-- A store after numbers have been assigned to names of the scope. -/
structure Numbers (s : Store) (names : List Bytes) (t : Store) : Prop where
  extends_ : s.Extends (· = s.scope) t
  metatable : (t.table s.scope).metatable = (s.table s.scope).metatable
  assigned : t.assigned =
    (names.map fun name => { key := .str name, value := .int 1 : Pair }).reverse ++ s.assigned

variable {s t : Store} {done : List Bytes}

namespace Numbers

theorem refl (s : Store) : Numbers s [] s := ⟨.refl _ _, rfl, rfl⟩

variable (numbers : Numbers s done t)

include numbers

theorem scope : t.scope = s.scope := by
  obtain ⟨tables, natives, assigned, charge, rfl⟩ := numbers.extends_.rest
  rfl

theorem frame : t.frame = s.frame := by
  obtain ⟨tables, natives, assigned, charge, rfl⟩ := numbers.extends_.rest
  rfl

theorem cell (ref : Nat) : t.cell ref = s.cell ref := by
  obtain ⟨tables, natives, assigned, charge, rfl⟩ := numbers.extends_.rest
  rfl

/-- The scope falls back on the globals as before. -/
theorem fallsBack (fallsBack : s.FallsBack) : t.FallsBack := by
  obtain ⟨ref, inside, apart, isMetatable, isFallback⟩ := fallsBack.exists_apart
  refine ⟨ref, ?_, ?_⟩
  · rw [numbers.scope, numbers.metatable, isMetatable]
  · rw [numbers.extends_.tables ref inside apart, isFallback, numbers.extends_.registry]

/-- One name more gets a number. -/
theorem put (inHeap : s.scope < s.heap.tables.size) (name : Bytes) (charge : Nat) :
    Numbers s (done ++ [name]) { t.put t.scope (.str name) (.int 1) with charge } where
  extends_ := by
    rw [numbers.scope]
    exact (numbers.extends_.put rfl _ _).charge charge
  metatable := by
    have inside : t.scope < t.heap.tables.size := by
      rw [numbers.scope]
      exact Nat.lt_of_lt_of_le inHeap numbers.extends_.size
    rw [← numbers.metatable, ← numbers.scope]
    exact (congrArg Table.metatable (Store.table_put_self inside _ _)).trans
      (Table.metatable_set _ _ _)
  assigned := by
    change (t.put t.scope (.str name) (.int 1)).assigned = _
    rw [Store.assigned_put, if_pos rfl, numbers.assigned, List.map_append, List.reverse_append]
    rfl

end Numbers

/-- Names that have numbers, and others that have what they had. -/
def Gives (names : List Bytes) (s t : Store) : Prop :=
  (∀ name ∈ names, t.lastAssigned? name = some (.int 1)) ∧
    ∀ name ∉ names, t.lastAssigned? name = s.lastAssigned? name

theorem Numbers.gives {names : List Bytes} (numbers : Numbers s names t) : Gives names s t := by
  have last (name : Bytes) : t.lastAssigned? name =
      (((names.map fun name => { key := .str name, value := .int 1 : Pair }).reverse.find?
        fun pair => pair.key == .str name).or
          (s.assigned.find? fun pair => pair.key == .str name)).map Pair.value := by
    rw [Store.lastAssigned?, numbers.assigned, List.find?_append]
  refine ⟨fun name isMember => ?_, fun name other => ?_⟩
  · rw [last]
    cases found : (names.map fun name => { key := .str name, value := .int 1 : Pair }).reverse.find?
        fun pair => pair.key == .str name with
    | none =>
        have isPair := List.mem_reverse.mpr
          (List.mem_map_of_mem (f := fun name => { key := .str name, value := .int 1 : Pair })
            isMember)
        exact absurd (beq_self_eq_true (Value.str name)) (List.find?_eq_none.mp found _ isPair)
    | some pair =>
        have isPair := List.mem_reverse.mp (List.mem_of_find?_eq_some found)
        obtain ⟨_, _, rfl⟩ := List.mem_map.mp isPair
        rfl
  · have none : (names.map fun name => { key := .str name, value := .int 1 : Pair }).reverse.find?
        (fun pair => pair.key == .str name) = none := by
      refine List.find?_eq_none.mpr fun pair isPair => ?_
      obtain ⟨numbered, isMember, rfl⟩ := List.mem_map.mp (List.mem_reverse.mp isPair)
      rw [beq_iff_eq]
      rintro ⟨rfl⟩
      exact other isMember
    rw [last, none]
    rfl

end Numbering
end LuaSession
