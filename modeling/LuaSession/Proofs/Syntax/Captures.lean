import LuaSession.Proofs.Syntax.Judgement
import Mathlib.Data.List.Forall2

/-!
# What a script captures

A script captures its environment. Reading more of it never takes that away: the
functions inside it are opened and closed again, and variables that they borrow are
added behind those that are captured already.
-/

namespace LuaSession.Syntax

/-- The script itself: the outermost of the functions that are being read. -/
def ReadState.script (s : ReadState) : FunctionScope := s.outer.getLastD s.scope

/-- As many functions are open around the one being read, and the script captures
the variable first. -/
structure ReadState.At (first : Captured) (depth : Nat) (s : ReadState) : Prop where
  depth : s.outer.length = depth
  first : s.script.captured[0]? = some first

/-- What a function captures first, it captures from then on. -/
def FunctionScope.Borrows (before after : FunctionScope) : Prop :=
  ∀ c, before.captured[0]? = some c → after.captured[0]? = some c

namespace FunctionScope

theorem forall₂_borrows_refl (scopes : List FunctionScope) :
    List.Forall₂ Borrows scopes scopes :=
  List.forall₂_same.mpr fun _ _ _ => id

theorem borrows_push (scope : FunctionScope) (c : Captured) :
    scope.Borrows { scope with captured := scope.captured.push c } := by
  intro first found
  have inside := (Array.getElem?_eq_some_iff.mp found).1
  change (scope.captured.push c)[0]? = some first
  rw [Array.getElem?_push, if_neg (Nat.ne_of_lt inside), found]

theorem Borrows.last {outer outer' : List FunctionScope}
    (around : List.Forall₂ Borrows outer outer') {scope scope' : FunctionScope}
    (here : scope.Borrows scope') : (outer.getLastD scope).Borrows (outer'.getLastD scope') := by
  induction around generalizing scope scope' with
  | nil => exact here
  | cons first _ ih =>
      rw [List.getLastD_cons, List.getLastD_cons]
      exact ih first

end FunctionScope

open FunctionScope (Borrows)

/-- Borrowing variables opens and closes no function. -/
theorem ReadState.At.of_borrows {first : Captured} {depth : Nat} {s t : ReadState}
    (holds : s.At first depth)
    (borrows : List.Forall₂ Borrows (s.scope :: s.outer) (t.scope :: t.outer)) :
    t.At first depth := by
  obtain _ | ⟨here, around⟩ := borrows
  exact ⟨around.length_eq.symm.trans holds.depth, Borrows.last around here first holds.first⟩

namespace Read

variable {α β : Type} {P Q R : ReadState → Prop}

/-- From states of one kind a reader that succeeds leads to states of another kind. -/
def Leads (P Q : ReadState → Prop) (run : Read α) : Prop :=
  ∀ s value t, P s → run s = .ok value t → Q t

theorem Leads.bind {run : Read α} {f : α → Read β} (first : run.Leads P Q)
    (later : ∀ value, (f value).Leads Q R) : (run >>= f).Leads P R := by
  intro s value t holds succeeds
  rw [run_bind] at succeeds
  cases found : run s with
  | error trouble u =>
      rw [found] at succeeds
      contradiction
  | ok middle u =>
      rw [found] at succeeds
      exact later middle u value t (first s middle u holds found) succeeds

theorem leads_throw (trouble : Trouble) : (throw trouble : Read α).Leads P Q := by
  intro s value t _ succeeds
  contradiction

theorem leads_modify {f : ReadState → ReadState} (leads : ∀ s, P s → Q (f s)) :
    (modify f : Read Unit).Leads P Q := by
  intro s value t holds succeeds
  cases succeeds
  exact leads s holds

/-- A reader keeps the functions that are open, and what the script captures
first. -/
def Keeps (run : Read α) : Prop :=
  ∀ first depth, run.Leads (ReadState.At first depth) (ReadState.At first depth)

theorem keeps_bind {run : Read α} {f : α → Read β} (first : run.Keeps)
    (later : ∀ value, (f value).Keeps) : (run >>= f).Keeps :=
  fun c depth => (first c depth).bind fun value => later value c depth

theorem keeps_pure (value : α) : (pure value : Read α).Keeps := by
  intro first depth s found t holds succeeds
  cases succeeds
  exact holds

theorem keeps_get : (get : Read ReadState).Keeps := by
  intro first depth s found t holds succeeds
  cases succeeds
  exact holds

theorem keeps_throw (trouble : Trouble) : (throw trouble : Read α).Keeps :=
  fun _ _ => leads_throw trouble

theorem leads_set {t : ReadState} (holds : Q t) : (set t : Read Unit).Leads P Q := by
  intro s value after _ succeeds
  cases succeeds
  exact holds

/-- A reader that looks at the state first. -/
theorem keeps_get_bind {f : ReadState → Read α} (later : ∀ s first depth,
    s.At first depth → (f s).Leads (· = s) (ReadState.At first depth)) :
    ((get : Read ReadState) >>= f).Keeps :=
  fun first depth s value t holds succeeds => later s first depth holds s value t rfl succeeds

/-- Only what is kept of the functions counts. -/
theorem keeps_modify {f : ReadState → ReadState} (scope : ∀ s, (f s).scope = s.scope)
    (outer : ∀ s, (f s).outer = s.outer) : (modify f : Read Unit).Keeps := by
  intro first depth
  apply leads_modify
  intro s holds
  refine ⟨(congrArg List.length (outer s)).trans holds.depth, ?_⟩
  rw [ReadState.script, outer, scope]
  exact holds.first

theorem keeps_fail (what : Bytes) : (fail what : Read α).Keeps :=
  keeps_bind keeps_get fun _ => keeps_throw _

theorem keeps_failMeaning (what : Bytes) : (failMeaning what : Read α).Keeps :=
  keeps_bind keeps_get fun _ => keeps_throw _

/-! ## Tokens -/

theorem keeps_lex : lex.Keeps := by
  unfold lex
  refine keeps_get_bind fun s first depth holds => ?_
  split
  · exact (leads_set (P := (· = s)) ⟨holds.depth, holds.first⟩).bind fun _ =>
      keeps_pure _ first depth
  · exact leads_throw _

theorem keeps_advance : advance.Keeps := by
  unfold advance
  refine keeps_get_bind fun s first depth holds => ?_
  split
  · exact leads_set ⟨holds.depth, holds.first⟩
  · refine Leads.bind (leads_set (Q := ReadState.At first depth) ?_) fun _ => ?_
    · exact ⟨holds.depth, holds.first⟩
    · refine keeps_bind keeps_lex (fun token => ?_) first depth
      exact keeps_modify (fun _ => rfl) fun _ => rfl

theorem keeps_lookAhead : lookAhead.Keeps := by
  unfold lookAhead
  refine keeps_bind keeps_lex fun token => ?_
  exact keeps_bind (keeps_modify (fun _ => rfl) fun _ => rfl) fun _ => keeps_pure _

theorem keeps_accept (expected : Token) : (accept expected).Keeps := by
  refine keeps_bind keeps_get fun s => ?_
  split
  · exact keeps_bind keeps_advance fun _ => keeps_pure _
  · exact keeps_pure _

/-! ## The functions being read -/

/-- Changing the function being read, but not what it captures. -/
theorem keeps_modifyScope {f : FunctionScope → FunctionScope}
    (spares : f = fun scope => { f scope with captured := scope.captured }) :
    (modifyScope f).Keeps := by
  have captured (scope : FunctionScope) : (f scope).captured = scope.captured := by
    rw [spares]
  intro first depth
  apply leads_modify
  intro s holds
  refine ⟨holds.depth, ?_⟩
  have same := holds.first
  unfold ReadState.script at same ⊢
  dsimp only
  cases inside : s.outer with
  | nil =>
      rw [inside] at same
      exact (congrArg (·[0]?) (captured s.scope)).trans same
  | cons scope outer =>
      rw [inside] at same
      exact same

theorem keeps_leave : leave.Keeps := keeps_modify (fun _ => rfl) fun _ => rfl

theorem keeps_enter : enter.Keeps := by
  unfold enter
  refine keeps_get_bind fun s first depth holds => ?_
  have deeper := leads_set (P := (· = s)) (t := { s with depth := s.depth + 1 })
    (Q := ReadState.At first depth) ⟨holds.depth, holds.first⟩
  split
  · exact (leads_throw (Q := (· = s)) _).bind fun _ => deeper
  · exact deeper

/-- A function is begun inside the ones that are open. -/
theorem leads_beginFunction (line : Nat) (first : Captured) (depth : Nat) :
    (beginFunction line).Leads (ReadState.At first depth) (ReadState.At first (depth + 1)) := by
  apply leads_modify
  intro s holds
  refine ⟨congrArg Nat.succ holds.depth, ?_⟩
  rw [ReadState.script, List.getLastD_cons]
  exact holds.first

/-- A reader ends with closing the function being read. -/
def Closes (run : Read α) : Prop :=
  ∀ first depth, run.Leads (ReadState.At first (depth + 1)) (ReadState.At first depth)

theorem closes_bind {run : Read α} {f : α → Read β} (first : run.Keeps)
    (later : ∀ value, (f value).Closes) : (run >>= f).Closes :=
  fun c depth => (first c (depth + 1)).bind fun value => later value c depth

theorem Closes.bind_keeps {run : Read α} {f : α → Read β} (closes : run.Closes)
    (later : ∀ value, (f value).Keeps) : (run >>= f).Closes :=
  fun c depth => (closes c depth).bind fun value => later value c depth

theorem closes_endFunction : endFunction.Closes := by
  intro first depth
  apply leads_modify
  intro s holds
  obtain ⟨deeper, found⟩ := holds
  cases inside : s.outer with
  | nil => simp [inside] at deeper
  | cons scope outer =>
      rw [inside] at deeper
      rw [ReadState.script, inside, List.getLastD_cons] at found
      exact ⟨Nat.succ.inj deeper, found⟩

/-- Looking a name up, functions borrow from those around them. -/
theorem lookUp_borrows {name : Bytes} {scopes after : List FunctionScope} {meaning : Meaning}
    (found : lookUp name scopes = .ok (meaning, after)) : List.Forall₂ Borrows scopes after := by
  induction scopes generalizing meaning after with
  | nil =>
      cases found
      exact .nil
  | cons scope outer ih =>
      rw [lookUp] at found
      split at found
      · cases found
        exact FunctionScope.forall₂_borrows_refl _
      · split at found
        · cases found
          exact FunctionScope.forall₂_borrows_refl _
        · cases around : lookUp name outer with
          | error limit => simp [around, bind, Except.bind] at found
          | ok result =>
              obtain ⟨meaning', outer'⟩ := result
              have grown := ih around
              simp only [around, bind, Except.bind] at found
              cases meaning' with
              | global =>
                  cases found
                  exact .cons (fun _ => id) grown
              | captured index kind =>
                  dsimp only at found
                  split at found
                  · contradiction
                  · cases found
                    exact .cons (FunctionScope.borrows_push scope _) grown
              | slot v =>
                  dsimp only at found
                  split at found
                  · cases found
                    exact .cons (fun _ => id) grown
                  · split at found
                    · contradiction
                    · cases found
                      cases grown with
                      | nil => exact .cons (FunctionScope.borrows_push scope _) .nil
                      | cons lent others =>
                          exact .cons (FunctionScope.borrows_push scope _) (.cons lent others)

theorem keeps_meaning (name : Bytes) : (meaning name).Keeps := by
  unfold meaning
  refine keeps_get_bind fun s first depth holds => ?_
  split
  · rename_i found
    exact (leads_set (P := (· = s)) (holds.of_borrows (lookUp_borrows found))).bind fun _ =>
      keeps_pure _ first depth
  · rename_i found
    exact absurd (lookUp_borrows found).length_eq (by simp)
  · intro u value t same succeeds
    subst same
    exact keeps_fail _ first depth u value t holds succeeds

/-- No reader of the grammar takes away what the script captures first. -/
def capturing : Judgement where
  Relates _ _ run _ := run.Keeps
  Closes := Closes
  extra := 0
  relates_mono keeps _ _ := keeps
  relates_bind first later _ _ := keeps_bind first later
  relates_pure value _ := keeps_pure value
  relates_idle keeps _ := keeps
  relates_size keeps _ := keeps_bind keeps_get fun s => keeps s.size
  relates_get keeps _ := keeps_bind keeps_get keeps
  relates_fail what _ _ := keeps_fail what
  relates_failMeaning what _ _ := keeps_failMeaning what
  relates_tooDeep _ _ := keeps_throw .tooDeep
  relates_advance _ := keeps_advance
  relates_lookAhead _ := keeps_lookAhead
  relates_accept expected yes no _ _ := keeps_bind (keeps_accept expected) (Bool.rec no yes)
  relates_enter _ := keeps_enter
  relates_leave _ := keeps_leave
  relates_modifyScope spares _ := keeps_modifyScope spares
  relates_meaning name _ := keeps_meaning name
  relates_beginFunction line closes _ first depth :=
    (leads_beginFunction line first depth).bind fun _ => closes first depth
  closes_endFunction := closes_endFunction
  closes_bind keeps := closes_bind (keeps 0)
  closes_then closes keeps := closes.bind_keeps fun value => keeps value 0

end Read

theorem Judgement.Holds.keeps {α : Type} {run : Read α} (holds : Read.capturing.Holds run) :
    run.Keeps :=
  holds 0

end LuaSession.Syntax
