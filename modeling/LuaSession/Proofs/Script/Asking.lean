import LuaSession.Machine.Transition
import LuaSession.Proofs.Script.Becoming
import LuaSession.Proofs.Script.Running
import LuaSession.Proofs.Script.Table

/-!
# What operations do before they ask

Taking a field and comparing two values look into metatables. They leave the store as it is
until they call what they have found there.
-/

namespace LuaSession.Script.Run

variable {place : Place} {x y : Value} {s : Store} {α β : Type}

/-! ## Requests -/

/-- What comes after a call gets the values that it returns. -/
theorem call_bind (function : Value) (arguments : Array Value) (site : Site)
    (f : Array Value → Run β) (s : Store) :
    (call function arguments site >>= f) s =
      .ask (.call function arguments site) s fun exit => f (Machine.valuesOf exit) := by
  refine congrArg (Step.ask _ s) (funext fun exit => funext fun t => ?_)
  cases exit <;> rfl

/-! ## Taking fields -/

/-- What comes after what leaves the store alone. -/
theorem store_bind {run : Run α} {f : α → Run β} (first : (run s).store = s)
    (later : ∀ value, (f value s).store = s) : ((run >>= f) s).store = s := by
  change ((run s).bind f).store = s
  cases ran : run s with
  | done value t =>
    obtain rfl : t = s := by rw [ran] at first; exact first
    exact later value
  | fail raised t | ask request t resume =>
    rw [ran] at first
    exact first

theorem store_faultBytes (place : Place) (message : Bytes) (s : Store) :
    (faultBytes place message s : Step α).store = s := by
  cases place <;> rfl

theorem store_failType (place : Place) (blame : Expr) (value : Value) (action : String) (s : Store) :
    (failType place blame value action s : Step α).store = s := by
  unfold failType
  rw [read_bind]
  exact store_faultBytes _ _ _

/-- Taking a field leaves the store alone until a function is called. -/
theorem store_indexChain (place : Place) (blame : Expr) (fuel : Nat) (object key : Value)
    (s : Store) : (indexChain place blame fuel object key s).store = s := by
  induction fuel generalizing blame object key with
  | zero =>
    unfold indexChain fault
    exact store_faultBytes _ _ _
  | succ fuel ih =>
    unfold indexChain
    rw [read_bind]
    cases s.field? object key with
    | some value => rfl
    | none =>
      dsimp only
      rw [read_bind]
      generalize s.metafield object Event.index = handler
      cases handler with
      | nil =>
        cases object with
        | table ref => rfl
        | _ => exact store_failType _ _ _ _ _
      | closure _ | builtin _ | native _ => rfl
      | _ => exact ih _ _ _

theorem store_index (place : Place) (blame : Expr) (object key : Value) (s : Store) :
    (index place blame object key s).store = s := by
  unfold index
  split
  · dsimp only
    split
    · split
      · rfl
      · exact store_indexChain _ _ _ _ _ _
    · rfl
  · exact store_indexChain _ _ _ _ _ _

/-- A field that a table has. -/
theorem index_found {blame : Expr} {ref : Nat} {key value : Value}
    (found : (s.table ref).get key = value) (present : value ≠ .nil) :
    index place blame (.table ref) key s = .done value s := by
  have notNil : ¬ ((s.table ref).get key).isNil := by
    rw [found]
    exact fun isNil => present (Table.eq_nil_of_isNil isNil)
  unfold index
  dsimp only
  rw [if_neg notNil, found]

/-- A value that has no fields of its own, and a metatable that names a table. -/
theorem indexChain_of_table {fuel next : Nat} {blame : Expr} {object key : Value}
    (own : s.field? object key = none) (handler : s.metafield object Event.index = .table next) :
    indexChain place blame (fuel + 1) object key s =
      indexChain place Expr.unnamed fuel (.table next) key s := by
  rw [indexChain.eq_def]
  dsimp only
  rw [read_bind, own]
  dsimp only
  rw [read_bind, handler]

/-! ## Comparing -/

/-- A metamethod is called, or there is none. -/
theorem binaryEvent?_cases (place : Place) (event : String) (key x y : Value) (s : Store) :
    binaryEvent? place event key x y s = .done none s ∨
      ∃ request resume, binaryEvent? place event key x y s = .ask request s resume := by
  unfold binaryEvent?
  rw [read_bind]
  split
  · rw [read_bind]
    dsimp only
    split
    · exact .inl rfl
    · exact .inr ⟨_, _, rfl⟩
  next present =>
    rw [pure_bind]
    dsimp only
    rw [if_neg present]
    exact .inr ⟨_, _, rfl⟩

/-- Two values are equal if they are the same, or else what the metamethod says that is asked. -/
theorem equal_cases (place : Place) (x y : Value) (s : Store) :
    equal place x y s = .done (x.rawEq y) s ∨
      ∃ request resume, equal place x y s = .ask request s resume := by
  unfold equal
  cases same : x.rawEq y with
  | true => exact .inl rfl
  | false =>
    rw [if_neg (by simp)]
    split
    · obtain none | ⟨_, _, asks⟩ := binaryEvent?_cases place "eq" Event.eq _ _ s
      · exact .inl (bind_of_done none)
      · exact .inr ⟨_, _, bind_of_ask asks⟩
    · obtain none | ⟨_, _, asks⟩ := binaryEvent?_cases place "eq" Event.eq _ _ s
      · exact .inl (bind_of_done none)
      · exact .inr ⟨_, _, bind_of_ask asks⟩
    · exact .inl rfl

theorem equal_nil : equal place x .nil s = .done x.isNil s := by
  cases x <;> rfl

/-- Without a metamethod, two values are equal only if they are the same. -/
theorem equal_of_noEvent (first : s.metafield x Event.eq = .nil) (second : s.metafield y Event.eq = .nil) :
    equal place x y s = .done (x.rawEq y) s := by
  unfold equal
  cases same : x.rawEq y with
  | true => rfl
  | false =>
    rw [if_neg (by simp)]
    have none : binaryEvent? place "eq" Event.eq x y s = .done none s := by
      simp only [binaryEvent?, bind, Run.bind, Run.read, Step.bind, first, Value.isNil]
      simp only [if_true, Run.bind, Run.read, Step.bind, second]
      rfl
    split
    · exact bind_of_done none
    · exact bind_of_done none
    · rfl

end LuaSession.Script.Run
