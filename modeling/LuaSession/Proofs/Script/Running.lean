import LuaSession.Script.Step

/-!
# Computations on a store

What the operations of a computation come to when they are run on a store.
-/

namespace LuaSession.Script.Run

variable {α β : Type} (f : α → Run β) (s : Store)

@[simp] theorem pure_apply (value : α) : (pure value : Run α) s = .done value s := rfl

@[simp] theorem raise_apply (value : Value) :
    (raise value : Run α) s = .fail (.error value) s := rfl

@[simp] theorem read_bind (part : Store → α) : (read part >>= f) s = f (part s) s := rfl

@[simp] theorem modify_bind (change : Store → Store) (f : Unit → Run β) :
    (modify change >>= f) s = f () (change s) := rfl

@[simp] theorem update_bind (change : Store → α × Store) :
    (update change >>= f) s = f (change s).1 (change s).2 := rfl

variable {f s} {run : Run α} {t : Store}

/-- What comes after computations that do the same. -/
theorem bind_congr {other : Run α} (same : run s = other s) : (run >>= f) s = (other >>= f) s :=
  congrArg (·.bind f) same

theorem bind_of_done {value : α} (done : run s = .done value t) : (run >>= f) s = f value t := by
  change (run s).bind f = _
  rw [done]
  rfl

theorem bind_of_fail {raised : Raised} (fails : run s = .fail raised t) :
    (run >>= f) s = .fail raised t := by
  change (run s).bind f = _
  rw [fails]
  rfl

theorem bind_of_ask {request : Request} {resume : Exit → Store → Step α}
    (asks : run s = .ask request t resume) :
    (run >>= f) s = .ask request t fun exit u => (resume exit u).bindAsked f := by
  change (run s).bind f = _
  rw [asks]
  rfl

end LuaSession.Script.Run
