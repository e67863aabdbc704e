import LuaSession.Proofs.Script.Keeping

/-!
# Stores that others become

A store becomes another one by changes that scripts can make and by texts that
functions of the host publish. A property that neither can take away belongs to
everything a store becomes; that it becomes the store at hand is itself such a
property, so every computation leads from its store to stores which that becomes.
-/

namespace LuaSession.Script

namespace Store

/-- What a store may become while scripts run. -/
inductive Becomes (s : Store) : Store → Prop where
  | refl : s.Becomes s
  | change {t u : Store} (becomes : s.Becomes t) (change : Change t u) : s.Becomes u
  | publish {t : Store} (becomes : s.Becomes t) (text : String) :
      s.Becomes (t.emit (.published text))

variable {s t u : Store}

theorem Becomes.trans (first : s.Becomes t) (second : t.Becomes u) : s.Becomes u := by
  induction second with
  | refl => exact first
  | change _ change ih => exact ih.change change
  | publish _ text ih => exact ih.publish text

instance : Stable s.Becomes where
  change change becomes := becomes.change change
  publish _ _ := fun text becomes => becomes.publish text

theorem letsPublish_becomes : LetsPublish s.Becomes := fun text becomes => becomes.publish text

/-- What scripts cannot change, and publishing cannot lose, belongs to everything
that a store becomes. -/
theorem Becomes.keeps {J : Store → Prop} [Stable J] (becomes : s.Becomes t)
    (lets : LetsPublish J) (holds : J s) : J t := by
  induction becomes with
  | refl => exact holds
  | change _ change ih => exact Stable.change change ih
  | publish _ text ih => exact lets text ih

end Store

/-- Of every store it can be said that it is one. -/
def Anything (_ : Store) : Prop := True

instance : Stable Anything where
  change _ _ := trivial
  publish _ _ := fun _ _ => trivial

/-- The store of a step. -/
def Step.store {α : Type} : Step α → Store
  | .done _ store => store
  | .fail _ store => store
  | .ask _ store _ => store

namespace Step.Keeps

variable {α : Type} {kind : Kind} {J K : Store → Prop} {step : Step α}

theorem store (keeps : step.Keeps kind J) : J step.store := by
  cases step with
  | done _ _ | fail _ _ => exact keeps
  | ask _ _ _ => exact keeps.1

/-- A step keeps whatever its store has, if what it publishes cannot lose that. -/
theorem restrict (keeps : step.Keeps kind J) (lets : LetsPublish J → LetsPublish K)
    (holds : K step.store) : step.Keeps kind K := by
  cases step with
  | done _ _ | fail _ _ => exact holds
  | ask _ _ _ => exact ⟨holds, keeps.2.1, fun L _ more => keeps.2.2 L (more ∘ lets)⟩

end Step.Keeps

end LuaSession.Script
