import LuaSession.Proofs.Script.Evaluation

/-!
# Variables that are sheltered

Some variables may be kept from all functions but a few: no function assigns them,
and none lets another function capture them. A function may still capture such a
variable if its own text leaves it alone; it holds it then. A function that holds some
variables makes only closures that hold none of them, so whatever is true of all
closures in the beginning is true of all closures later.
-/

namespace LuaSession.Script

/-- The variables that are sheltered, by their cells, and the closures that are
exempt. The first cell stands for variables that are missing. -/
structure Shelter where
  fixed : Nat → Prop
  exempt : Closure → Prop
  free_zero : ¬fixed 0

namespace Shelter

/-- Nothing is sheltered. -/
def nothing : Shelter := ⟨fun _ => False, fun _ => False, id⟩

/-- No closure is exempt. -/
class IsClosed (shelter : Shelter) : Prop where
  closed : ∀ closure, ¬shelter.exempt closure

instance : nothing.IsClosed := ⟨fun _ => id⟩

/-- The captured variables that are sheltered. -/
def held (shelter : Shelter) (captured : Array Nat) (index : Nat) : Prop :=
  shelter.fixed (captured.getD index 0)

end Shelter

/-- A closure leaves alone what is sheltered. -/
def Closure.Spares (shelter : Shelter) (closure : Closure) : Prop :=
  Script.Spares (shelter.held closure.captured) closure.code.touched

/-- In a frame, variables are sheltered only if they are captured ones that are held. -/
structure Frame.Holds (shelter : Shelter) (held : Nat → Prop) (frame : Frame) : Prop where
  captured : ∀ index, shelter.fixed (frame.captured.getD index 0) → held index
  boxes : ∀ index cell, frame.boxes.getD index 0 = cell + 1 → ¬shelter.fixed cell

/-- A property of stores that functions cannot change which leave alone what is
sheltered. All closures do but the exempt ones. -/
class Sheltered (shelter : Shelter) (J : Store → Prop) : Prop extends Lasting J where
  frame : ∀ {s : Store}, J s → ∀ frame, J (s.withFrame frame)
  newCell : ∀ {s : Store}, J s → ∀ value, J (s.newCell value).2
  setCell : ∀ {s : Store}, J s → ∀ ref value, ¬shelter.fixed ref → J (s.setCell ref value)
  newClosure : ∀ {s : Store}, J s → ∀ closure : Closure, closure.Spares shelter →
    J (s.newClosure closure).2
  spares : ∀ {s : Store}, J s → ∀ ref, (s.closure ref).Spares shelter ∨ shelter.exempt (s.closure ref)
  existing : ∀ {s : Store}, J s → ∀ ref, shelter.fixed ref → ref < s.heap.cells.size

/-- What scripts cannot change needs no shelter. -/
instance {J : Store → Prop} [Stable J] : Sheltered .nothing J where
  frame kept frame := Stable.change (.frame _ frame) kept
  newCell kept value := Stable.newCell kept value
  setCell kept ref value _ := Stable.setCell kept ref value
  newClosure kept closure _ := Stable.change (.newClosure _ closure) kept
  spares _ _ := .inl (spares_of_holds_nothing fun _ => id)
  existing _ _ fixed := fixed.elim

/-- The functions of the libraries leave the frame alone. -/
theorem Effect.frame {s t : Store} (effect : Effect s t) : t.frame = s.frame := by
  cases effect with
  | put ref key value =>
      unfold Store.put
      dsimp only
      split <;> rfl
  | sweep ref test =>
      unfold Store.sweep
      dsimp only
      split <;> rfl
  | script code environment =>
      have made : (Library.Loading.newCells s environment code.info.captures.size).2.frame =
          s.frame := by
        unfold Library.Loading.newCells
        generalize (#[] : Array Nat) = cells
        generalize List.range code.info.captures.size = indices
        suffices ∀ t : Store, t.frame = s.frame → ((indices.foldl _ (cells, t)).2).frame = s.frame
          from this s rfl
        induction indices generalizing cells with
        | nil => exact fun _ same => same
        | cons index rest ih => exact fun t same => ih _ _ same
      exact made
  | _ => rfl

variable {shelter : Shelter} {held : Nat → Prop} {J : Store → Prop} {s : Store}

namespace Sheltered

/-- The store has the property, and its frame holds what the running function may. -/
def Within (shelter : Shelter) (held : Nat → Prop) (J : Store → Prop) (s : Store) : Prop :=
  J s ∧ s.frame.Holds shelter held

variable [Sheltered shelter J]

theorem setSlot (kept : Within shelter held J s) (index : Nat) (value : Value) :
    Within shelter held J (s.setSlot index value) := by
  obtain ⟨kept, holds⟩ := kept
  unfold Store.setSlot
  dsimp only
  split
  · exact ⟨frame shelter kept _, holds.captured, holds.boxes⟩
  next boxed =>
    have box : s.frame.boxes.getD index 0 = s.frame.boxes.getD index 0 - 1 + 1 :=
      (Nat.succ_pred (by simpa using boxed)).symm
    exact ⟨setCell kept _ value (holds.boxes index _ box), holds⟩

/-- A new variable is not sheltered. -/
theorem newBox (kept : Within shelter held J s) (index : Nat) (value : Value) :
    Within shelter held J { (s.newCell value).2 with
      frame := { s.frame with
        boxes := s.frame.boxes.setIfInBounds index (s.heap.cells.size + 1) } } := by
  obtain ⟨kept, holds⟩ := kept
  refine ⟨frame shelter (newCell shelter kept value) _, holds.captured, fun other cell boxed fixed => ?_⟩
  have inHeap := existing kept cell fixed
  have old := holds.boxes other cell
  simp only [Array.getD_eq_getD_getElem?, Array.getElem?_setIfInBounds] at boxed old
  grind

theorem declareSlot (kept : Within shelter held J s) (index : Nat) (value : Value) :
    Within shelter held J (s.declareSlot index value) := by
  unfold Store.declareSlot
  split
  · exact newBox kept index value
  · exact ⟨frame shelter kept.1 _, kept.2.captured, kept.2.boxes⟩

theorem setCaptured (kept : Within shelter held J s) (index : Nat) (value : Value)
    (free : ¬held index) : Within shelter held J (s.setCaptured index value) :=
  ⟨setCell kept.1 _ value fun fixed => free (kept.2.captured index fixed), kept.2⟩

/-- What a new function captures is not sheltered if it captures nothing that the
running function holds. -/
theorem capture (kept : Within shelter held J s) {captures : Array Capture}
    (spares : ∀ index, Capture.captured index ∈ captures → ¬held index) :
    Within shelter held J (s.capture captures).2 ∧
      ∀ cell ∈ (s.capture captures).1, ¬shelter.fixed cell := by
  unfold Store.capture
  rw [← Array.foldl_toList]
  simp only [← Array.mem_toList_iff] at spares
  have start : ∀ cell ∈ (#[] : Array Nat), ¬shelter.fixed cell := by simp
  revert start
  generalize (#[] : Array Nat) = cells
  generalize captures.toList = captures at spares ⊢
  induction captures generalizing s cells with
  | nil => exact fun free => ⟨kept, free⟩
  | cons capture captures ih =>
      intro free
      have others (index : Nat) (isMember : Capture.captured index ∈ captures) : ¬held index :=
        spares index (List.mem_cons_of_mem _ isMember)
      rw [List.foldl_cons]
      cases capture with
      | captured index =>
          have free : ∀ cell ∈ cells.push (s.frame.captured.getD index 0), ¬shelter.fixed cell := by
            intro cell isMember
            rcases Array.mem_push.mp isMember with old | rfl
            · exact free cell old
            · exact fun fixed => spares index List.mem_cons_self (kept.2.captured index fixed)
          exact ih kept _ others free
      | slot index =>
          dsimp only
          split
          next box boxed =>
            refine ih kept _ others fun cell isMember => ?_
            rcases Array.mem_push.mp isMember with old | rfl
            · exact free cell old
            · exact kept.2.boxes index _ boxed
          next =>
            refine ih (newBox kept index _) _ others fun cell isMember => ?_
            rcases Array.mem_push.mp isMember with old | rfl
            · exact free cell old
            · exact fun fixed => Nat.lt_irrefl _ (existing kept.1 _ fixed)

theorem makeClosure (kept : Within shelter held J s) {code : Code}
    (spares : Script.Spares held code.info.taken) : Within shelter held J (s.makeClosure code).2 := by
  have captured : ∀ index, Capture.captured index ∈ code.info.captures → ¬held index := by
    intro index isMember
    refine spares index (List.mem_filterMap.mpr ⟨_, Array.mem_toList_iff.mpr isMember, rfl⟩)
  obtain ⟨kept, free⟩ := capture kept captured
  have spares : Closure.Spares shelter ⟨code, (s.capture code.info.captures).1⟩ := by
    refine spares_of_holds_nothing fun index fixed => ?_
    rw [Shelter.held, Array.getD] at fixed
    split at fixed
    · exact free _ (Array.getElem_mem _) fixed
    · exact shelter.free_zero fixed
  exact ⟨newClosure kept.1 _ spares, kept.2⟩

end Sheltered

/-! ## Who runs -/

/-- Who runs: a function of a library, or one that is written in a script and holds
some of its captured variables. -/
inductive Role where
  | library
  | script (held : Nat → Prop)

namespace Role

/-- What computations of a role keep, and what they may ask for. -/
def kind : Role → Kind
  | .library => .library
  | .script held => .script held

/-- Which frame a function has. -/
def Fits (shelter : Shelter) : Role → Frame → Prop
  | .library, _ => True
  | .script held, frame => frame.Holds shelter held

/-- Which captured variables statements of a function may touch. -/
def Spares : Role → List Nat → Prop
  | .library, _ => False
  | .script held, touched => Script.Spares held touched

/-- The store has a property, and its frame is one of the role. -/
def Has (role : Role) (shelter : Shelter) (J : Store → Prop) (s : Store) : Prop :=
  J s ∧ role.Fits shelter s.frame

variable {role : Role}

/-- Statements are run by functions that are written in scripts. -/
theorem exists_of_spares {touched : List Nat} (spares : role.Spares touched) :
    ∃ held, role = .script held ∧ Script.Spares held touched := by
  cases role with
  | library => exact spares.elim
  | script held => exact ⟨held, rfl, spares⟩

theorem spares_afterLabel {label : Bytes} {body later : List Stmt} {condition : Option Expr}
    (found : afterLabel? label body = some later)
    (spares : role.Spares (Stmt.allTouched body ++ Expr.endTouched condition)) :
    role.Spares (Stmt.allTouched later ++ Expr.endTouched condition) := by
  obtain ⟨held, rfl, spares⟩ := exists_of_spares spares
  obtain ⟨spares, ends⟩ := spares_append.mp spares
  exact spares_append.mpr ⟨Script.spares_afterLabel found spares, ends⟩

instance : role.kind.Calls := by
  cases role with
  | library => exact inferInstanceAs Kind.library.Calls
  | script held => exact inferInstanceAs (Kind.script held).Calls

theorem letsPublish_has (lets : LetsPublish J) : LetsPublish (role.Has shelter J) :=
  fun text has => ⟨lets text has.1, has.2⟩

/-- Publishing does not depend on the frame. -/
theorem letsPublish_of_has [Sheltered shelter J] {frame : Frame} (fits : role.Fits shelter frame)
    (lets : LetsPublish (role.Has shelter J)) : LetsPublish J := by
  intro s text kept
  have framed : role.Has shelter J (s.withFrame frame) := ⟨Sheltered.frame shelter kept frame, fits⟩
  exact Sheltered.frame shelter (lets text framed).1 s.frame

instance lasting [Sheltered shelter J] : Lasting (role.Has shelter J) where
  effect effect has := ⟨Lasting.effect effect has.1, effect.frame ▸ has.2⟩
  publish has publisher := letsPublish_has (Lasting.publish has.1 publisher)

instance holds [Sheltered shelter J] : role.kind.Holds (role.Has shelter J) := by
  cases role with
  | library => exact inferInstanceAs (Kind.library.Holds (Role.library.Has shelter J))
  | script held =>
      refine ⟨{ toLasting := lasting, setSlot := ?_, declareSlot := ?_, setCaptured := ?_, makeClosure := ?_ }⟩
      · exact fun has index value => Sheltered.setSlot has index value
      · exact fun has index value => Sheltered.declareSlot has index value
      · exact fun has index value free => Sheltered.setCaptured has index value free
      · exact fun has code spares => Sheltered.makeClosure has spares

end Role

end LuaSession.Script
