import LuaSession.Proofs.Settings.Reading

/-!
# Settings that mean nothing here

A child of the settings node whose name is no setting's is passed over, wherever
it stands and whatever else it holds, if it has a positional argument. Without
one it is refused like any other child, unless an earlier child is refused first.
-/

namespace LuaSession.Settings

/-- A child whose name is that of a setting. -/
def IsSetting (child : Node) : Prop :=
  child.name = librariesKey ∨ child.name = memoryLimitKey ∨ child.name = chunkNameKey

/-- A document whose first settings node holds a block. -/
def withBlock (before : List Node) (items : List Item) (block : List Node)
    (after : List Node) : Document :=
  before ++ .mk nodeName items (some block) :: after

theorem ofDocument_withBlock {before : List Node}
    (first : ∀ node ∈ before, node.name ≠ nodeName) (items : List Item)
    (block after : List Node) :
    ofDocument (withBlock before items block after) = block.foldlM apply {} := by
  have isBlock : EngineBlock (withBlock before items block after) block := by
    exact .first first rfl
  rw [ofDocument, ← isBlock.eq_block]

/-- What is no setting changes none, provided that it has a value. -/
theorem apply_of_not_isSetting {child : Node} (unknown : ¬IsSetting child)
    (hasValue : child.firstArgument?.isSome) (settings : Settings) :
    apply settings child = .ok settings := by
  obtain ⟨value, argument⟩ := Option.isSome_iff_exists.mp hasValue
  obtain ⟨notLibraries, notLimit, notName⟩ :
      child.name ≠ librariesKey ∧ child.name ≠ memoryLimitKey ∧ child.name ≠ chunkNameKey := by
    simpa [IsSetting] using unknown
  simp [apply, argument, notLibraries, notLimit, notName, pure, Except.pure]

/-- A child that changes no settings may as well be left out. -/
theorem foldlM_apply_skip {child : Node} (skips : ∀ settings, apply settings child = .ok settings)
    (left right : List Node) (settings : Settings) :
    (left ++ child :: right).foldlM apply settings = (left ++ right).foldlM apply settings := by
  rw [List.foldlM_append, List.foldlM_append]
  congr
  funext later
  rw [List.foldlM_cons, skips]
  rfl

/-- What comes after a child that is refused does not matter. -/
theorem foldlM_apply_of_bad_left {left : List Node} (isBad : ∃ earlier ∈ left, IsBad earlier)
    (right other : List Node) :
    (left ++ right).foldlM apply {} = (left ++ other).foldlM apply {} := by
  obtain fits | ⟨before, bad, after, rfl, fits, isBad⟩ := fits_or_first_isBad left
  · obtain ⟨earlier, member, isBad⟩ := isBad
    exact absurd isBad (fits earlier member)
  · rw [List.append_assoc, List.cons_append, List.append_assoc, List.cons_append,
      foldlM_apply_of_isBad _ fits isBad, foldlM_apply_of_isBad _ fits isBad]

/-- Whatever block the first settings node of a document holds, and wherever in it a
child is put whose name is no setting's: if the child has a positional argument, or
an earlier child is refused, the document gives the result that it gives without the
child, be it settings or an error. Otherwise the child is refused for want of a value. -/
theorem ofDocument_insert_unknown {before : List Node}
    (first : ∀ node ∈ before, node.name ≠ nodeName) {child : Node} (unknown : ¬IsSetting child)
    (items : List Item) (left right after : List Node) :
    (child.firstArgument?.isSome ∨ (∃ earlier ∈ left, IsBad earlier) →
      ofDocument (withBlock before items (left ++ child :: right) after) =
        ofDocument (withBlock before items (left ++ right) after)) ∧
    (child.firstArgument? = none → (∀ earlier ∈ left, ¬IsBad earlier) →
      ofDocument (withBlock before items (left ++ child :: right) after) =
        .error (.needsValue child.name)) := by
  rw [ofDocument_withBlock first, ofDocument_withBlock first]
  constructor
  · rintro (hasValue | isBad)
    · exact foldlM_apply_skip (apply_of_not_isSetting unknown hasValue) left right {}
    · exact foldlM_apply_of_bad_left isBad _ _
  · intro noValue fits
    have isBad : IsBad child := by
      rw [IsBad, noValue]
      trivial
    rw [foldlM_apply_of_isBad right fits isBad, errorOf, noValue]

/-- A setting of somebody else's with a value between two settings of the session's:
the document says what it says without it. -/
theorem ofDocument_insert_verbose :
    (∀ node ∈ [Node.mk "window" [] none], node.name ≠ nodeName) ∧
    ¬IsSetting (.mk "verbose" [⟨some "level", .integer 3⟩, ⟨none, .bool true⟩] (some [])) ∧
    ofDocument (withBlock [.mk "window" [] none] []
        ([.mk "libraries" [⟨none, .string "core"⟩] none] ++
          .mk "verbose" [⟨some "level", .integer 3⟩, ⟨none, .bool true⟩] (some []) ::
          [.mk "memory-limit" [⟨none, .integer (-5)⟩] none]) []) =
      ofDocument (withBlock [.mk "window" [] none] []
        ([.mk "libraries" [⟨none, .string "core"⟩] none] ++
          [.mk "memory-limit" [⟨none, .integer (-5)⟩] none]) []) := by
  have first : ∀ node ∈ [Node.mk "window" [] none], node.name ≠ nodeName := by
    simp [Node.name, nodeName]
  have unknown :
      ¬IsSetting (.mk "verbose" [⟨some "level", .integer 3⟩, ⟨none, .bool true⟩] (some [])) := by
    simp [IsSetting, Node.name, librariesKey, memoryLimitKey, chunkNameKey]
  exact ⟨first, unknown, (ofDocument_insert_unknown first unknown [] _ _ []).1 (.inl rfl)⟩

/-- A flag without a value is no setting, and yet a document is refused for it. -/
theorem ofDocument_flag_refused :
    ¬IsSetting (.mk "verbose" [] none) ∧
    ofDocument (withBlock [] [] [] []) = .ok {} ∧
    ofDocument (withBlock [] [] [.mk "verbose" [] none] []) = .error (.needsValue "verbose") := by
  refine ⟨?_, rfl, rfl⟩
  simp [IsSetting, Node.name, librariesKey, memoryLimitKey, chunkNameKey]

end LuaSession.Settings
