import LuaSession.HostError
import Mathlib.Data.List.Induction
import Mathlib.Tactic.ByContra

/-!
# What a document says about the settings

The settings of a document are compared with a description that does not read
the children one after the other. `IsBad` says which children do not fit and
`errorOf` with what error, `lastArgument?` finds the value that counts for a key,
and `Describes` puts them together: the first child that does not fit decides
the error, and if all fit, the last child of each key decides its setting.
-/

namespace LuaSession.Settings

/-- The children block of the first top-level node named `engine`; it is empty
when there is no such node, or when the node has no block. -/
inductive EngineBlock : Document → List Node → Prop where
  | absent {document : Document} :
      (∀ node ∈ document, node.name ≠ "engine") → EngineBlock document []
  | first {before after : List Node} {engine : Node} :
      (∀ node ∈ before, node.name ≠ "engine") → engine.name = "engine" →
      EngineBlock (before ++ engine :: after) (engine.children.getD [])

/-- A child that does not fit, judged by its first positional argument. -/
def IsBad (child : Node) : Prop :=
  match child.firstArgument? with
  | none => True
  | some value =>
      (child.name = "libraries" ∧ value ≠ .string "safe" ∧ value ≠ .string "core") ∨
      (child.name = "memory-limit" ∧
        ¬∃ bytes : Int, 0 ≤ bytes ∧ bytes < UInt64.size ∧ value = .integer bytes) ∨
      (child.name = "chunk-name" ∧ ¬∃ name, name ≠ "" ∧ value = .string name)

/-- The error of a child that does not fit. -/
def errorOf (child : Node) : SettingsError :=
  match child.firstArgument? with
  | none => .needsValue child.name
  | some (.string text) =>
      if child.name = "libraries" then .unknownLibraries text
      else if child.name = "chunk-name" then .emptyName
      else .expects child.name "integer" (.string text)
  | some (.integer value) =>
      if child.name = "memory-limit" then .outOfRange child.name value
      else .expects child.name "string" (.integer value)
  | some value =>
      .expects child.name (if child.name = "memory-limit" then "integer" else "string") value

/-- The first positional argument of the last child with a name. -/
def lastArgument? (key : String) (children : List Node) : Option Scalar :=
  (children.filter (·.name == key)).getLast? >>= Node.firstArgument?

/-- The settings of children that all fit: each is that of the last child with
its key, or else the default. -/
def described (children : List Node) : Settings where
  libraries :=
    match lastArgument? "libraries" children with
    | some (.string name) => if name = "core" then .core else .safe
    | _ => .safe
  memoryLimit :=
    match lastArgument? "memory-limit" children with
    | some (.integer bytes) => if bytes = 0 then none else some bytes.toNat
    | _ => none
  chunkName :=
    match lastArgument? "chunk-name" children with
    | some (.string name) => name
    | _ => "snippet"

/-- What a document says about the settings. -/
inductive Describes (document : Document) : Except SettingsError Settings → Prop where
  | bad {before after : List Node} {child : Node} :
      EngineBlock document (before ++ child :: after) →
      (∀ earlier ∈ before, ¬IsBad earlier) → IsBad child →
      Describes document (.error (errorOf child))
  | good {children : List Node} :
      EngineBlock document children → (∀ child ∈ children, ¬IsBad child) →
      Describes document (.ok (described children))

/-! ## The block -/

theorem engineBlock_block (document : Document) : EngineBlock document (block document) := by
  unfold block
  cases found : document.find? fun node => node.name == nodeName with
  | none =>
      refine .absent fun node member => ?_
      simpa [nodeName] using List.find?_eq_none.mp found node member
  | some engine =>
      obtain ⟨isEngine, before, after, rfl, others⟩ := List.find?_eq_some_iff_append.mp found
      refine .first (fun node member => ?_) ?_
      · simpa [nodeName] using others node member
      · simpa [nodeName] using isEngine

/-- A document has only one block of settings. -/
theorem EngineBlock.eq_block {document : Document} {children : List Node}
    (isBlock : EngineBlock document children) : children = block document := by
  unfold block
  cases isBlock with
  | absent others =>
      have notFound : document.find? (fun node => node.name == nodeName) = none := by
        rw [List.find?_eq_none]
        intro node member
        simpa [nodeName] using others node member
      rw [notFound]
  | @first before after engine others isEngine =>
      have found : (before ++ engine :: after).find? (fun node => node.name == nodeName) =
          some engine := by
        rw [List.find?_eq_some_iff_append]
        refine ⟨by simpa [nodeName] using isEngine, before, after, rfl, ?_⟩
        intro node member
        simpa [nodeName] using others node member
      rw [found]

/-! ## One child -/

theorem lastArgument?_concat (key : String) (children : List Node) (child : Node) :
    lastArgument? key (children ++ [child]) =
      if child.name = key then child.firstArgument? else lastArgument? key children := by
  unfold lastArgument?
  by_cases same : child.name = key <;> simp [same, List.filter_append]

/-! ## Values -/

theorem ofName?_of_ne {name : String} (notSafe : name ≠ "safe") (notCore : name ≠ "core") :
    Libraries.ofName? name = none := by
  unfold Libraries.ofName?
  split
  · exact absurd rfl notSafe
  · exact absurd rfl notCore
  · rfl

theorem readLibraries_of_bad {value : Scalar} (notSafe : value ≠ .string "safe")
    (notCore : value ≠ .string "core") :
    readLibraries value = .error (match value with
      | .string name => .unknownLibraries name
      | value => .expects librariesKey "string" value) := by
  cases value with
  | string name =>
      have unknown : Libraries.ofName? name = none :=
        ofName?_of_ne (fun same => notSafe (same ▸ rfl)) (fun same => notCore (same ▸ rfl))
      simp [readLibraries, expectString, unknown, bind, Except.bind]
  | _ => rfl

theorem inRange_iff (bytes : Int) :
    (0 ≤ bytes ∧ bytes < memoryBound) ↔ 0 ≤ bytes ∧ bytes < UInt64.size := by
  unfold memoryBound
  omega

theorem readMemoryLimit_of_bad {value : Scalar}
    (outside : ¬∃ bytes : Int, 0 ≤ bytes ∧ bytes < UInt64.size ∧ value = .integer bytes) :
    readMemoryLimit value = .error (match value with
      | .integer bytes => .outOfRange memoryLimitKey bytes
      | value => .expects memoryLimitKey "integer" value) := by
  cases value with
  | integer bytes =>
      refine if_neg fun inRange => outside ?_
      obtain ⟨notNegative, small⟩ := (inRange_iff bytes).mp inRange
      exact ⟨bytes, notNegative, small, rfl⟩
  | _ => rfl

theorem readMemoryLimit_integer {bytes : Int} (notNegative : 0 ≤ bytes)
    (small : bytes < UInt64.size) :
    readMemoryLimit (.integer bytes) =
      .ok (if bytes = 0 then none else some bytes.toNat) :=
  if_pos ((inRange_iff bytes).mpr ⟨notNegative, small⟩)

theorem readChunkName_of_bad {value : Scalar}
    (outside : ¬∃ name, name ≠ "" ∧ value = .string name) :
    readChunkName value = .error (match value with
      | .string _ => .emptyName
      | value => .expects chunkNameKey "string" value) := by
  cases value with
  | string name =>
      have isEmpty : name = "" := by
        by_contra notEmpty
        exact outside ⟨name, notEmpty, rfl⟩
      subst isEmpty
      rfl
  | _ => rfl

theorem readChunkName_string {name : String} (notEmpty : name ≠ "") :
    readChunkName (.string name) = .ok name := by
  simp [readChunkName, expectString, bind, Except.bind, notEmpty]

/-! ## Children -/

/-- A child that does not fit is refused, whatever was read before it. -/
theorem apply_of_isBad {child : Node} (isBad : IsBad child) (settings : Settings) :
    apply settings child = .error (errorOf child) := by
  unfold IsBad at isBad
  unfold apply errorOf
  cases argument : child.firstArgument? with
  | none => rfl
  | some value =>
      rw [argument] at isBad
      rcases isBad with ⟨name, notSafe, notCore⟩ | ⟨name, outside⟩ | ⟨name, outside⟩
      · simp only [name, librariesKey, if_true, readLibraries_of_bad notSafe notCore]
        cases value <;> simp [bind, Except.bind]
      · simp only [name, librariesKey, memoryLimitKey, if_true, readMemoryLimit_of_bad outside]
        cases value <;> simp [bind, Except.bind]
      · simp only [name, librariesKey, memoryLimitKey, chunkNameKey, if_true,
          readChunkName_of_bad outside]
        cases value <;> simp [bind, Except.bind]

/-- A child that fits is taken over: what the children before it say is changed
in the child's own setting alone. -/
theorem apply_of_not_isBad {child : Node} (fits : ¬IsBad child) (children : List Node) :
    apply (described children) child = .ok (described (children ++ [child])) := by
  unfold IsBad at fits
  unfold apply described
  simp only [lastArgument?_concat]
  cases argument : child.firstArgument? with
  | none => simp [argument] at fits
  | some value =>
      rw [argument] at fits
      simp only [not_or, not_and, not_not] at fits
      obtain ⟨asLibraries, asLimit, asName⟩ := fits
      by_cases isLibraries : child.name = "libraries"
      · have known := asLibraries isLibraries
        by_cases isSafe : value = .string "safe"
        · simp [isLibraries, isSafe, librariesKey, readLibraries, expectString,
            Libraries.ofName?, bind, Except.bind, pure, Except.pure]
        · simp [isLibraries, known isSafe, librariesKey, readLibraries, expectString,
            Libraries.ofName?, bind, Except.bind, pure, Except.pure]
      · by_cases isLimit : child.name = "memory-limit"
        · obtain ⟨bytes, notNegative, small, rfl⟩ := asLimit isLimit
          simp [isLimit, librariesKey, memoryLimitKey, readMemoryLimit_integer notNegative small,
            bind, Except.bind, pure, Except.pure]
        · by_cases isName : child.name = "chunk-name"
          · obtain ⟨name, notEmpty, rfl⟩ := asName isName
            simp [isName, librariesKey, memoryLimitKey, chunkNameKey,
              readChunkName_string notEmpty, bind, Except.bind, pure, Except.pure]
          · simp [isLibraries, isLimit, isName, librariesKey, memoryLimitKey, chunkNameKey, pure,
              Except.pure]

/-! ## All children -/

/-- Children that all fit are taken over as `described` says. -/
theorem foldlM_apply_of_fits {children : List Node} (fits : ∀ child ∈ children, ¬IsBad child) :
    children.foldlM apply {} = .ok (described children) := by
  induction children using List.reverseRecOn with
  | nil => rfl
  | append_singleton children child ih =>
      have earlier := ih fun other member => fits other (by simp [member])
      have last := apply_of_not_isBad (fits child (by simp)) children
      simp only [List.foldlM_append, earlier, List.foldlM_cons, List.foldlM_nil, bind,
        Except.bind, last, pure, Except.pure]

/-- The first child that does not fit ends the reading with its error. -/
theorem foldlM_apply_of_isBad {before : List Node} {child : Node} (after : List Node)
    (fits : ∀ earlier ∈ before, ¬IsBad earlier) (isBad : IsBad child) :
    (before ++ child :: after).foldlM apply {} = .error (errorOf child) := by
  simp only [List.foldlM_append, foldlM_apply_of_fits fits, List.foldlM_cons, bind, Except.bind,
    apply_of_isBad isBad]

/-- Either all children fit, or there is a first one that does not. -/
theorem fits_or_first_isBad (children : List Node) :
    (∀ child ∈ children, ¬IsBad child) ∨
      ∃ before child after, children = before ++ child :: after ∧
        (∀ earlier ∈ before, ¬IsBad earlier) ∧ IsBad child := by
  induction children with
  | nil => exact .inl (by simp)
  | cons head rest ih =>
      by_cases isBad : IsBad head
      · exact .inr ⟨[], head, rest, rfl, by simp, isBad⟩
      · rcases ih with fits | ⟨before, child, after, rfl, fits, childIsBad⟩
        · exact .inl (by simpa [isBad] using fits)
        · exact .inr ⟨head :: before, child, after, rfl, by simpa [isBad] using fits, childIsBad⟩

theorem describes_ofDocument (document : Document) :
    Describes document (ofDocument document) := by
  have isBlock := engineBlock_block document
  unfold ofDocument
  rcases fits_or_first_isBad (block document) with
    fits | ⟨before, child, after, split, fits, isBad⟩
  · rw [foldlM_apply_of_fits fits]
    exact .good isBlock fits
  · rw [split] at isBlock ⊢
    rw [foldlM_apply_of_isBad after fits isBad]
    exact .bad isBlock fits isBad

theorem Describes.eq_ofDocument {document : Document} {result : Except SettingsError Settings}
    (describes : Describes document result) : result = ofDocument document := by
  unfold ofDocument
  cases describes with
  | @bad before after child isBlock fits isBad =>
      rw [← isBlock.eq_block]
      exact (foldlM_apply_of_isBad after fits isBad).symm
  | good isBlock fits =>
      rw [← isBlock.eq_block]
      exact (foldlM_apply_of_fits fits).symm

/-- Reading the settings of a document gives just what the document describes,
and a text describes what its document does. -/
theorem ofDocument_eq_iff_describes (document : Document) :
    (∀ result, ofDocument document = result ↔ Describes document result) ∧
      ∀ text, ofText text =
        match Document.read? text with
        | none => .error .document
        | some document => (ofDocument document).mapError .settings := by
  constructor
  · intro result
    constructor
    · intro same
      exact same ▸ describes_ofDocument document
    · intro describes
      exact describes.eq_ofDocument.symm
  · intro text
    unfold ofText
    cases Document.read? text with
    | none => rfl
    | some document =>
        dsimp only
        cases ofDocument document <;> rfl

end LuaSession.Settings
