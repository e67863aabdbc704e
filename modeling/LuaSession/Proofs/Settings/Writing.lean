import LuaSession.Proofs.Document.Lines
import LuaSession.Proofs.Settings.Unknown

/-!
# Settings that can be written

The settings that some text describes are those whose name is not empty and whose memory
limit, if there is one, is a positive number of 64 bits. Each of them has a document with
one line for each setting, however the name is spelled in it.
-/

namespace LuaSession.Settings

open Document

/-- Settings that a session can work with. -/
structure IsSensible (settings : Settings) : Prop where
  named : settings.chunkName ≠ ""
  limited : ∀ bytes, settings.memoryLimit = some bytes → 1 ≤ bytes ∧ bytes < UInt64.size

/-! ## What is read is sensible -/

theorem limited_of_readMemoryLimit {value : Scalar} {limit : Option Nat}
    (read : readMemoryLimit value = .ok limit) {bytes : Nat} (limited : limit = some bytes) :
    1 ≤ bytes ∧ bytes < UInt64.size := by
  subst limited
  cases value with
  | integer number =>
      simp only [readMemoryLimit, expectInteger, bind, Except.bind] at read
      split at read
      · rename_i inRange
        have small := inRange.2
        have zero : number ≠ 0 := by
          rintro rfl
          cases Except.ok.inj read
        rw [if_neg zero] at read
        obtain rfl : number.toNat = bytes := Option.some.inj (Except.ok.inj read)
        rw [memoryBound] at small
        omega
      · cases read
  | _ => cases read

theorem named_of_readChunkName {value : Scalar} {name : String}
    (read : readChunkName value = .ok name) : name ≠ "" := by
  cases value with
  | string text =>
      by_cases isEmpty : text = ""
      · subst isEmpty
        cases read
      · rw [readChunkName_string isEmpty] at read
        exact Except.ok.inj read ▸ isEmpty
  | _ => cases read

/-- No child makes settings senseless. -/
theorem IsSensible.apply {settings next : Settings} (sensible : settings.IsSensible)
    {child : Node} (applied : settings.apply child = .ok next) : next.IsSensible := by
  unfold Settings.apply at applied
  split at applied
  · cases applied
  · rename_i value argument
    split at applied
    · cases read : readLibraries value <;> rw [read] at applied <;> cases applied
      exact ⟨sensible.named, sensible.limited⟩
    split at applied
    · cases read : readMemoryLimit value <;> rw [read] at applied <;> cases applied
      exact ⟨sensible.named, fun bytes => limited_of_readMemoryLimit read⟩
    split at applied
    · cases read : readChunkName value <;> rw [read] at applied <;> cases applied
      exact ⟨named_of_readChunkName read, sensible.limited⟩
    · cases applied
      exact sensible

theorem IsSensible.foldlM_apply {children : List Node} {settings next : Settings}
    (sensible : settings.IsSensible) (applied : children.foldlM Settings.apply settings = .ok next) :
    next.IsSensible := by
  induction children generalizing settings with
  | nil =>
      cases applied
      exact sensible
  | cons child children ih =>
      rw [List.foldlM_cons] at applied
      cases first : settings.apply child with
      | error failure =>
          rw [first] at applied
          cases applied
      | ok later =>
          rw [first] at applied
          exact ih (sensible.apply first) applied

theorem ofText_eq_ok {text : String} {settings : Settings} :
    ofText text = .ok settings ↔
      ∃ document, Document.read? text = some document ∧ ofDocument document = .ok settings := by
  unfold ofText
  cases Document.read? text with
  | none => simp
  | some document => cases given : ofDocument document <;> simp [given]

theorem isSensible_of_ofText {text : String} {settings : Settings}
    (given : ofText text = .ok settings) : settings.IsSensible := by
  obtain ⟨document, -, given⟩ := ofText_eq_ok.mp given
  exact IsSensible.foldlM_apply ⟨by decide, by simp⟩ given

/-! ## A document for settings -/

/-- The nodes that give settings, without their block. No limit is zero. -/
def nodes (settings : Settings) : List Node :=
  [.mk librariesKey [⟨none, .string settings.libraries.name⟩] none,
    .mk memoryLimitKey [⟨none, .integer (settings.memoryLimit.getD 0 : Nat)⟩] none,
    .mk chunkNameKey [⟨none, .string settings.chunkName⟩] none]

/-- No limit and the number zero are the same. -/
theorem readMemoryLimit_getD {settings : Settings} (sensible : settings.IsSensible) :
    readMemoryLimit (.integer (settings.memoryLimit.getD 0 : Nat)) = .ok settings.memoryLimit := by
  cases given : settings.memoryLimit with
  | none => rfl
  | some bytes =>
      obtain ⟨positive, small⟩ := sensible.limited bytes given
      rw [Option.getD_some, readMemoryLimit_integer (by omega) (by omega),
        if_neg (by omega), Int.toNat_natCast]

theorem ofDocument_nodes {settings : Settings} (sensible : settings.IsSensible) :
    ofDocument [.mk nodeName [] (some settings.nodes)] = .ok settings := by
  have libraries : readLibraries (.string settings.libraries.name) = .ok settings.libraries := by
    simp [readLibraries, expectString, bind, Except.bind]
  have limit := readMemoryLimit_getD sensible
  have name := readChunkName_string sensible.named
  have block : ofDocument (withBlock [] [] settings.nodes []) = _ :=
    ofDocument_withBlock (by simp) [] settings.nodes []
  have limitKey : memoryLimitKey ≠ librariesKey := by decide
  have nameKey : chunkNameKey ≠ librariesKey ∧ chunkNameKey ≠ memoryLimitKey := by decide
  refine block.trans ?_
  simp [nodes, Settings.apply, Node.firstArgument?, Node.items, Node.name, limit, name, libraries,
    limitKey, nameKey]
  rfl

/-- A line of a block. -/
def line (indent : List Char) (key : String) (value : List Char) : List Char :=
  indent ++ key.toList ++ ' ' :: value ++ ['\n']

/-- The lines that give settings, the name in some spelling. -/
def lines (settings : Settings) (indent spelled : List Char) : List Char :=
  line indent librariesKey (quoted settings.libraries.name.toList) ++
    line indent memoryLimitKey (Nat.toDigits 10 (settings.memoryLimit.getD 0)) ++
    line indent chunkNameKey (quoted spelled)

/-- A document with those lines in a block. -/
def written (settings : Settings) (indent spelled : List Char) : String :=
  String.ofList (nodeName.toList ++ " \x7b\n".toList ++ settings.lines indent spelled ++
    "\x7d\n".toList)

theorem isName_key {key : String}
    (known : key ∈ [nodeName, librariesKey, memoryLimitKey, chunkNameKey]) :
    IsName key.toList := by
  simp only [List.mem_cons, List.not_mem_nil, or_false] at known
  rcases known with rfl | rfl | rfl | rfl <;> exact
    ⟨List.all_eq_true.mp (by decide), by decide⟩

/-- A line gives a node, also behind the break of the line before. -/
theorem readNodes?_setting {opening indent value : List Char}
    (breaks : ∀ c ∈ opening, isBreak c) (blank : ∀ c ∈ indent, isSpace c) {key : String}
    (known : key ∈ [nodeName, librariesKey, memoryLimitKey, chunkNameKey]) {scalar : Scalar}
    (isArgument : IsArgument value scalar) (fuel : Nat) (rest : List Char) :
    readNodes? (fuel + 4) (opening ++ line indent key value ++ rest) =
      (readNodes? (fuel + 3) rest).map fun (nodes, rest) =>
        (.mk key [⟨none, scalar⟩] none :: nodes, rest) := by
  have blank : ∀ c ∈ opening ++ indent, isSpace c || isBreak c := by
    intro c member
    rcases List.mem_append.mp member with opens | indents
    · simp [breaks c opens]
    · simp [blank c indents]
  have read := readNodes?_line blank (isName_key known) isArgument fuel rest
  rw [String.ofList_toList] at read
  rw [← read, line]
  simp

theorem spells_name (libraries : Libraries) :
    Spells libraries.name.toList libraries.name.toList := by
  have plain : libraries.name.toList = escaped libraries.name.toList := by
    cases libraries <;> decide
  rw [plain]
  exact plain ▸ spells_escaped _

theorem IsSensible.getD_lt {settings : Settings} (sensible : settings.IsSensible) :
    settings.memoryLimit.getD 0 < integerLimit := by
  have room : UInt64.size ≤ integerLimit := by decide
  cases given : settings.memoryLimit with
  | none => exact Nat.lt_of_lt_of_le (by decide) room
  | some bytes => exact Nat.lt_of_lt_of_le (sensible.limited bytes given).2 room

theorem readNodes?_lines {settings : Settings} (sensible : settings.IsSensible)
    {indent spelled : List Char} (blank : ∀ c ∈ indent, isSpace c)
    (spells : Spells spelled settings.chunkName.toList) (fuel : Nat) (rest : List Char) :
    readNodes? (fuel + 6) ('\n' :: settings.lines indent spelled ++ '\x7d' :: rest) =
      some (settings.nodes, '\x7d' :: rest) := by
  have libraries := isArgument_quoted (spells_name settings.libraries)
  have limit := isArgument_digits sensible.getD_lt
  have name := isArgument_quoted spells
  rw [String.ofList_toList] at libraries name
  have parts : '\n' :: settings.lines indent spelled ++ '\x7d' :: rest =
      ['\n'] ++ line indent librariesKey (quoted settings.libraries.name.toList) ++
        ([] ++ line indent memoryLimitKey (Nat.toDigits 10 (settings.memoryLimit.getD 0)) ++
          ([] ++ line indent chunkNameKey (quoted spelled) ++ '\x7d' :: rest)) := by
    simp [lines]
  rw [parts, readNodes?_setting (by simp [isBreak]) blank (by simp) libraries (fuel + 2),
    readNodes?_setting (by simp) blank (by simp) limit (fuel + 1),
    readNodes?_setting (by simp) blank (by simp) name fuel, readNodes?_closing]
  rfl

theorem read?_written {settings : Settings} (sensible : settings.IsSensible)
    {indent spelled : List Char} (blank : ∀ c ∈ indent, isSpace c)
    (spells : Spells spelled settings.chunkName.toList) :
    Document.read? (settings.written indent spelled) =
      some [.mk nodeName [] (some settings.nodes)] := by
  let body := '\n' :: settings.lines indent spelled ++ "\x7d\n".toList
  have toList : (settings.written indent spelled).toList =
      nodeName.toList ++ ' ' :: '\x7b' :: body := by
    simp [written, body]
  have enough : 12 ≤ 3 * (settings.written indent spelled).toList.length + 3 := by
    rw [toList]
    simp [nodeName]
    omega
  obtain ⟨fuel, fuelIs⟩ := Nat.exists_eq_add_of_le' enough
  have isName : IsName nodeName.toList := isName_key (by simp)
  have node : readNodes? _ ([] ++ nodeName.toList ++ ' ' :: '\x7b' :: body) = _ :=
    readNodes?_name (by simp) isName
      (readParts?_block (readNodes?_lines sensible blank spells (fuel + 2) ['\n']))
  refine read?_of_readNodes? (by simp [toList, nodeName]) ?_
  rw [fuelIs, toList]
  rw [readNodes?_nil] at node
  exact node

/-- The settings that some text describes are the sensible ones. For these a document with a
line for each setting can be written, however the name is spelled, and describes them; one
spelling of any name escapes all that may not stand between quotes as it is, and all control
characters. -/
theorem exists_ofText_iff_isSensible (settings : Settings) :
    ((∃ text, ofText text = .ok settings) ↔ settings.IsSensible) ∧
    (settings.IsSensible → ∀ indent spelled, (∀ c ∈ indent, isSpace c) →
      Spells spelled settings.chunkName.toList →
        Document.read? (settings.written indent spelled) =
          some [.mk nodeName [] (some settings.nodes)] ∧
        ofText (settings.written indent spelled) = .ok settings) ∧
    Spells (escaped settings.chunkName.toList) settings.chunkName.toList := by
  have reads (sensible : settings.IsSensible) (indent spelled : List Char)
      (blank : ∀ c ∈ indent, isSpace c) (spells : Spells spelled settings.chunkName.toList) :
      Document.read? (settings.written indent spelled) =
        some [.mk nodeName [] (some settings.nodes)] ∧
      ofText (settings.written indent spelled) = .ok settings :=
    have read := read?_written sensible blank spells
    ⟨read, ofText_eq_ok.mpr ⟨_, read, ofDocument_nodes sensible⟩⟩
  refine ⟨⟨fun ⟨_, given⟩ => isSensible_of_ofText given, fun sensible => ?_⟩, reads,
    spells_escaped _⟩
  exact ⟨_, (reads sensible [] _ (by simp) (spells_escaped _)).2⟩

/-- The largest limit, and a name of a quote and the character zero. -/
theorem exists_ofText_iff_isSensible_largest :
    ofText ("engine \x7b\n    libraries \"core\"\n    memory-limit 18446744073709551615\n" ++
        "    chunk-name \"\\\"\\u\x7b0\x7d\"\n\x7d\n") =
      .ok { libraries := .core, memoryLimit := some (UInt64.size - 1), chunkName := "\"\x00" } := by
  let settings : Settings :=
    { libraries := .core, memoryLimit := some (UInt64.size - 1), chunkName := "\"\x00" }
  have sensible : settings.IsSensible := by
    refine ⟨by decide, fun bytes limited => ?_⟩
    obtain rfl := Option.some.inj limited
    decide
  obtain ⟨-, reads, spells⟩ := exists_ofText_iff_isSensible settings
  have written : settings.written (List.replicate 4 ' ') (escaped settings.chunkName.toList) =
      "engine \x7b\n    libraries \"core\"\n    memory-limit 18446744073709551615\n" ++
        "    chunk-name \"\\\"\\u\x7b0\x7d\"\n\x7d\n" := by
    decide +kernel
  have blank : ∀ c ∈ List.replicate 4 ' ', isSpace c := by
    intro c member
    rw [List.eq_of_mem_replicate member]
    rfl
  rw [← written]
  exact (reads sensible _ _ blank spells).2

end LuaSession.Settings
