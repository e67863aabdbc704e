import LuaSession.Proofs.Syntax.Environment
import LuaSession.Proofs.Text.Encoding

/-!
# The name of a script

The host names its scripts behind a sign that says that the name is to be shown as it is.
As many bytes of it are shown as there is room for, and the function that a script is
carries what is shown.
-/

namespace LuaSession.Syntax

open LuaSession.Script

/-! ## Names as they are shown -/

theorem findIdx?_zero_eq_none_iff {bytes : List UInt8} :
    bytes.findIdx? (· == 0) = none ↔ (0 : UInt8) ∉ bytes := by
  simp only [List.findIdx?_eq_none_iff, beq_eq_false_iff_ne]
  exact ⟨fun other member => other 0 member rfl, fun noZero byte member isZero =>
    noZero (isZero ▸ member)⟩

theorem beforeZero_eq_self {bytes : Bytes} (noZero : (0 : UInt8) ∉ bytes.toList) :
    beforeZero bytes = bytes := by
  rw [beforeZero, findIdx?_zero_eq_none_iff.mpr noZero]

/-- What ends at the first zero byte does so behind bytes that are none. -/
theorem beforeZero_append {front : Bytes} (noZero : (0 : UInt8) ∉ front.toList) (rest : Bytes) :
    beforeZero (front ++ rest) = front ++ beforeZero rest := by
  rw [beforeZero, beforeZero, toList_append, List.findIdx?_append, findIdx?_zero_eq_none_iff.mpr noZero]
  cases rest.toList.findIdx? (· == 0) with
  | none => rfl
  | some place =>
      have length : front.toList.length = front.size := by simp
      have whole : front.extract 0 (place + front.size) = front := by
        rw [ByteArray.ext_iff, ByteArray.data_extract]
        exact Array.extract_eq_self_of_le (Nat.le_add_left _ _)
      simp only [Option.none_or, Option.map_some, length]
      rw [ByteArray.extract_append, whole, Nat.zero_sub, Nat.add_sub_cancel]

/-- A text has a zero byte where it has the character. -/
theorem zero_mem_encode_iff {cs : List Char} : (0 : UInt8) ∈ Utf8.encode cs ↔ '\x00' ∈ cs := by
  constructor
  · intro member
    obtain ⟨c, isMember, inside⟩ := List.mem_flatMap.mp member
    rcases Utf8.encode_byte inside with same | large
    · have isZero : c = '\x00' := Char.toNat_inj.mp same.symm
      exact isZero ▸ isMember
    · exact absurd large (by decide)
  · exact fun member => List.mem_flatMap.mpr ⟨'\x00', member, by decide⟩

theorem toUTF8_named (name : String) : s!"={name}".toUTF8 = "=".toUTF8 ++ name.toUTF8 := by
  simp [toString]

theorem toList_named (name : String) :
    s!"={name}".toUTF8.toList = 0x3D :: Utf8.encode name.toList := by
  simp only [Utf8.toList_toUTF8]
  simp [toString, String.utf8EncodeChar]

theorem zero_mem_named_iff {name : String} :
    (0 : UInt8) ∈ s!"={name}".toUTF8.toList ↔ '\x00' ∈ name.toList := by
  rw [toList_named, List.mem_cons, zero_mem_encode_iff, or_iff_right (by decide)]

/-- A name does not break off if it has no zero byte. -/
theorem findIdx?_named_eq_none_iff {name : String} :
    s!"={name}".toUTF8.toList.findIdx? (· == 0) = none ↔ '\x00' ∉ name.toList := by
  rw [findIdx?_zero_eq_none_iff, zero_mem_named_iff]

/-- What is shown of a name without a zero byte: the bytes that there is room for. -/
theorem shownName_named {name : String} (noZero : '\x00' ∉ name.toList) :
    shownName s!"={name}".toUTF8 = name.toUTF8.extract 0 nameRoom := by
  have sign : "=".toUTF8.extract 1 (nameRoom + 1) = ByteArray.empty := rfl
  rw [shownName, beforeZero_eq_self (not_congr zero_mem_named_iff |>.mpr noZero)]
  simp only [toList_named]
  rw [toUTF8_named, ByteArray.extract_append, sign, ByteArray.empty_append]
  rfl

theorem zero_not_mem_shownName {name : String} (noZero : '\x00' ∉ name.toList) :
    (0 : UInt8) ∉ (shownName s!"={name}".toUTF8).toList := by
  rw [shownName_named noZero]
  intro member
  have inside : (0 : UInt8) ∈ name.toUTF8.toList := by
    rw [toList_eq_data] at member ⊢
    rw [ByteArray.data_extract, Array.toList_extract] at member
    exact List.mem_of_mem_drop (List.mem_of_mem_take member)
  rw [Utf8.toList_toUTF8, zero_mem_encode_iff] at inside
  exact noZero inside

/-! ## The name that a script carries -/

namespace Read

variable {α β : Type} {chunk : Bytes}

/-- The name of the text that is read. -/
def Of (chunk : Bytes) (s : ReadState) : Prop := s.chunk = chunk

/-- Whatever is read, its name stays. -/
def KeepsName (run : Read α) : Prop := ∀ chunk, run.Leads (Of chunk) (Of chunk)

theorem keepsName_bind {run : Read α} {f : α → Read β} (first : run.KeepsName)
    (later : ∀ value, (f value).KeepsName) : (run >>= f).KeepsName :=
  fun chunk => (first chunk).bind fun value => later value chunk

theorem keepsName_pure (value : α) : (pure value : Read α).KeepsName := by
  intro chunk s found t holds succeeds
  cases succeeds
  exact holds

theorem keepsName_get : (get : Read ReadState).KeepsName := by
  intro chunk s found t holds succeeds
  cases succeeds
  exact holds

theorem keepsName_throw (trouble : Trouble) : (throw trouble : Read α).KeepsName :=
  fun _ => leads_throw trouble

theorem keepsName_modify {f : ReadState → ReadState} (same : ∀ s, (f s).chunk = s.chunk) :
    (modify f : Read Unit).KeepsName :=
  fun _ => leads_modify fun s holds => (same s).trans holds

/-- A reader that puts another state in the place of the one that it has looked at. -/
theorem keepsName_get_bind {f : ReadState → Read α}
    (later : ∀ s, (f s).Leads (· = s) (Of s.chunk)) :
    ((get : Read ReadState) >>= f).KeepsName := by
  rintro _ s value t rfl succeeds
  exact later s s value t rfl succeeds

theorem keepsName_lex : lex.KeepsName := by
  unfold lex
  refine keepsName_get_bind fun s => ?_
  split
  · refine (leads_set (Q := Of s.chunk) ?_).bind fun _ => keepsName_pure _ _
    rfl
  · exact leads_throw _

theorem keepsName_advance : advance.KeepsName := by
  unfold advance
  refine keepsName_get_bind fun s => ?_
  split
  · exact leads_set rfl
  · refine (leads_set (Q := Of s.chunk) ?_).bind fun _ => ?_
    · rfl
    · refine keepsName_bind keepsName_lex (fun token => ?_) s.chunk
      exact keepsName_modify fun _ => rfl

theorem keepsName_accept (expected : Token) : (accept expected).KeepsName := by
  refine keepsName_bind keepsName_get fun s => ?_
  split
  · exact keepsName_bind keepsName_advance fun _ => keepsName_pure _
  · exact keepsName_pure _

theorem keepsName_enter : enter.KeepsName := by
  unfold enter
  refine keepsName_get_bind fun s => ?_
  have deeper := leads_set (P := (· = s)) (t := { s with depth := s.depth + 1 })
    (Q := Of s.chunk) rfl
  split
  · exact (leads_throw (Q := (· = s)) _).bind fun _ => deeper
  · exact deeper

theorem keepsName_meaning (name : Bytes) : (meaning name).KeepsName := by
  unfold meaning
  refine keepsName_get_bind fun s => ?_
  split
  · refine (leads_set (Q := Of s.chunk) ?_).bind fun _ => keepsName_pure _ _
    rfl
  · rintro _ value t rfl succeeds
    cases succeeds
    rfl
  · rintro u value t rfl succeeds
    exact keepsName_bind keepsName_get (fun _ => keepsName_throw _) u.chunk u value t rfl succeeds

theorem keepsName_endFunction : endFunction.KeepsName :=
  keepsName_modify fun s => by split <;> rfl

/-- No reader of the grammar changes the name of the text. -/
def naming : Judgement where
  Relates _ _ run _ := run.KeepsName
  Closes := KeepsName
  extra := 0
  relates_mono keeps _ _ := keeps
  relates_bind first later _ _ := keepsName_bind first later
  relates_pure value _ := keepsName_pure value
  relates_idle keeps _ := keeps
  relates_size keeps _ := keepsName_bind keepsName_get fun s => keeps s.size
  relates_get keeps _ := keepsName_bind keepsName_get keeps
  relates_fail _ _ _ := keepsName_bind keepsName_get fun _ => keepsName_throw _
  relates_failMeaning _ _ _ := keepsName_bind keepsName_get fun _ => keepsName_throw _
  relates_tooDeep _ _ := keepsName_throw .tooDeep
  relates_advance _ := keepsName_advance
  relates_lookAhead _ := keepsName_bind keepsName_lex fun _ =>
    keepsName_bind (keepsName_modify fun _ => rfl) fun _ => keepsName_pure _
  relates_accept expected yes no _ _ := keepsName_bind (keepsName_accept expected) (Bool.rec no yes)
  relates_enter _ := keepsName_enter
  relates_leave _ := keepsName_modify fun _ => rfl
  relates_modifyScope _ _ := keepsName_modify fun _ => rfl
  relates_meaning name _ := keepsName_meaning name
  relates_beginFunction _ closes _ := keepsName_bind (keepsName_modify fun _ => rfl) fun _ => closes
  closes_endFunction := keepsName_endFunction
  closes_bind keeps := keepsName_bind (keeps 0)
  closes_then closes keeps := keepsName_bind closes fun value => keeps value 0

theorem gives_closeFunction_name (parameters : Nat) :
    (closeFunction parameters).Gives (Of chunk) fun info => info.chunk = chunk := by
  have closed : (closeBlock).Leads (Of chunk) (Of chunk) :=
    (holds_closeBlock (J := naming)) 0 chunk
  refine closed.bind_gives fun _ =>
    gives_bind (M := fun info => info.chunk = chunk) ?_ ?_
  · intro s info t holds succeeds
    cases succeeds
    exact holds
  · exact fun info found => (leads_anywhere (modify _)).bind_gives fun _ => gives_pure found

end Read

/-- The function that a script is carries the name that is shown of the script. -/
theorem chunk_readScript {chunk bytes : Bytes} {depth : Nat} {code : Code}
    (read : readScript chunk depth bytes = .ok code) : code.info.chunk = chunk := by
  have gives : Read.script.Gives (Read.Of chunk) fun code => code.info.chunk = chunk :=
    Read.gives_script_of (J := Read.naming) (fun holds => holds 0 chunk)
      (Read.gives_closeFunction_name 0)
  rw [readScript] at read
  split at read
  next run =>
    cases read
    exact gives _ _ _ (by exact rfl) run
  next => contradiction

end LuaSession.Syntax
