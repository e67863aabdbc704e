import LuaSession.Script.Evaluate

/-!
# Values that scripts may see

A veil hides some tables from scripts. A value is visible in a view of a heap if it is none
that is hidden or still to come. What is visible stays so while the heap grows, whatever is
hidden of the tables that are made later.
-/

namespace LuaSession.Script

/-- The tables that are hidden from scripts, and what they hold. -/
abbrev Veil := Nat → Option Table

/-- What scripts may see of a heap: of so many tables those that are not hidden. -/
structure View where
  veil : Veil
  size : Nat

/-- One view has at least as many tables as another one, and all that the other one shows. -/
structure Grown (m n : View) : Prop where
  size : m.size ≤ n.size
  isOpen : ∀ ref < m.size, m.veil ref = none → n.veil ref = none

theorem Grown.refl (n : View) : Grown n n := ⟨Nat.le_refl _, fun _ _ isOpen => isOpen⟩

theorem Grown.trans {l m n : View} (first : Grown l m) (second : Grown m n) : Grown l n where
  size := Nat.le_trans first.size second.size
  isOpen ref inside isOpen :=
    second.isOpen ref (Nat.lt_of_lt_of_le inside first.size) (first.isOpen ref inside isOpen)

/-- A table that is there and not hidden. -/
structure Shown (n : View) (ref : Nat) : Prop where
  inside : ref < n.size
  isOpen : n.veil ref = none

attribute [grind →] Shown.isOpen

@[grind →] theorem Shown.grow {m n : View} {ref : Nat} (shown : Shown m ref) (grown : Grown m n) :
    Shown n ref :=
  ⟨Nat.lt_of_lt_of_le shown.inside grown.size, grown.isOpen ref shown.inside shown.isOpen⟩

/-- Data that may hold values: when all of them are visible. -/
class Holds (α : Type) where
  visible : View → α → Prop
  grow : ∀ {m n : View} {data : α}, visible m data → Grown m n → visible n data

/-- In a view, every value in the data is visible. -/
def Visible {α : Type} [Holds α] (n : View) (data : α) : Prop :=
  Holds.visible n data

variable {α β : Type} {m n : View}

@[grind →] theorem Visible.grow [Holds α] {data : α} (visible : Visible m data)
    (grown : Grown m n) : Visible n data :=
  Holds.grow visible grown

/-- Data of other types holds no values. -/
instance (priority := low) Holds.nothing : Holds α where
  visible _ _ := True
  grow _ _ := trivial

@[simp, grind .] theorem visible_nothing (data : α) :
    @Visible α Holds.nothing n data := trivial

/-! ## Values -/

/-- A value that is no hidden table and none that is still to come. -/
def Value.IsVisible (n : View) : Value → Prop
  | .table ref => Shown n ref
  | _ => True

instance : Holds Value where
  visible := Value.IsVisible
  grow {m n value} visible grown := by
    cases value with
    | table ref => exact Shown.grow visible grown
    | _ => trivial

@[simp, grind =] theorem visible_table {ref : Nat} :
    Visible n (Value.table ref) ↔ Shown n ref := Iff.rfl

@[simp, grind .] theorem visible_nil : Visible n Value.nil := trivial

@[simp, grind .] theorem visible_bool (b : Bool) : Visible n (Value.bool b) := trivial

@[simp, grind .] theorem visible_int (i : Int64) : Visible n (Value.int i) := trivial

@[simp, grind .] theorem visible_float (x : Binary64) : Visible n (Value.float x) := trivial

@[simp, grind .] theorem visible_str (bytes : Bytes) : Visible n (Value.str bytes) := trivial

@[simp, grind .] theorem visible_closure (ref : Nat) : Visible n (Value.closure ref) := trivial

@[simp, grind .] theorem visible_builtin (function : Builtin) :
    Visible n (Value.builtin function) := trivial

@[simp, grind .] theorem visible_native (ref : Nat) : Visible n (Value.native ref) := trivial

@[simp, grind .] theorem visible_thread (ref : Nat) : Visible n (Value.thread ref) := trivial

@[simp, grind .] theorem visible_handle (ref : Nat) : Visible n (Value.handle ref) := trivial

@[simp, grind .] theorem visible_ofString (text : String) : Visible n (Value.ofString text) :=
  trivial

@[simp, grind .] theorem visible_ofNat (k : Nat) : Visible n (Value.ofNat k) := trivial

@[simp, grind .] theorem visible_ofNumber (number : Number) :
    Visible n (Value.ofNumber number) := by
  cases number <;> trivial

@[simp, grind .] theorem visible_constant (constant : Constant) :
    Visible n constant.value := by
  cases constant <;> trivial

@[grind ←] theorem visible_key {value : Value} (visible : Visible n value) :
    Visible n value.key := by
  unfold Value.key
  split
  · split <;> exact trivial
  · exact visible

/-! ## Collections of values -/

instance [Holds α] : Holds (List α) where
  visible n list := ∀ member ∈ list, Visible n member
  grow visible grown member isMember := (visible member isMember).grow grown

instance [Holds α] : Holds (Array α) where
  visible n array := ∀ member ∈ array, Visible n member
  grow visible grown member isMember := (visible member isMember).grow grown

instance [Holds α] : Holds (Option α) where
  visible n option := ∀ member ∈ option, Visible n member
  grow visible grown member isMember := (visible member isMember).grow grown

instance [Holds α] [Holds β] : Holds (α × β) where
  visible n pair := Visible n pair.1 ∧ Visible n pair.2
  grow visible grown := ⟨visible.1.grow grown, visible.2.grow grown⟩

instance [Holds α] [Holds β] : Holds (Except α β) where
  visible n
    | .error error => Visible n error
    | .ok value => Visible n value
  grow {m n result} visible grown := by
    cases result <;> exact Visible.grow visible grown

section Collections

variable [Holds α] [Holds β]

theorem visible_list_iff {list : List α} :
    Visible n list ↔ ∀ member ∈ list, Visible n member := Iff.rfl

theorem visible_array_iff {array : Array α} :
    Visible n array ↔ ∀ member ∈ array, Visible n member := Iff.rfl

@[grind →] theorem Visible.of_mem_list {list : List α} {member : α} (visible : Visible n list)
    (isMember : member ∈ list) : Visible n member := visible member isMember

@[grind →] theorem Visible.of_mem {array : Array α} {member : α} (visible : Visible n array)
    (isMember : member ∈ array) : Visible n member := visible member isMember

@[simp, grind .] theorem visible_list_nil : Visible n ([] : List α) := by
  simp [visible_list_iff]

@[simp, grind =] theorem visible_cons {member : α} {list : List α} :
    Visible n (member :: list) ↔ Visible n member ∧ Visible n list := by
  simp [visible_list_iff]

@[simp, grind =] theorem visible_list_append {first second : List α} :
    Visible n (first ++ second) ↔ Visible n first ∧ Visible n second := by
  simp [visible_list_iff, or_imp, forall_and]

@[simp] theorem visible_toArray {list : List α} :
    Visible n list.toArray ↔ Visible n list := by
  simp [visible_list_iff, visible_array_iff]

@[grind .] theorem visible_empty : Visible n (#[] : Array α) := by simp

@[grind ←] theorem visible_one {first : α} (isFirst : Visible n first) :
    Visible n #[first] := by
  simp [isFirst]

@[grind ←] theorem visible_two {first second : α} (isFirst : Visible n first)
    (isSecond : Visible n second) : Visible n #[first, second] := by
  simp [isFirst, isSecond]

@[grind ←] theorem visible_three {first second third : α} (isFirst : Visible n first)
    (isSecond : Visible n second) (isThird : Visible n third) :
    Visible n #[first, second, third] := by
  simp [isFirst, isSecond, isThird]

@[simp, grind =] theorem visible_toList {array : Array α} :
    Visible n array.toList ↔ Visible n array := by
  simp [visible_list_iff, visible_array_iff]

@[grind ←] theorem visible_drop {list : List α} (visible : Visible n list) (k : Nat) :
    Visible n (list.drop k) :=
  fun member isMember => visible member (List.mem_of_mem_drop isMember)

@[simp, grind =] theorem visible_push {array : Array α} {member : α} :
    Visible n (array.push member) ↔ Visible n array ∧ Visible n member := by
  simp [visible_array_iff, or_imp, forall_and]

@[simp, grind =] theorem visible_append {first second : Array α} :
    Visible n (first ++ second) ↔ Visible n first ∧ Visible n second := by
  simp [visible_array_iff, or_imp, forall_and]

@[grind ←] theorem visible_extract {array : Array α} (visible : Visible n array)
    (start stop : Nat) : Visible n (array.extract start stop) := by
  intro member isMember
  obtain ⟨place, _, rfl⟩ := Array.mem_extract_iff_getElem.mp isMember
  exact visible _ (Array.getElem_mem _)

@[grind ←] theorem visible_replicate (k : Nat) {member : α} (visible : Visible n member) :
    Visible n (Array.replicate k member) := by
  intro other isMember
  obtain rfl := Array.eq_of_mem_replicate isMember
  exact visible

@[grind ←] theorem visible_setIfInBounds {array : Array α} {member : α}
    (visible : Visible n array) (isVisible : Visible n member) (place : Nat) :
    Visible n (array.setIfInBounds place member) := by
  intro other isMember
  obtain isOld | rfl := Array.mem_or_eq_of_mem_setIfInBounds isMember
  · exact visible other isOld
  · exact isVisible

@[grind ←] theorem visible_getElem? {array : Array α} (visible : Visible n array) (place : Nat) :
    Visible n array[place]? :=
  fun member found => visible member (Array.mem_of_getElem? (Option.mem_def.mp found))

@[grind ←] theorem visible_getInternal {array : Array α} (visible : Visible n array)
    {place : Nat} (inside : place < array.size) : Visible n (array.getInternal place inside) :=
  visible _ (Array.getElem_mem inside)

theorem visible_getD {array : Array α} {standard : α} (visible : Visible n array)
    (isVisible : Visible n standard) (place : Nat) :
    Visible n (array.getD place standard) := by
  rw [Array.getD_eq_getD_getElem?]
  cases found : array[place]? with
  | none => exact isVisible
  | some member => exact visible member (Array.mem_of_getElem? found)

@[simp, grind .] theorem visible_none : Visible n (none : Option α) := by
  rintro _ ⟨⟩

@[simp, grind =] theorem visible_some {member : α} :
    Visible n (some member) ↔ Visible n member := by
  simp [Visible, Holds.visible]

@[grind ←] theorem visible_option {option : Option α}
    (visible : ∀ member, option = some member → Visible n member) : Visible n option :=
  fun member isMember => visible member (Option.mem_def.mp isMember)

@[grind ←] theorem visible_option_getD {option : Option α} {standard : α}
    (visible : Visible n option) (isVisible : Visible n standard) :
    Visible n (option.getD standard) := by
  cases option with
  | none => exact isVisible
  | some member => exact visible_some.mp visible

@[simp, grind =] theorem visible_pair {first : α} {second : β} :
    Visible n (first, second) ↔ Visible n first ∧ Visible n second := Iff.rfl

@[grind ←] theorem visible_of_parts {pair : α × β} (first : Visible n pair.1)
    (second : Visible n pair.2) : Visible n pair := ⟨first, second⟩

@[grind →] theorem Visible.fst {pair : α × β} (visible : Visible n pair) :
    Visible n pair.1 := visible.1

@[grind →] theorem Visible.snd {pair : α × β} (visible : Visible n pair) :
    Visible n pair.2 := visible.2

@[simp, grind =] theorem visible_error {error : α} :
    Visible n (Except.error error : Except α β) ↔ Visible n error := Iff.rfl

@[simp, grind =] theorem visible_ok {value : β} :
    Visible n (Except.ok value : Except α β) ↔ Visible n value := Iff.rfl

end Collections

@[simp, grind .] theorem visible_list_nothing (list : List α) :
    @Visible _ (@instHoldsList α Holds.nothing) n list := fun _ _ => trivial

@[simp, grind .] theorem visible_option_nothing (option : Option α) :
    @Visible _ (@instHoldsOption α Holds.nothing) n option := fun _ _ => trivial

@[simp, grind .] theorem visible_except_nothing (result : Except α β) :
    @Visible _ (@instHoldsExcept α β Holds.nothing Holds.nothing) n result := by
  cases result <;> trivial

@[grind ←] theorem visible_firstOf {values : Array Value} (visible : Visible n values) :
    Visible n (firstOf values) :=
  visible_getD visible visible_nil 0

/-! ## What evaluation asks for and is answered with -/

instance : Holds Exit where
  visible n
    | .returned values => Visible n values
    | .tail function arguments _ => Visible n function ∧ Visible n arguments
    | .caught value _ => Visible n value
    | .abandoned error pending => Visible n error ∧ Visible n pending
    | _ => True
  grow {m n exit} visible grown := by
    cases exit with
    | returned _ | caught _ _ => exact Visible.grow visible grown
    | tail _ _ _ | abandoned _ _ => exact ⟨visible.1.grow grown, visible.2.grow grown⟩
    | _ => trivial

instance : Holds Raised where
  visible n
    | .error value | .handled value => Visible n value
    | .memory => True
  grow {m n raised} visible grown := by
    cases raised with
    | memory => trivial
    | _ => exact Visible.grow visible grown

instance : Holds Handler where
  visible n
    | .script function => Visible n function
    | _ => True
  grow {m n handler} visible grown := by
    cases handler with
    | script _ => exact Visible.grow visible grown
    | _ => trivial

instance : Holds Request where
  visible n
    | .call function arguments _ => Visible n function ∧ Visible n arguments
    | .guarded value _ _ _ => Visible n value
    | .protect handler _ function arguments =>
        Visible n handler ∧ Visible n function ∧ Visible n arguments
    | .resume _ arguments => Visible n arguments
    | .yield values => Visible n values
    | .spawn function => Visible n function
    | _ => True
  grow {m n request} visible grown := by
    cases request with
    | call _ _ _ => exact ⟨visible.1.grow grown, visible.2.grow grown⟩
    | protect _ _ _ _ =>
        exact ⟨visible.1.grow grown, visible.2.1.grow grown, visible.2.2.grow grown⟩
    | guarded _ _ _ _ | resume _ _ | yield _ | spawn _ => exact Visible.grow visible grown
    | _ => trivial

section Exits

variable {value function : Value} {values arguments : Array Value}

@[simp, grind .] theorem visible_fell : Visible n Exit.fell := trivial

@[simp, grind .] theorem visible_broke : Visible n Exit.broke := trivial

@[simp, grind .] theorem visible_again : Visible n Exit.again := trivial

@[simp, grind .] theorem visible_jumped (label : Bytes) : Visible n (Exit.jumped label) := trivial

@[simp, grind =] theorem visible_returned :
    Visible n (Exit.returned values) ↔ Visible n values := Iff.rfl

@[simp, grind =] theorem visible_tail {site : Site} :
    Visible n (Exit.tail function arguments site) ↔
      Visible n function ∧ Visible n arguments := Iff.rfl

@[simp, grind =] theorem visible_caught {isMemory : Bool} :
    Visible n (Exit.caught value isMemory) ↔ Visible n value := Iff.rfl

@[simp, grind =] theorem visible_abandoned {error : Option Value} {pending : List Value} :
    Visible n (Exit.abandoned error pending) ↔
      Visible n error ∧ Visible n pending := Iff.rfl

@[simp, grind =] theorem visible_raised : Visible n (Raised.error value) ↔ Visible n value :=
  Iff.rfl

@[simp, grind =] theorem visible_handled :
    Visible n (Raised.handled value) ↔ Visible n value := Iff.rfl

@[simp, grind .] theorem visible_memory : Visible n Raised.memory := trivial

@[simp, grind .] theorem visible_noHandler : Visible n Handler.none := trivial

@[simp, grind .] theorem visible_hostHandler : Visible n Handler.host := trivial

@[simp, grind =] theorem visible_scriptHandler :
    Visible n (Handler.script function) ↔ Visible n function := Iff.rfl

@[simp, grind =] theorem visible_call {site : Site} :
    Visible n (Request.call function arguments site) ↔
      Visible n function ∧ Visible n arguments := Iff.rfl

@[simp, grind .] theorem visible_loop (loop : Loop) : Visible n (Request.loop loop) := trivial

@[simp, grind .] theorem visible_labelled (body : List Stmt) (condition : Option Expr) :
    Visible n (Request.labelled body condition) := trivial

@[simp, grind =] theorem visible_guarded {name : Bytes} {line : Nat} {body : Guarded} :
    Visible n (Request.guarded value name line body) ↔ Visible n value := Iff.rfl

@[simp, grind =] theorem visible_protect {handler : Handler} {isSealed : Bool} :
    Visible n (Request.protect handler isSealed function arguments) ↔
      Visible n handler ∧ Visible n function ∧ Visible n arguments := Iff.rfl

@[simp, grind =] theorem visible_resume {thread : Nat} :
    Visible n (Request.resume thread arguments) ↔ Visible n arguments := Iff.rfl

@[simp, grind =] theorem visible_yield :
    Visible n (Request.yield values) ↔ Visible n values := Iff.rfl

@[simp, grind =] theorem visible_spawn :
    Visible n (Request.spawn function) ↔ Visible n function := Iff.rfl

@[simp, grind .] theorem visible_abandon (thread : Nat) : Visible n (Request.abandon thread) :=
  trivial

@[simp, grind .] theorem visible_canYield : Visible n Request.canYield := trivial

@[simp, grind .] theorem visible_position (level : Nat) : Visible n (Request.position level) :=
  trivial

@[simp, grind .] theorem visible_depth : Visible n Request.depth := trivial

@[simp, grind .] theorem visible_collect : Visible n Request.collect := trivial

end Exits

/-! ## Tables -/

instance : Holds Pair where
  visible n pair := Visible n pair.key ∧ Visible n pair.value
  grow visible grown := ⟨visible.1.grow grown, visible.2.grow grown⟩

@[simp, grind =] theorem visible_mk_pair {key value : Value} :
    Visible n (⟨key, value⟩ : Pair) ↔ Visible n key ∧ Visible n value := Iff.rfl

@[grind →] theorem Visible.key {pair : Pair} (visible : Visible n pair) :
    Visible n pair.key := visible.1

@[grind →] theorem Visible.value {pair : Pair} (visible : Visible n pair) :
    Visible n pair.value := visible.2

/-- Everything that a table refers to is visible. -/
structure Table.IsVisible (n : View) (t : Table) : Prop where
  array : Visible n t.array
  pairs : Visible n t.pairs
  metatable : ∀ ref ∈ t.metatable, Shown n ref

instance : Holds Table where
  visible := Table.IsVisible
  grow visible grown :=
    ⟨visible.array.grow grown, visible.pairs.grow grown,
      fun ref isMetatable => (visible.metatable ref isMetatable).grow grown⟩

namespace Table

variable {t : Table} {key value : Value}

theorem visible_mk {array : Array Value} {pairs : Array Pair} {index : Std.HashMap Value Nat}
    {capacity : Nat} {metatable : Option Nat} (visibleArray : Visible n array)
    (visiblePairs : Visible n pairs) (shown : ∀ ref ∈ metatable, Shown n ref) :
    Visible n ({ array, pairs, index, capacity, metatable } : Table) :=
  ⟨visibleArray, visiblePairs, shown⟩

theorem visible_ofArray {values : Array Value} (visible : Visible n values) :
    Visible n (ofArray values) :=
  ⟨visible, by simp [ofArray], by simp [ofArray]⟩

/-- A new table has nothing in it. -/
theorem visible_blank (room capacity : Nat) :
    Visible n ({ array := Array.replicate room .nil, capacity } : Table) :=
  ⟨visible_replicate room visible_nil, by simp, by simp⟩

section Visible

variable (visible : Visible n t)

include visible

theorem visible_getPair (key : Value) : Visible n (t.getPair key) := by
  unfold getPair
  split
  · next place _ => exact (visible_getD visible.pairs ⟨visible_nil, visible_nil⟩ place).value
  · exact visible_nil

theorem visible_getInt (i : Int64) : Visible n (t.getInt i) := by
  unfold getInt
  split
  · exact visible_getD visible.array visible_nil _
  · exact visible_getPair visible _

omit visible in
theorem get_float (x : Binary64) :
    t.get (.float x) =
      match Value.key (.float x) with
      | .int i => t.getInt i
      | key => t.getPair key := rfl

theorem visible_get (key : Value) : Visible n (t.get key) := by
  cases key with
  | nil => exact visible_nil
  | int i => exact visible_getInt visible i
  | float x =>
      rw [get_float]
      split
      · exact visible_getInt visible _
      · exact visible_getPair visible _
  | _ => exact visible_getPair visible _

theorem visible_pushPair (isKey : Visible n key) (isValue : Visible n value) :
    Visible n (t.pushPair key value) :=
  ⟨visible.array, visible_push.mpr ⟨visible.pairs, isKey, isValue⟩, visible.metatable⟩

theorem visible_setArray (isValue : Visible n value) (place : Nat) :
    Visible n { t with array := t.array.setIfInBounds place value } :=
  ⟨visible_setIfInBounds visible.array isValue place, visible.pairs, visible.metatable⟩

theorem visible_place (isKey : Visible n key) (isValue : Visible n value) :
    Visible n (t.place key value) := by
  unfold place
  split
  · exact visible_setArray visible isValue _
  · exact visible_pushPair visible isKey isValue

omit visible in
/-- What is visible of every step is visible of a fold. -/
theorem visible_foldl {γ : Type} {P : γ → Prop} {f : γ → α → γ} {start : γ} {array : Array α}
    (first : P start) (step : ∀ acc, P acc → ∀ member ∈ array, P (f acc member)) :
    P (array.foldl f start) :=
  Array.foldl_induction (fun _ acc => P acc) first fun i acc holds => step acc holds _ (by simp)

theorem visible_resize (size room : Nat) : Visible n (t.resize size room) := by
  have start (rest : Nat) : Visible n ({
      array := t.array.extract 0 size ++ Array.replicate rest .nil
      capacity := roomFor room
      metatable := t.metatable } : Table) :=
    visible_mk (visible_append.mpr ⟨visible_extract visible.array _ _,
      visible_replicate _ visible_nil⟩) (by simp) visible.metatable
  unfold resize
  refine visible_foldl (P := Visible n) ?_ fun acc holds pair isMember => ?_
  · refine visible_foldl (P := fun acc : Table × Nat => Visible n acc.1) (start _)
      fun acc holds value isMember => ?_
    dsimp only
    split
    · exact holds
    · exact visible_pushPair holds (visible_ofNat _)
        (visible_extract visible.array _ _ value isMember)
  · split
    · exact holds
    · exact visible_place holds (visible.pairs pair isMember).key
        (visible.pairs pair isMember).value

theorem visible_set (isKey : Visible n key) (isValue : Visible n value) :
    Visible n (t.set key value) := by
  unfold set
  split
  · exact visible_setArray visible isValue _
  · split
    · exact ⟨visible.array, visible_setIfInBounds visible.pairs ⟨isKey, isValue⟩ _, visible.metatable⟩
    · split
      · exact visible
      · split
        · exact visible_pushPair visible isKey isValue
        · exact visible_place (visible_resize visible _ _) isKey isValue

theorem visible_fill {values : Array Value} (areVisible : Visible n values) :
    Visible n (t.fill values) := by
  have enlarged : Visible n (if t.array.size < values.size then
      t.resize values.size t.capacity else t) := by
    split
    · exact visible_resize visible _ _
    · exact visible
  unfold fill
  split
  · exact visible
  · split
    next array pairs index capacity metatable =>
      split
      · exact visible_mk areVisible visible.pairs visible.metatable
      · exact visible_mk
          (visible_append.mpr ⟨areVisible, visible_extract enlarged.array _ _⟩) enlarged.pairs
          enlarged.metatable

theorem visible_keep (test : Value → Value → Bool) : Visible n (t.keep test) := by
  refine visible_mk ?_ ?_ visible.metatable
  · refine visible_foldl (P := fun acc : Array Value × Nat => Visible n acc.1) (by simp)
      fun acc holds value isMember => ?_
    have stays := visible.array value isMember
    grind
  · intro pair isMember
    obtain ⟨old, isOld, rfl⟩ := Array.mem_map.mp isMember
    have stays := visible.pairs old isOld
    split
    · exact stays
    · exact ⟨stays.key, visible_nil⟩

theorem visible_pairFrom (fuel place : Nat) : Visible n (t.pairFrom fuel place) := by
  induction fuel generalizing place with
  | zero => exact visible_none
  | succ fuel ih =>
      unfold pairFrom
      split
      next pair found =>
        split
        · exact ih _
        · exact visible_some.mpr (visible.pairs pair (Array.mem_of_getElem? found))
      next => exact visible_none

theorem visible_arrayFrom (fuel place : Nat) : Visible n (t.arrayFrom fuel place) := by
  induction fuel generalizing place with
  | zero => exact visible_pairFrom visible _ _
  | succ fuel ih =>
      unfold arrayFrom
      split
      next value found =>
        split
        · exact ih _
        · exact visible_some.mpr ⟨visible_ofNat _, visible.array value (Array.mem_of_getElem? found)⟩
      next => exact visible_pairFrom visible _ _

theorem visible_next? (key : Value) : Visible n (t.next? key) := by
  unfold next?
  split
  · exact visible_some.mpr (visible_arrayFrom visible _ _)
  · split
    · exact visible_some.mpr (visible_arrayFrom visible _ _)
    · split
      · exact visible_some.mpr (visible_pairFrom visible _ _)
      · exact visible_none

end Visible

end Table

end LuaSession.Script
