import LuaSession.Proofs.Library.Values
import LuaSession.Proofs.Veil.Evaluation

/-!
# The libraries of values respect a veil

Arguments, and the functions on tables, numbers and texts: given visible values, they come
by visible values only.
-/

namespace LuaSession.Library

open LuaSession.Script LuaSession.Script.Run

variable {α β : Type} {veil : Veil} {m n : View} {P : View → α → Prop} {Q : View → β → Prop}
  {arguments : Array Value}

/-! ## Arguments -/

namespace Caller

@[grind ←] theorem ensures_failBytes (caller : Caller) (message : Bytes) :
    (failBytes caller message : Run α).Ensures P n :=
  ensures_raiseBytes _

@[grind ←] theorem ensures_fail (caller : Caller) (message : String) :
    (fail caller message : Run α).Ensures P n :=
  caller.ensures_failBytes _

end Caller

@[grind ←] theorem ensures_argError (caller : Caller) (index : Nat) (message : Bytes) :
    (argError caller index message : Run α).Ensures P n := by
  unfold argError
  dsimp only
  split
  · exact ensures_ite (fun _ => caller.ensures_failBytes _) fun _ => caller.ensures_failBytes _
  · split
    · exact caller.ensures_failBytes _
    · exact ensures_bind (P := fun _ _ => True) (ensures_read fun _ _ _ => trivial) fun _ _ _ _ =>
        caller.ensures_failBytes _

@[grind ←] theorem ensures_argFail (caller : Caller) (index : Nat) (message : String) :
    (argFail caller index message : Run α).Ensures P n :=
  ensures_argError _ _ _

@[grind ←] theorem ensures_typeFail (caller : Caller) (arguments : Array Value) (index : Nat)
    (wanted : String) : (typeFail caller arguments index wanted : Run α).Ensures P n := by
  unfold typeFail
  split
  · exact ensures_argError _ _ _
  · exact respects_bind (respects_read fun _ _ _ => trivial) fun _ _ _ _ => ensures_argError _ _ _

@[grind ←] theorem visible_argument (areVisible : Visible n arguments) (index : Nat) :
    Visible n (argument arguments index) :=
  visible_getD areVisible visible_nil _

@[grind .] theorem visible_softFailure (message : Bytes) : Visible n (softFailure message) :=
  visible_two visible_nil (visible_str message)

@[grind ←] theorem respects_anyArgument (caller : Caller) (areVisible : Visible n arguments)
    (index : Nat) : (anyArgument caller arguments index).Respects n := by
  unfold anyArgument
  split
  next value found => exact respects_pure (areVisible value (Array.mem_of_getElem? found))
  next => exact ensures_argFail _ _ _

@[grind ←] theorem respects_intArgument (caller : Caller) (arguments : Array Value) (index : Nat) :
    (intArgument caller arguments index).Respects n := by
  unfold intArgument
  grind

@[grind ←] theorem respects_optionalInt (caller : Caller) (arguments : Array Value) (index : Nat)
    (standard : Int64) : (optionalInt caller arguments index standard).Respects n := by
  unfold optionalInt
  grind

@[grind ←] theorem respects_numberArgument (caller : Caller) (arguments : Array Value)
    (index : Nat) : (numberArgument caller arguments index).Respects n := by
  unfold numberArgument
  grind

@[grind ←] theorem respects_floatArgument (caller : Caller) (arguments : Array Value)
    (index : Nat) :
    (floatArgument caller arguments index).Respects n := by
  unfold floatArgument
  grind

@[grind ←] theorem respects_bytesArgument (caller : Caller) (arguments : Array Value)
    (index : Nat) :
    (bytesArgument caller arguments index).Respects n := by
  unfold bytesArgument
  grind

@[grind ←] theorem respects_optionalBytes (caller : Caller) (arguments : Array Value) (index : Nat)
    (standard : Bytes) : (optionalBytes caller arguments index standard).Respects n := by
  unfold optionalBytes
  grind

/-- A table argument is shown. -/
theorem ensures_tableArgument (caller : Caller) (areVisible : Visible n arguments)
    (index : Nat) : (tableArgument caller arguments index).Ensures Shown n := by
  have isVisible := visible_argument areVisible index
  unfold tableArgument
  split
  next ref is =>
    rw [is] at isVisible
    exact ensures_pure (visible_table.mp isVisible).grow
  next => exact ensures_typeFail _ _ _ _

@[grind ←] theorem ensures_bind_tableArgument {f : Nat → Run β} (caller : Caller)
    (areVisible : Visible n arguments) (index : Nat)
    (later : ∀ m, Grown n m → ∀ ref, Shown m ref → (f ref).Ensures Q m) :
    (tableArgument caller arguments index >>= f).Ensures Q n :=
  ensures_bind (ensures_tableArgument caller areVisible index) later

@[grind ←] theorem respects_functionArgument (caller : Caller)
    (areVisible : Visible n arguments) (index : Nat) :
    (functionArgument caller arguments index).Respects n := by
  unfold functionArgument
  grind

@[grind ←] theorem respects_optionArgument (caller : Caller) (arguments : Array Value) (index : Nat)
    (standard : Option String) (options : List (String × α)) :
    @Run.Respects α Holds.nothing n (optionArgument caller arguments index standard options) := by
  unfold optionArgument
  grind

@[grind ←] theorem respects_textOf (position : Bytes) {value : Value}
    (isVisible : Visible n value) : (textOf position value).Respects n := by
  unfold textOf
  grind

/-! ## Tables -/

namespace Tables

variable {table order pivot x y : Value}

@[grind ←] theorem respects_checkTable (caller : Caller) (arguments : Array Value) (index : Nat)
    (use : Use) : (checkTable caller arguments index use).Respects n := by
  unfold checkTable
  grind

@[grind ←] theorem respects_lengthOf (caller : Caller) (isVisible : Visible n x) :
    (lengthOf caller x).Respects n := by
  unfold lengthOf
  grind

@[grind ←] theorem respects_size (caller : Caller) (areVisible : Visible n arguments)
    (index : Nat) (use : Use) : (size caller arguments index use).Respects n := by
  unfold size
  grind

@[grind ←] theorem respects_get (isTable : Visible n table) (i : Int64) :
    (get table i).Respects n := by
  unfold get
  grind

@[grind ←] theorem respects_put (isTable : Visible n table) (i : Int64)
    (isVisible : Visible n x) : (put table i x).Respects n := by
  unfold put
  grind

@[grind ←] theorem respects_shiftUp (isTable : Visible n table) (count : Nat) (i : Int64) :
    (shiftUp table count i).Respects n := by
  induction count generalizing n i with
  | zero => exact respects_pure trivial
  | succ count ih =>
      unfold shiftUp
      grind

@[grind ←] theorem respects_shiftDown (isTable : Visible n table) (count : Nat) (i : Int64) :
    (shiftDown table count i).Respects n := by
  induction count generalizing n i with
  | zero => exact respects_pure trivial
  | succ count ih =>
      unfold shiftDown
      grind

@[grind ←] theorem respects_copy (isSource : Visible n x) (isTarget : Visible n y)
    (step : Int64) (count : Nat) (i j : Int64) : (copy x y step count i j).Respects n := by
  induction count generalizing n i j with
  | zero => exact respects_pure trivial
  | succ count ih =>
      unfold copy
      grind

@[grind ←] theorem respects_join (caller : Caller) (isTable : Visible n table)
    (separator : Bytes) (count : Nat) (i : Int64) (done : Bytes) :
    (join caller table separator count i done).Respects n := by
  induction count generalizing n i done with
  | zero => exact respects_pure trivial
  | succ count ih =>
      unfold join
      grind

@[grind ←] theorem respects_elements (isTable : Visible n table) (count : Nat) (i : Int64)
    {done : Array Value} (areVisible : Visible n done) :
    (elements table count i done).Respects n := by
  induction count generalizing n i done with
  | zero => exact respects_pure areVisible
  | succ count ih =>
      unfold elements
      grind

section Order

variable (isOrder : Visible n order)

include isOrder

@[grind ←] theorem respects_isLess (isFirst : Visible n x) (isSecond : Visible n y) :
    (isLess order x y).Respects n := by
  unfold isLess
  grind

omit isOrder in
@[grind ←] theorem ensures_failOrder (caller : Caller) :
    (failOrder caller : Run α).Ensures P n := by
  unfold failOrder
  grind

section Table

variable (isTable : Visible n table)

include isTable

@[grind ←] theorem respects_scanUp (caller : Caller) (isPivot : Visible n pivot) (last : Int64)
    (fuel : Nat) (i : Int64) : (scanUp caller table order pivot last fuel i).Respects n := by
  induction fuel generalizing n i with
  | zero => exact ensures_failOrder caller
  | succ fuel ih =>
      unfold scanUp
      grind

@[grind ←] theorem respects_scanDown (caller : Caller) (isPivot : Visible n pivot)
    (first : Int64) (fuel : Nat) (j : Int64) :
    (scanDown caller table order pivot first fuel j).Respects n := by
  induction fuel generalizing n j with
  | zero => exact ensures_failOrder caller
  | succ fuel ih =>
      unfold scanDown
      grind

@[grind ←] theorem respects_partition (caller : Caller) (isPivot : Visible n pivot) (up : Int64)
    (fuel : Nat) (i j : Int64) : (partition caller table order pivot up fuel i j).Respects n := by
  induction fuel generalizing n i j with
  | zero => exact respects_pure trivial
  | succ fuel ih =>
      unfold partition
      refine respects_bind (by grind) fun m grown low isLow => ?_
      refine respects_bind (by grind) fun k more high isHigh => ?_
      grind

@[grind ←] theorem respects_sortTwo (i j : Int64) : (sortTwo table order i j).Respects n := by
  unfold sortTwo
  grind

theorem respects_sortParts (caller : Caller) {sort : Int64 → Int64 → Run Unit}
    (sorts : ∀ m, Grown n m → ∀ lo up, (sort lo up).Respects m) (lo up : Int64) :
    (sortParts caller table order sort lo up).Respects n := by
  unfold sortParts
  refine ensures_ite (fun _ => ?_) fun _ => respects_pure trivial
  refine respects_bind (respects_get isTable _) fun m grown pivot isPivot => ?_
  refine respects_bind (by grind) fun k more other isOther => ?_
  have sorts (l : View) (most : Grown k l) := sorts l (grown.trans (more.trans most))
  have sorted (l : View) (most : Grown k l) (lo up lo' up' : Int64) :
      (do sort lo up; sort lo' up' : Run Unit).Respects l :=
    respects_bind (sorts l most _ _) fun i last _ _ => sorts i (most.trans last) _ _
  refine respects_bind (by grind) fun l most _ _ => ?_
  refine respects_bind (by grind) fun i last _ _ => ?_
  refine respects_bind (by grind) fun j final p _ => ?_
  have later := sorted j (most.trans (last.trans final))
  exact ensures_ite (fun _ => later _ _ _ _) fun _ => later _ _ _ _

@[grind ←] theorem respects_sortRange (caller : Caller) (fuel : Nat) (lo up : Int64) :
    (sortRange caller table order fuel lo up).Respects n := by
  induction fuel generalizing n lo up with
  | zero => exact respects_pure trivial
  | succ fuel ih =>
      -- When three elements are in order, what is less than the middle one and the
      -- rest are sorted.
      have parts (m : View) (grown : Grown n m) :
          (sortParts caller table order (sortRange caller table order fuel) lo up).Respects m :=
        respects_sortParts (isOrder.grow grown) (isTable.grow grown) caller
          (fun k more lo up => ih ((isOrder.grow grown).grow more) ((isTable.grow grown).grow more) lo up) lo up
      unfold sortRange
      refine ensures_ite (fun _ => ?_) fun _ => respects_pure trivial
      refine respects_bind (respects_sortTwo isOrder isTable _ _) fun m grown _ _ => ?_
      refine ensures_ite (fun _ => ?_) fun _ => respects_pure trivial
      refine respects_bind (by grind) fun k more middle isMiddle => ?_
      refine respects_bind (by grind) fun l most low isLow => ?_
      have parts (i : View) (last : Grown l i) :=
        parts i (grown.trans (more.trans (most.trans last)))
      refine respects_bind (by grind) fun i last less _ => ?_
      refine ensures_ite (fun _ => ?_) fun _ => ?_
      · refine respects_bind (by grind) fun j final _ _ => ?_
        refine respects_bind (by grind) fun o end_ _ _ => ?_
        exact parts o (last.trans (final.trans end_))
      · refine respects_bind (by grind) fun j final high isHigh => ?_
        refine respects_bind (by grind) fun o end_ less _ => ?_
        have parts (p : View) (further : Grown o p) :=
          parts p (last.trans (final.trans (end_.trans further)))
        refine ensures_ite (fun _ => ?_) fun _ => parts o (.refl _)
        refine respects_bind (by grind) fun p further _ _ => ?_
        refine respects_bind (by grind) fun q beyond _ _ => ?_
        exact parts q (further.trans beyond)

end Table

end Order

end Tables

@[grind ←] theorem respects_runTable (function : TableFunction) (caller : Caller)
    (areVisible : Visible n arguments) : (runTable function caller arguments).Respects n := by
  cases function with
  | pack =>
      unfold runTable
      refine ensures_bind (ensures_newTable (Table.visible_ofArray areVisible)) fun m _ ref shown => ?_
      refine respects_bind (respects_modify fun s veiled more => ?_) fun k grown _ _ => ?_
      · exact veiled.put (shown.grow more).isOpen (visible_ofString _) (visible_ofNat _)
      · exact respects_pure (visible_one (visible_table.mpr (shown.grow grown)))
  | insert =>
      unfold runTable
      refine respects_bind (Tables.respects_size caller areVisible _ _) fun m _ size _ => ?_
      refine ensures_ite (fun _ => by grind) fun _ => ensures_ite (fun _ => ?_) fun _ =>
        caller.ensures_fail _
      grind
  | sort =>
      unfold runTable
      refine respects_bind (Tables.respects_size caller areVisible _ _) fun m _ size _ => ?_
      grind
  | move =>
      unfold runTable
      refine respects_bind (respects_intArgument _ _ _) fun m _ first _ => ?_
      refine respects_bind (respects_intArgument _ _ _) fun m _ last _ => ?_
      refine respects_bind (respects_intArgument _ _ _) fun m _ place _ => ?_
      refine respects_bind (Tables.respects_checkTable _ _ _ _) fun m _ _ _ => ?_
      refine respects_bind (Tables.respects_checkTable _ _ _ _) fun m _ _ _ => ?_
      grind
  | concat =>
      unfold runTable
      refine respects_bind (Tables.respects_size caller areVisible _ _) fun m _ size _ => ?_
      refine respects_bind (respects_optionalBytes _ _ _ _) fun k _ separator _ => ?_
      grind
  | remove =>
      unfold runTable
      refine respects_bind (Tables.respects_size caller areVisible _ _) fun m _ size _ => ?_
      refine respects_bind (respects_optionalInt _ _ _ _) fun k _ position _ => ?_
      refine ensures_ite (fun _ => ensures_argFail _ _ _) fun _ => ?_
      grind
  | unpack =>
      unfold runTable
      grind

/-! ## Numbers -/

namespace Mathematics

@[grind .] theorem visible_settleInt (x : Binary64) : Visible n (settleInt x) := by
  unfold settleInt
  split <;> trivial

@[grind .] theorem visible_cut (x : Binary64) : Visible n (cut x) := by
  unfold cut
  grind

@[grind ←] theorem respects_onFloat (op : Float → Float) (caller : Caller)
    (arguments : Array Value) :
    (onFloat op caller arguments).Respects n := by
  unfold onFloat
  grind

@[grind ←] theorem respects_rounded (round : Binary64 → Binary64) (caller : Caller)
    (arguments : Array Value) : (rounded round caller arguments).Respects n := by
  unfold rounded
  grind

@[grind ←] theorem respects_extreme {better : Value → Value → Run Bool}
    (respects : ∀ m x y, Visible m x → Visible m y → (better x y).Respects m)
    {best : Value} {values : List Value} (isBest : Visible n best)
    (areVisible : Visible n values) : (extreme better best values).Respects n := by
  induction values generalizing n best with
  | nil => exact respects_pure isBest
  | cons value rest ih =>
      unfold extreme
      grind

@[grind ←] theorem respects_randomBetween (caller : Caller) (word : UInt64) (low up : Int64) :
    (randomBetween caller word low up).Respects n := by
  unfold randomBetween
  refine ensures_ite (fun _ => ensures_argFail _ _ _) fun _ => ?_
  refine ensures_bind (P := fun _ _ => True) (ensures_update fun s veiled _ => ?_) fun _ _ _ _ => ?_
  · exact ⟨veiled.world _, trivial⟩
  · exact respects_pure (visible_one trivial)

@[grind ←] theorem respects_random (caller : Caller) (arguments : Array Value) :
    (random caller arguments).Respects n := by
  unfold random
  refine ensures_bind (P := fun _ _ => True) (ensures_update fun s veiled _ => ?_) fun _ _ _ _ => ?_
  · exact ⟨veiled.world _, trivial⟩
  · grind

@[grind ←] theorem respects_seed (caller : Caller) (arguments : Array Value) :
    (seed caller arguments).Respects n := by
  have start (m : View) (a b : UInt64) : (do
      Run.modify fun s => { s with world := { s.world with random := RandomState.ofSeeds a b } }
      return #[Value.int a.toInt64, Value.int b.toInt64]).Respects m :=
    respects_bind (respects_modify fun _ veiled _ => veiled.world _) fun _ _ _ _ =>
      respects_pure (visible_two trivial trivial)
  unfold seed
  refine ensures_ite (fun _ => ?_) fun _ => ?_
  · exact ensures_bind (P := fun _ _ => True) (ensures_read fun _ _ _ => trivial) fun m _ seeds _ =>
      start m _ _
  · refine respects_bind (respects_numberArgument _ _ _) fun m _ number _ => ?_
    refine respects_bind (respects_optionalInt _ _ _ _) fun k _ second _ => ?_
    exact start k _ _

end Mathematics

@[grind ←] theorem respects_runMath (function : MathFunction) (caller : Caller)
    (areVisible : Visible n arguments) : (runMath function caller arguments).Respects n := by
  unfold runMath
  split <;> grind

/-! ## Packed values -/

@[grind ←] theorem respects_packSize (caller : Caller) (standard : Nat) (format : List UInt8) :
    (packSize caller standard format).Respects n := by
  unfold packSize
  grind

@[grind ←] theorem respects_packOption (caller : Caller) (state : PackState) (format : List UInt8) :
    (packOption caller state format).Respects n := by
  unfold packOption
  split
  · exact respects_pure (by simp)
  · split <;> grind

@[grind ←] theorem respects_packDetail (caller : Caller) (state : PackState) (offset : Nat)
    (format : List UInt8) : (packDetail caller state offset format).Respects n := by
  unfold packDetail
  grind

@[grind ←] theorem respects_packOne (caller : Caller) (arguments : Array Value) (index : Nat)
    (little : Bool) (item : PackItem) :
    (packOne caller arguments index little item).Respects n := by
  unfold packOne
  grind

@[grind ←] theorem respects_packAll (caller : Caller) (arguments : Array Value) (fuel : Nat)
    (state : PackState) (index : Nat) (done : Bytes) (format : List UInt8) :
    (packAll caller arguments fuel state index done format).Respects n := by
  induction fuel generalizing n state index done format with
  | zero => exact respects_pure trivial
  | succ fuel ih =>
      unfold packAll
      grind

@[grind ←] theorem respects_packedSize (caller : Caller) (fuel : Nat) (state : PackState)
    (total : Nat) (format : List UInt8) :
    (packedSize caller fuel state total format).Respects n := by
  induction fuel generalizing n state total format with
  | zero => exact respects_pure trivial
  | succ fuel ih =>
      unfold packedSize
      grind

@[grind ←] theorem respects_unpackInt (caller : Caller) (bytes : List UInt8) (signed : Bool) :
    (unpackInt caller bytes signed).Respects n := by
  unfold unpackInt
  grind

@[grind ←] theorem respects_unpackAll (caller : Caller) (data : Bytes) (fuel : Nat)
    (state : PackState) (position : Nat) {done : Array Value} (areVisible : Visible n done)
    (format : List UInt8) :
    (unpackAll caller data fuel state position done format).Respects n := by
  induction fuel generalizing n state position done format with
  | zero => exact respects_pure (visible_push.mpr ⟨areVisible, visible_ofNat _⟩)
  | succ fuel ih =>
      unfold unpackAll
      grind

/-! ## Code points -/

namespace CodePoints

@[grind ←] theorem respects_readAll (caller : Caller) (bytes : Bytes) (stop : Nat) (strict : Bool)
    (fuel place : Nat) {done : Array Value} (areVisible : Visible n done) :
    (readAll caller bytes stop strict fuel place done).Respects n := by
  induction fuel generalizing n place done with
  | zero => exact respects_pure areVisible
  | succ fuel ih =>
      unfold readAll
      grind

end CodePoints

@[grind ←] theorem respects_runUtf8 (function : Utf8Function) (caller : Caller)
    (arguments : Array Value) : (runUtf8 function caller arguments).Respects n := by
  unfold runUtf8
  split <;> grind

/-! ## Formats -/

@[grind ←] theorem respects_formatOne (caller : Caller) (areVisible : Visible n arguments)
    (index : Nat) (spec : List UInt8) (letter : UInt8) :
    (formatOne caller arguments index spec letter).Respects n := by
  unfold formatOne
  dsimp only
  split <;> grind

@[grind ←] theorem respects_formatAll (caller : Caller) (areVisible : Visible n arguments)
    (fuel index : Nat) (done : Bytes) (format : List UInt8) :
    (formatAll caller arguments fuel index done format).Respects n := by
  induction fuel generalizing n index done format with
  | zero => exact respects_pure trivial
  | succ fuel ih =>
      cases format with
      | nil => exact respects_pure trivial
      | cons b rest =>
          unfold formatAll
          grind

/-! ## Strings -/

namespace Strings

@[grind ←] theorem ensures_ofPattern (caller : Caller) {result : Except Pattern.PatternError α}
    (ok : ∀ value, result = .ok value → ∀ m, Grown n m → P m value) :
    (ofPattern caller result : Run α).Ensures P n := by
  unfold ofPattern
  split
  next value => exact ensures_pure fun grown => ok value rfl _ grown
  next => exact caller.ensures_fail _

theorem visible_captureValue {subject : Bytes} {start : Nat} {found : Pattern.Match} {index : Nat}
    {value : Value} (taken : captureValue subject start found index = .ok value) :
    Visible n value := by
  unfold captureValue at taken
  grind

theorem visible_captureValues {subject : Bytes} {start : Nat} {found : Pattern.Match}
    {whole : Bool} {values : Array Value}
    (taken : captureValues subject start found whole = .ok values) : Visible n values := by
  have all : ∀ (places : List Nat) (values : List Value),
      (places.mapM fun i => captureValue subject start found i) = .ok values →
        Visible n values := by
    intro places
    induction places with
    | nil =>
        rintro values ⟨⟩
        exact visible_list_nil
    | cons place places ih =>
        intro values taken
        rw [List.mapM_cons] at taken
        cases first : captureValue subject start found place with
        | error _ => rw [first] at taken; cases taken
        | ok value =>
            rw [first] at taken
            cases rest : places.mapM fun i => captureValue subject start found i with
            | error _ => simp [rest, bind, Except.bind] at taken
            | ok others =>
                simp only [rest, bind, Except.bind, pure, Except.pure, Except.ok.injEq] at taken
                rw [← taken]
                exact visible_cons.mpr ⟨visible_captureValue first, ih others rest⟩
  unfold captureValues at taken
  dsimp only at taken
  generalize List.range _ = places at taken
  cases mapped : places.mapM fun i => captureValue subject start found i with
  | error _ => simp [mapped, bind, Except.bind] at taken
  | ok list =>
      simp only [mapped, bind, Except.bind, pure, Except.pure, Except.ok.injEq] at taken
      rw [← taken]
      exact visible_toArray.mpr (all _ list mapped)

@[grind ←] theorem respects_capture (caller : Caller) (subject : Bytes) (start : Nat)
    (found : Pattern.Match) (index : Nat) :
    (ofPattern caller (captureValue subject start found index)).Respects n :=
  ensures_ofPattern caller fun _ taken _ _ => visible_captureValue taken

@[grind ←] theorem respects_captures (caller : Caller) (subject : Bytes) (start : Nat)
    (found : Pattern.Match) (whole : Bool) :
    (ofPattern caller (captureValues subject start found whole)).Respects n :=
  ensures_ofPattern caller fun _ taken _ _ => visible_captureValues taken

@[grind ←] theorem respects_findAux (caller : Caller) (arguments : Array Value) (places : Bool) :
    (findAux caller arguments places).Respects n := by
  unfold findAux
  refine respects_bind (respects_bytesArgument _ _ _) fun m _ subject _ => ?_
  refine respects_bind (respects_bytesArgument _ _ _) fun m _ pattern _ => ?_
  refine respects_bind (respects_optionalInt _ _ _ _) fun m _ position _ => ?_
  refine ensures_ite (fun _ => by grind) fun _ => ensures_ite (fun _ => by grind) fun _ => ?_
  refine ensures_ite (fun _ => ?_) fun _ => ?_
  · refine ensures_bind (P := fun _ _ => True) (ensures_ofPattern caller fun _ _ _ _ => trivial) ?_
    intro k _ found _
    refine ensures_bind (P := fun _ _ => True) (ensures_pure fun _ => trivial) fun l _ found _ => ?_
    grind
  · refine ensures_bind (P := fun _ _ => True) (ensures_ofPattern caller fun _ _ _ _ => trivial) ?_
    intro k _ found _
    grind

@[grind ←] theorem respects_matchesStep (caller : Caller) (ref : Nat) (source pattern : Bytes)
    (position : Nat) (lastEnd : Option Nat) :
    (matchesStep caller ref source pattern position lastEnd).Respects n := by
  unfold matchesStep
  refine respects_bind (ensures_ofPattern caller fun _ _ _ _ => by grind) fun m _ found _ => ?_
  split
  · refine respects_bind (respects_modify fun s veiled _ => ?_) fun k _ _ _ =>
      respects_pure visible_empty
    exact veiled.setNative ref (visible_matches _ _ _ _)
  · refine respects_bind (respects_modify fun s veiled _ => ?_) fun k _ _ _ =>
      respects_captures _ _ _ _ _
    exact veiled.setNative ref (visible_matches _ _ _ _)

@[grind ←] theorem respects_expand (caller : Caller) (subject : Bytes) (start : Nat)
    (found : Pattern.Match) (done : Bytes) (format : List UInt8) :
    (expand caller subject start found done format).Respects n := by
  fun_induction expand generalizing n <;> grind

@[grind ←] theorem respects_replacement (caller : Caller) (subject : Bytes) (start : Nat)
    (found : Pattern.Match) {what : Value} (isVisible : Visible n what) :
    (replacement caller subject start found what).Respects n := by
  unfold replacement
  grind

@[grind ←] theorem respects_replaceFrom (caller : Caller) (subject pattern : Bytes)
    (anchored : Bool) {what : Value} (isVisible : Visible n what) (limit : Int)
    (fuel : Nat) (place count : Nat) (lastEnd : Option Nat) (done : Bytes) :
    (replaceFrom caller subject pattern anchored what limit fuel place count lastEnd done).Respects
      n := by
  induction fuel generalizing n place count lastEnd done with
  | zero => exact respects_pure ⟨trivial, trivial⟩
  | succ fuel ih =>
      unfold replaceFrom
      grind

@[grind ←] theorem respects_replaceAll (caller : Caller) (areVisible : Visible n arguments) :
    (replaceAll caller arguments).Respects n := by
  unfold replaceAll
  grind

end Strings

@[grind ←] theorem respects_runString (function : StringFunction) (caller : Caller)
    (areVisible : Visible n arguments) :
    (runString function caller arguments).Respects n := by
  cases function with
  | gmatch =>
      unfold runString
      refine respects_bind (respects_bytesArgument _ _ _) fun m _ subject _ => ?_
      refine respects_bind (respects_bytesArgument _ _ _) fun m _ pattern _ => ?_
      refine respects_bind (respects_optionalInt _ _ _ _) fun m _ position _ => ?_
      refine ensures_bind (P := fun _ _ => True) (ensures_update fun s veiled _ => ?_) fun _ _ _ _ => ?_
      · exact ⟨veiled.newNative (visible_matches _ _ _ _), trivial⟩
      · exact respects_pure (visible_one trivial)
  | dump =>
      unfold runString
      refine respects_bind (respects_functionArgument _ areVisible _) fun m _ function _ => ?_
      split
      · refine ensures_bind (P := fun _ _ => True) (ensures_update fun s veiled _ => ?_) fun _ _ _ _ => ?_
        · exact ⟨veiled.same rfl rfl rfl rfl rfl rfl rfl, trivial⟩
        · exact respects_pure (visible_one trivial)
      · exact caller.ensures_fail _
  | byte =>
      unfold runString
      refine respects_bind (respects_bytesArgument _ _ _) fun m _ text _ => ?_
      refine respects_bind (respects_optionalInt _ _ _ _) fun m _ start _ => ?_
      refine respects_bind (respects_optionalInt _ _ _ _) fun m _ stop _ => ?_
      refine ensures_ite (fun _ => respects_pure visible_empty) fun _ => respects_pure ?_
      refine visible_toArray.mpr fun value isMember => ?_
      obtain ⟨b, _, rfl⟩ := List.mem_map.mp isMember
      exact visible_ofNat _
  | _ =>
      unfold runString
      grind

@[grind ←] theorem respects_runStringArithmetic (op : Option Arithmetic) (caller : Caller)
    (areVisible : Visible n arguments) :
    (runStringArithmetic op caller arguments).Respects n := by
  have operand {value number : Value} (found : operandNumber? value = some number) :
      Visible n number := by
    obtain ⟨number, _, rfl⟩ := Option.map_eq_some_iff.mp found
    exact visible_ofNumber number
  unfold runStringArithmetic
  grind

end LuaSession.Library
