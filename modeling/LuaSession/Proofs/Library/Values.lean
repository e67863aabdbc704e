import LuaSession.Library.Functions
import LuaSession.Proofs.Script.Evaluation

/-!
# The libraries of values keep what scripts cannot change

Arguments, and the functions on tables, numbers and texts: none of them does more
to the store than scripts can.
-/

namespace LuaSession.Library

open LuaSession.Script LuaSession.Script.Run

variable {J : Store → Prop}

/-! ## Arguments -/

namespace Caller

@[grind ←] theorem keeps_failBytes {α : Type} (caller : Caller) (message : Bytes) :
    (failBytes caller message : Run α).Keeps .library J :=
  keeps_raiseBytes _

@[grind ←] theorem keeps_fail {α : Type} (caller : Caller) (message : String) :
    (fail caller message : Run α).Keeps .library J :=
  caller.keeps_failBytes _

end Caller

@[grind ←] theorem keeps_argError {α : Type} (caller : Caller) (index : Nat) (message : Bytes) :
    (argError caller index message : Run α).Keeps .library J := by
  unfold argError
  dsimp only
  split
  · exact keeps_ite (fun _ => caller.keeps_failBytes _) fun _ => caller.keeps_failBytes _
  · split
    · exact caller.keeps_failBytes _
    · exact keeps_bind (keeps_read _) fun found => caller.keeps_failBytes _

@[grind ←] theorem keeps_argFail {α : Type} (caller : Caller) (index : Nat) (message : String) :
    (argFail caller index message : Run α).Keeps .library J :=
  keeps_argError _ _ _

@[grind ←] theorem keeps_typeFail {α : Type} (caller : Caller) (arguments : Array Value)
    (index : Nat) (wanted : String) :
    (typeFail caller arguments index wanted : Run α).Keeps .library J := by
  unfold typeFail
  split
  · exact keeps_argError _ _ _
  · exact keeps_bind (keeps_read _) fun got => keeps_argError _ _ _

@[grind ←] theorem keeps_anyArgument (caller : Caller) (arguments : Array Value) (index : Nat) :
    (anyArgument caller arguments index).Keeps .library J := by
  unfold anyArgument
  split
  · exact keeps_pure _
  · exact keeps_argFail _ _ _

@[grind ←] theorem keeps_intArgument (caller : Caller) (arguments : Array Value) (index : Nat) :
    (intArgument caller arguments index).Keeps .library J := by
  unfold intArgument
  dsimp only
  split
  · exact keeps_pure _
  · exact keeps_ite (fun _ => keeps_argFail _ _ _) fun _ => keeps_typeFail _ _ _ _

@[grind ←] theorem keeps_optionalInt (caller : Caller) (arguments : Array Value) (index : Nat)
    (standard : Int64) : (optionalInt caller arguments index standard).Keeps .library J :=
  keeps_ite (fun _ => keeps_pure _) fun _ => keeps_intArgument _ _ _

@[grind ←] theorem keeps_numberArgument (caller : Caller) (arguments : Array Value) (index : Nat) :
    (numberArgument caller arguments index).Keeps .library J := by
  unfold numberArgument
  split
  · exact keeps_pure _
  · exact keeps_typeFail _ _ _ _

@[grind ←] theorem keeps_floatArgument (caller : Caller) (arguments : Array Value) (index : Nat) :
    (floatArgument caller arguments index).Keeps .library J :=
  keeps_bind (keeps_numberArgument _ _ _) fun _ => keeps_pure _

@[grind ←] theorem keeps_bytesArgument (caller : Caller) (arguments : Array Value) (index : Nat) :
    (bytesArgument caller arguments index).Keeps .library J := by
  unfold bytesArgument
  split
  · exact keeps_pure _
  · exact keeps_typeFail _ _ _ _

@[grind ←] theorem keeps_optionalBytes (caller : Caller) (arguments : Array Value) (index : Nat)
    (standard : Bytes) : (optionalBytes caller arguments index standard).Keeps .library J :=
  keeps_ite (fun _ => keeps_pure _) fun _ => keeps_bytesArgument _ _ _

@[grind ←] theorem keeps_tableArgument (caller : Caller) (arguments : Array Value) (index : Nat) :
    (tableArgument caller arguments index).Keeps .library J := by
  unfold tableArgument
  split
  · exact keeps_pure _
  · exact keeps_typeFail _ _ _ _

@[grind ←] theorem keeps_functionArgument (caller : Caller) (arguments : Array Value)
    (index : Nat) : (functionArgument caller arguments index).Keeps .library J :=
  keeps_ite (fun _ => keeps_pure _) fun _ => keeps_typeFail _ _ _ _

@[grind ←] theorem keeps_optionArgument {α : Type} (caller : Caller) (arguments : Array Value)
    (index : Nat) (standard : Option String) (options : List (String × α)) :
    (optionArgument caller arguments index standard options : Run α).Keeps .library J := by
  unfold optionArgument
  split
  · refine keeps_bind (keeps_optionalBytes _ _ _ _) fun word => ?_
    dsimp only
    split
    · exact keeps_pure _
    · exact keeps_argError _ _ _
  · refine keeps_bind (keeps_bytesArgument _ _ _) fun word => ?_
    dsimp only
    split
    · exact keeps_pure _
    · exact keeps_argError _ _ _

@[grind ←] theorem keeps_textOf (position : Bytes) (value : Value) :
    (textOf position value).Keeps .library J := by
  refine keeps_bind (keeps_read _) fun handler => keeps_ite (fun _ => ?_) fun _ => ?_
  · split
    · exact keeps_pure _
    · exact keeps_pure _
    · split
      · exact keeps_pure _
      · exact keeps_bind (keeps_read _) fun _ => keeps_pure _
  · refine keeps_bind (keeps_callLibrary _ _) fun results => ?_
    split
    · exact keeps_pure _
    · exact keeps_raiseBytes _

/-! ## Tables -/

namespace Tables

@[grind ←] theorem keeps_checkTable (caller : Caller) (arguments : Array Value) (index : Nat)
    (use : Use) : (checkTable caller arguments index use).Keeps .library J := by
  unfold checkTable
  grind

@[grind ←] theorem keeps_lengthOf (caller : Caller) (value : Value) :
    (lengthOf caller value).Keeps .library J := by
  unfold lengthOf
  grind

@[grind ←] theorem keeps_size (caller : Caller) (arguments : Array Value) (index : Nat)
    (use : Use) : (size caller arguments index use).Keeps .library J := by
  unfold size
  grind

@[grind ←] theorem keeps_get (table : Value) (i : Int64) : (get table i).Keeps .library J := by
  unfold get
  grind

@[grind ←] theorem keeps_put (table : Value) (i : Int64) (value : Value) :
    (put table i value).Keeps .library J := by
  unfold put
  grind

@[grind ←] theorem keeps_shiftUp (table : Value) (n : Nat) (i : Int64) :
    (shiftUp table n i).Keeps .library J := by
  induction n generalizing i with
  | zero => exact keeps_pure _
  | succ n ih =>
      unfold shiftUp
      grind

@[grind ←] theorem keeps_shiftDown (table : Value) (n : Nat) (i : Int64) :
    (shiftDown table n i).Keeps .library J := by
  induction n generalizing i with
  | zero => exact keeps_pure _
  | succ n ih =>
      unfold shiftDown
      grind

@[grind ←] theorem keeps_copy (source target : Value) (step : Int64) (n : Nat) (i j : Int64) :
    (copy source target step n i j).Keeps .library J := by
  induction n generalizing i j with
  | zero => exact keeps_pure _
  | succ n ih =>
      unfold copy
      grind

@[grind ←] theorem keeps_join (caller : Caller) (table : Value) (separator : Bytes) (n : Nat)
    (i : Int64) (done : Bytes) : (join caller table separator n i done).Keeps .library J := by
  induction n generalizing i done with
  | zero => exact keeps_pure _
  | succ n ih =>
      unfold join
      grind

@[grind ←] theorem keeps_elements (table : Value) (n : Nat) (i : Int64) (done : Array Value) :
    (elements table n i done).Keeps .library J := by
  induction n generalizing i done with
  | zero => exact keeps_pure _
  | succ n ih =>
      unfold elements
      grind

@[grind ←] theorem keeps_isLess (order : Value) (x y : Value) : (isLess order x y).Keeps .library J := by
  unfold isLess
  grind

@[grind ←] theorem keeps_failOrder {α : Type} (caller : Caller) :
    (failOrder caller : Run α).Keeps .library J := by
  unfold failOrder
  grind

@[grind ←] theorem keeps_scanUp (caller : Caller) (table order pivot : Value) (last : Int64)
    (fuel : Nat) (i : Int64) : (scanUp caller table order pivot last fuel i).Keeps .library J := by
  induction fuel generalizing i with
  | zero => exact keeps_failOrder caller
  | succ fuel ih =>
      unfold scanUp
      grind

@[grind ←] theorem keeps_scanDown (caller : Caller) (table order pivot : Value) (first : Int64)
    (fuel : Nat) (j : Int64) : (scanDown caller table order pivot first fuel j).Keeps .library J := by
  induction fuel generalizing j with
  | zero => exact keeps_failOrder caller
  | succ fuel ih =>
      unfold scanDown
      grind

@[grind ←] theorem keeps_partition (caller : Caller) (table order pivot : Value) (up : Int64)
    (fuel : Nat) (i j : Int64) : (partition caller table order pivot up fuel i j).Keeps .library J := by
  induction fuel generalizing i j with
  | zero => exact keeps_pure _
  | succ fuel ih =>
      unfold partition
      refine keeps_bind (keeps_scanUp _ _ _ _ _ _ _) fun low => ?_
      refine keeps_bind (keeps_scanDown _ _ _ _ _ _ _) fun high => ?_
      grind

@[grind ←] theorem keeps_sortTwo (table order : Value) (i j : Int64) :
    (sortTwo table order i j).Keeps .library J := by
  unfold sortTwo
  grind

theorem keeps_sortParts (caller : Caller) (table order : Value)
    {sort : Int64 → Int64 → Run Unit} (sorts : ∀ lo up, (sort lo up).Keeps .library J) (lo up : Int64) :
    (sortParts caller table order sort lo up).Keeps .library J := by
  unfold sortParts
  refine keeps_ite (fun _ => ?_) fun _ => keeps_pure _
  refine keeps_bind (keeps_get _ _) fun pivot => ?_
  refine keeps_bind (keeps_get _ _) fun other => ?_
  refine keeps_bind (keeps_put _ _ _) fun _ => ?_
  refine keeps_bind (keeps_put _ _ _) fun _ => ?_
  grind

@[grind ←] theorem keeps_sortRange (caller : Caller) (table order : Value) (fuel : Nat)
    (lo up : Int64) : (sortRange caller table order fuel lo up).Keeps .library J := by
  induction fuel generalizing lo up with
  | zero => exact keeps_pure _
  | succ fuel ih =>
      -- When three elements are in order, what is less than the middle one and the
      -- rest are sorted.
      have parts : (sortParts caller table order (sortRange caller table order fuel) lo up).Keeps .library J :=
        keeps_sortParts _ _ _ ih lo up
      unfold sortRange
      refine keeps_ite (fun _ => ?_) fun _ => keeps_pure _
      refine keeps_bind (keeps_sortTwo _ _ _ _) fun _ => ?_
      refine keeps_ite (fun _ => ?_) fun _ => keeps_pure _
      refine keeps_bind (keeps_get _ _) fun middle => ?_
      refine keeps_bind (keeps_get _ _) fun low => ?_
      refine keeps_bind (keeps_isLess _ _ _) fun isLess => ?_
      refine keeps_ite (fun _ => ?_) fun _ => ?_
      · refine keeps_bind (keeps_put _ _ _) fun _ => ?_
        exact keeps_bind (keeps_put _ _ _) fun _ => parts
      · refine keeps_bind (keeps_get _ _) fun high => ?_
        refine keeps_bind (keeps_isLess _ _ _) fun isLess => ?_
        refine keeps_ite (fun _ => ?_) fun _ => parts
        refine keeps_bind (keeps_put _ _ _) fun _ => ?_
        exact keeps_bind (keeps_put _ _ _) fun _ => parts

end Tables

@[grind ←] theorem keeps_runTable (function : TableFunction) (caller : Caller)
    (arguments : Array Value) : (runTable function caller arguments).Keeps .library J := by
  cases function with
  | pack =>
      refine keeps_bind (keeps_update fun s kept => ?_) fun ref => ?_
      · exact Lasting.effect (.newTable s _) kept
      · refine keeps_bind (keeps_modify fun s kept => ?_) fun _ => keeps_pure _
        exact Lasting.effect (.put s ref _ _) kept
  | insert =>
      unfold runTable
      refine keeps_bind (Tables.keeps_size _ _ _ _) fun n => ?_
      refine keeps_ite (fun _ => ?_) fun _ => keeps_ite (fun _ => ?_) fun _ => Caller.keeps_fail _ _
      · grind
      · grind
  | sort =>
      unfold runTable
      refine keeps_bind (Tables.keeps_size _ _ _ _) fun n => ?_
      grind
  | move =>
      unfold runTable
      refine keeps_bind (keeps_intArgument _ _ _) fun first => ?_
      refine keeps_bind (keeps_intArgument _ _ _) fun last => ?_
      refine keeps_bind (keeps_intArgument _ _ _) fun place => ?_
      grind
  | concat =>
      unfold runTable
      refine keeps_bind (Tables.keeps_size _ _ _ _) fun n => ?_
      refine keeps_bind (keeps_optionalBytes _ _ _ _) fun separator => ?_
      grind
  | remove =>
      unfold runTable
      refine keeps_bind (Tables.keeps_size _ _ _ _) fun n => ?_
      refine keeps_bind (keeps_optionalInt _ _ _ _) fun position => ?_
      refine keeps_ite (fun _ => keeps_argFail _ _ _) fun _ => ?_
      grind
  | unpack =>
      unfold runTable
      grind

/-! ## Numbers -/

namespace Mathematics

@[grind ←] theorem keeps_onFloat (op : Float → Float) (caller : Caller) (arguments : Array Value) :
    (onFloat op caller arguments).Keeps .library J := by
  unfold onFloat
  grind

@[grind ←] theorem keeps_rounded (round : Binary64 → Binary64) (caller : Caller)
    (arguments : Array Value) : (rounded round caller arguments).Keeps .library J := by
  unfold rounded
  grind

@[grind ←] theorem keeps_extreme {better : Value → Value → Run Bool}
    (keeps : ∀ x y, (better x y).Keeps .library J) (best : Value) (values : List Value) :
    (extreme better best values).Keeps .library J := by
  induction values generalizing best with
  | nil => exact keeps_pure _
  | cons value rest ih =>
      unfold extreme
      grind

@[grind ←] theorem keeps_randomBetween (caller : Caller) (word : UInt64) (low up : Int64) :
    (randomBetween caller word low up).Keeps .library J := by
  unfold randomBetween
  refine keeps_ite (fun _ => keeps_argFail _ _ _) fun _ => ?_
  refine keeps_bind (keeps_update fun s kept => ?_) fun n => keeps_pure _
  exact Lasting.effect (.world s { s.world with random := _ } rfl) kept

@[grind ←] theorem keeps_random (caller : Caller) (arguments : Array Value) :
    (random caller arguments).Keeps .library J := by
  unfold random
  refine keeps_bind (keeps_update fun s kept => ?_) fun word => ?_
  · exact Lasting.effect (.world s { s.world with random := _ } rfl) kept
  · grind

@[grind ←] theorem keeps_seed (caller : Caller) (arguments : Array Value) :
    (seed caller arguments).Keeps .library J := by
  unfold seed
  dsimp only
  refine keeps_ite (fun _ => ?_) fun _ => ?_
  · refine keeps_bind (keeps_read _) fun seeds => ?_
    refine keeps_bind (keeps_modify fun s kept => ?_) fun _ => keeps_pure _
    exact Lasting.effect (.world s { s.world with random := _ } rfl) kept
  · refine keeps_bind (keeps_numberArgument _ _ _) fun n => ?_
    refine keeps_bind (keeps_optionalInt _ _ _ _) fun b => ?_
    refine keeps_bind (keeps_pure _) fun seeds => ?_
    refine keeps_bind (keeps_modify fun s kept => ?_) fun _ => keeps_pure _
    exact Lasting.effect (.world s { s.world with random := _ } rfl) kept

end Mathematics

@[grind ←] theorem keeps_runMath (function : MathFunction) (caller : Caller)
    (arguments : Array Value) : (runMath function caller arguments).Keeps .library J := by
  unfold runMath
  split <;> grind

/-! ## Packed values -/

@[grind ←] theorem keeps_packSize (caller : Caller) (standard : Nat) (format : List UInt8) :
    (packSize caller standard format).Keeps .library J := by
  unfold packSize
  grind

@[grind ←] theorem keeps_packOption (caller : Caller) (state : PackState) (format : List UInt8) :
    (packOption caller state format).Keeps .library J := by
  unfold packOption
  split
  · exact keeps_pure _
  · split <;> grind

@[grind ←] theorem keeps_packDetail (caller : Caller) (state : PackState) (offset : Nat)
    (format : List UInt8) : (packDetail caller state offset format).Keeps .library J := by
  unfold packDetail
  grind

@[grind ←] theorem keeps_packOne (caller : Caller) (arguments : Array Value) (index : Nat)
    (little : Bool) (item : PackItem) : (packOne caller arguments index little item).Keeps .library J := by
  unfold packOne
  grind

@[grind ←] theorem keeps_packAll (caller : Caller) (arguments : Array Value) (fuel : Nat)
    (state : PackState) (index : Nat) (done : Bytes) (format : List UInt8) :
    (packAll caller arguments fuel state index done format).Keeps .library J := by
  induction fuel generalizing state index done format with
  | zero => exact keeps_pure _
  | succ fuel ih =>
      unfold packAll
      grind

@[grind ←] theorem keeps_packedSize (caller : Caller) (fuel : Nat) (state : PackState)
    (total : Nat) (format : List UInt8) :
    (packedSize caller fuel state total format).Keeps .library J := by
  induction fuel generalizing state total format with
  | zero => exact keeps_pure _
  | succ fuel ih =>
      unfold packedSize
      grind

@[grind ←] theorem keeps_unpackInt (caller : Caller) (bytes : List UInt8) (signed : Bool) :
    (unpackInt caller bytes signed).Keeps .library J := by
  unfold unpackInt
  grind

@[grind ←] theorem keeps_unpackAll (caller : Caller) (data : Bytes) (fuel : Nat)
    (state : PackState) (position : Nat) (done : Array Value) (format : List UInt8) :
    (unpackAll caller data fuel state position done format).Keeps .library J := by
  induction fuel generalizing state position done format with
  | zero => exact keeps_pure _
  | succ fuel ih =>
      unfold unpackAll
      grind

/-! ## Code points -/

namespace CodePoints

@[grind ←] theorem keeps_readAll (caller : Caller) (bytes : Bytes) (stop : Nat) (strict : Bool)
    (fuel place : Nat) (done : Array Value) :
    (readAll caller bytes stop strict fuel place done).Keeps .library J := by
  induction fuel generalizing place done with
  | zero => exact keeps_pure _
  | succ fuel ih =>
      unfold readAll
      grind

end CodePoints

@[grind ←] theorem keeps_runUtf8 (function : Utf8Function) (caller : Caller)
    (arguments : Array Value) : (runUtf8 function caller arguments).Keeps .library J := by
  unfold runUtf8
  split <;> grind

/-! ## Formats -/

@[grind ←] theorem keeps_formatOne (caller : Caller) (arguments : Array Value) (index : Nat)
    (spec : List UInt8) (letter : UInt8) :
    (formatOne caller arguments index spec letter).Keeps .library J := by
  unfold formatOne
  dsimp only
  split <;> grind

@[grind ←] theorem keeps_formatAll (caller : Caller) (arguments : Array Value) (fuel index : Nat)
    (done : Bytes) (format : List UInt8) :
    (formatAll caller arguments fuel index done format).Keeps .library J := by
  induction fuel generalizing index done format with
  | zero => exact keeps_pure _
  | succ fuel ih =>
      cases format with
      | nil => exact keeps_pure _
      | cons b rest =>
          unfold formatAll
          grind

/-! ## Strings -/

namespace Strings

@[grind ←] theorem keeps_ofPattern {α : Type} (caller : Caller)
    (result : Except Pattern.PatternError α) : (ofPattern caller result : Run α).Keeps .library J := by
  unfold ofPattern
  grind

@[grind ←] theorem keeps_findAux (caller : Caller) (arguments : Array Value) (places : Bool) :
    (findAux caller arguments places).Keeps .library J := by
  unfold findAux
  refine keeps_bind (keeps_bytesArgument _ _ _) fun subject => ?_
  refine keeps_bind (keeps_bytesArgument _ _ _) fun pattern => ?_
  refine keeps_bind (keeps_optionalInt _ _ _ _) fun position => ?_
  grind

@[grind ←] theorem keeps_matchesStep (caller : Caller) (ref : Nat) (source pattern : Bytes)
    (position : Nat) (lastEnd : Option Nat) :
    (matchesStep caller ref source pattern position lastEnd).Keeps .library J := by
  unfold matchesStep
  refine keeps_bind (keeps_ofPattern _ _) fun found => ?_
  split
  · refine keeps_bind (keeps_modify fun s kept => ?_) fun _ => keeps_pure _
    exact Lasting.effect (.setNative s ref _ (by simp)) kept
  · refine keeps_bind (keeps_modify fun s kept => ?_) fun _ => keeps_ofPattern _ _
    exact Lasting.effect (.setNative s ref _ (by simp)) kept

@[grind ←] theorem keeps_expand (caller : Caller) (subject : Bytes) (start : Nat)
    (found : Pattern.Match) (done : Bytes) (format : List UInt8) :
    (expand caller subject start found done format).Keeps .library J := by
  fun_induction expand <;> grind

@[grind ←] theorem keeps_replacement (caller : Caller) (subject : Bytes) (start : Nat)
    (found : Pattern.Match) (what : Value) :
    (replacement caller subject start found what).Keeps .library J := by
  unfold replacement
  grind

@[grind ←] theorem keeps_replaceFrom (caller : Caller) (subject pattern : Bytes) (anchored : Bool)
    (what : Value) (limit : Int) (fuel : Nat) (place count : Nat) (lastEnd : Option Nat)
    (done : Bytes) :
    (replaceFrom caller subject pattern anchored what limit fuel place count lastEnd done).Keeps .library J := by
  induction fuel generalizing place count lastEnd done with
  | zero => exact keeps_pure _
  | succ fuel ih =>
      unfold replaceFrom
      grind

@[grind ←] theorem keeps_replaceAll (caller : Caller) (arguments : Array Value) :
    (replaceAll caller arguments).Keeps .library J := by
  unfold replaceAll
  grind

end Strings

@[grind ←] theorem keeps_runString (function : StringFunction) (caller : Caller)
    (arguments : Array Value) : (runString function caller arguments).Keeps .library J := by
  cases function with
  | gmatch =>
      unfold runString
      refine keeps_bind (keeps_bytesArgument _ _ _) fun subject => ?_
      refine keeps_bind (keeps_bytesArgument _ _ _) fun pattern => ?_
      refine keeps_bind (keeps_optionalInt _ _ _ _) fun position => ?_
      refine keeps_bind (keeps_update fun s kept => ?_) fun ref => keeps_pure _
      exact Lasting.effect (.newNative s _ (by simp)) kept
  | dump =>
      unfold runString
      refine keeps_bind (keeps_functionArgument _ _ _) fun function => ?_
      split
      · refine keeps_bind (keeps_update fun s kept => ?_) fun ref => keeps_pure _
        exact Lasting.effect (.compiled s _) kept
      · exact Caller.keeps_fail _ _
  | _ =>
      unfold runString
      grind

@[grind ←] theorem keeps_runStringArithmetic (op : Option Arithmetic) (caller : Caller)
    (arguments : Array Value) : (runStringArithmetic op caller arguments).Keeps .library J := by
  unfold runStringArithmetic
  grind

end LuaSession.Library
