import LuaSession.Proofs.Library.Values

/-!
# The libraries of the world outside keep what scripts cannot change

The functions on dates, on files and on the texts of scripts: what they change is
the world, the handles of files and the functions that scripts are made into.
-/

namespace LuaSession.Library

open LuaSession.Script LuaSession.Script.Run

variable {J : Store → Prop}

/-! ## Dates and the disk -/

namespace Dates

@[grind ←] theorem keeps_modifyDisk (f : Disk → Disk) : (modifyDisk f).Keeps .library J :=
  keeps_modify fun s kept => Lasting.effect (.world s { s.world with disk := _ } rfl) kept

@[grind ←] theorem keeps_dateField (caller : Caller) (table : Value) (key : String)
    (standard : Option Int) (delta : Int) :
    (dateField caller table key standard delta).Keeps .library J := by
  unfold dateField
  grind

@[grind ←] theorem keeps_setFields (ref : Nat) (date : Calendar) : (setFields ref date).Keeps .library J := by
  unfold setFields
  refine keeps_modify fun s kept => ?_
  generalize List.cons _ _ = fields
  induction fields generalizing s with
  | nil => exact kept
  | cons field fields ih => exact ih _ (Lasting.effect (.put s ref _ _) kept)

@[grind ←] theorem keeps_timeArgument (caller : Caller) (arguments : Array Value) (index : Nat) :
    (timeArgument caller arguments index).Keeps .library J := by
  unfold timeArgument
  grind

@[grind ←] theorem keeps_formatDate (caller : Caller) (date : Calendar) (fuel : Nat)
    (done : Bytes) (format : List UInt8) :
    (formatDate caller date fuel done format).Keeps .library J := by
  fun_induction formatDate <;> grind

end Dates

@[grind ←] theorem keeps_runSystem (function : SystemFunction) (caller : Caller)
    (arguments : Array Value) : (runSystem function caller arguments).Keeps .library J := by
  cases function with
  | date =>
      unfold runSystem
      refine keeps_bind (keeps_optionalBytes _ _ _ _) fun format => ?_
      refine keeps_bind (Dates.keeps_timeArgument _ _ _) fun seconds => ?_
      refine keeps_ite (fun _ => Caller.keeps_fail _ _) fun _ => ?_
      refine keeps_ite (fun _ => ?_) fun _ => ?_
      · refine keeps_bind (keeps_update fun s kept => ?_) fun ref => ?_
        · exact Lasting.effect (.newTable s _) kept
        · grind
      · grind
  | time =>
      unfold runSystem
      refine keeps_ite (fun _ => ?_) fun _ => ?_
      · grind
      · refine keeps_bind (keeps_tableArgument _ _ _) fun ref => ?_
        refine keeps_bind (Dates.keeps_dateField _ _ _ _ _) fun year => ?_
        refine keeps_bind (Dates.keeps_dateField _ _ _ _ _) fun month => ?_
        refine keeps_bind (Dates.keeps_dateField _ _ _ _ _) fun day => ?_
        refine keeps_bind (Dates.keeps_dateField _ _ _ _ _) fun hour => ?_
        refine keeps_bind (Dates.keeps_dateField _ _ _ _ _) fun minute => ?_
        refine keeps_bind (Dates.keeps_dateField _ _ _ _ _) fun second => ?_
        grind
  | tmpname =>
      unfold runSystem
      refine keeps_update fun s kept => ?_
      exact Lasting.effect (.world s { s.world with disk := _ } rfl) kept
  | rename =>
      unfold runSystem
      refine keeps_bind (keeps_bytesArgument _ _ _) fun source => ?_
      refine keeps_bind (keeps_bytesArgument _ _ _) fun target => ?_
      refine keeps_bind (keeps_read _) fun disk => ?_
      split
      · split
        · exact keeps_bind (Dates.keeps_modifyDisk _) fun _ => keeps_pure _
        · exact keeps_pure _
      all_goals exact keeps_pure _
  | _ =>
      unfold runSystem
      grind

/-! ## Files -/

namespace Files

@[grind ←] theorem keeps_fileOf (ref : Nat) : (fileOf ref).Keeps .library J := keeps_read _

@[grind ←] theorem keeps_setFile (ref : Nat) (file : File) : (setFile ref file).Keeps .library J :=
  keeps_modify fun s kept => by
    split
    next found =>
      exact Lasting.effect (.setResource s ref _ (by simp [found]) fun _ => trivial) kept
    next => exact kept

@[grind ←] theorem keeps_newHandle (file : File) : (newHandle file).Keeps .library J :=
  keeps_update fun s kept =>
    Lasting.effect (.finalizable _ _) (Lasting.effect (.newResource s (.file file)) kept)

@[grind ←] theorem keeps_flush (ref : Nat) : (flush ref).Keeps .library J := by
  refine keeps_modify fun s kept => ?_
  split
  next file found =>
    split
    · exact kept
    · refine Lasting.effect (.setResource _ _ _ ?_ fun _ => trivial)
        (Lasting.effect (.world s _ ?_) kept)
      · change s.resource ref ≠ .adapter
        simp [found]
      · split <;> rfl
  next => exact kept

@[grind ←] theorem keeps_write (ref : Nat) (bytes : Bytes) : (write ref bytes).Keeps .library J := by
  unfold write
  grind

@[grind ←] theorem keeps_readable (ref : Nat) : (readable ref).Keeps .library J := by
  unfold readable
  grind

@[grind ←] theorem keeps_moveTo (ref position : Nat) : (moveTo ref position).Keeps .library J := by
  unfold moveTo
  refine keeps_bind (keeps_fileOf _) fun file => ?_
  split
  · exact keeps_setFile _ _
  · exact keeps_modify fun s kept =>
      Lasting.effect (.world s { s.world with inputPosition := _ } rfl) kept
  · exact keeps_pure _

@[grind ←] theorem keeps_close (ref : Nat) : (close ref).Keeps .library J := by
  unfold close
  grind

@[grind ←] theorem keeps_readLine (ref : Nat) (keepEnd : Bool) : (readLine ref keepEnd).Keeps .library J := by
  unfold readLine
  grind

@[grind ←] theorem keeps_readAll (ref : Nat) : (readAll ref).Keeps .library J := by
  unfold readAll
  grind

@[grind ←] theorem keeps_readBytes (ref n : Nat) : (readBytes ref n).Keeps .library J := by
  unfold readBytes
  grind

@[grind ←] theorem keeps_readNumber (ref : Nat) : (readNumber ref).Keeps .library J := by
  unfold readNumber
  refine keeps_bind (keeps_readable _) fun ⟨bytes, start⟩ => ?_
  refine keeps_bind (keeps_moveTo _ _) fun _ => ?_
  split
  · split <;> exact keeps_pure _
  · exact keeps_pure _

@[grind ←] theorem keeps_readFormats (caller : Caller) (ref : Nat) (arguments : Array Value)
    (fuel index : Nat) (done : Array Value) :
    (readFormats caller ref arguments fuel index done).Keeps .library J := by
  induction fuel generalizing index done with
  | zero => exact keeps_pure _
  | succ fuel ih =>
      have next (value : Value) : (if value.isNil then return done.push .nil
          else readFormats caller ref arguments fuel (index + 1) (done.push value)).Keeps .library J :=
        keeps_ite (fun _ => keeps_pure _) fun _ => ih _ _
      have counted : (do
          let n ← intArgument caller arguments index
          let value ← if n == 0 then readBytes ref 0 else readBytes ref n.toUInt64.toNat
          if value.isNil then return done.push .nil
          else readFormats caller ref arguments fuel (index + 1) (done.push value)).Keeps .library J :=
        keeps_bind (keeps_intArgument _ _ _) fun n => keeps_ite
          (fun _ => keeps_bind (keeps_readBytes _ _) next)
          fun _ => keeps_bind (keeps_readBytes _ _) next
      unfold readFormats
      refine keeps_ite (fun _ => keeps_pure _) fun _ => ?_
      split
      · exact counted
      · exact counted
      · refine keeps_bind (keeps_bytesArgument _ _ _) fun format => ?_
        dsimp only
        split
        · exact keeps_bind (keeps_readNumber _) next
        · exact keeps_bind (keeps_readLine _ _) next
        · exact keeps_bind (keeps_readLine _ _) next
        · exact keeps_bind (keeps_readAll _) next
        · exact keeps_bind (keeps_argFail _ _ _) next

@[grind ←] theorem keeps_readWith (caller : Caller) (ref : Nat) (arguments : Array Value)
    (first : Nat) : (readWith caller ref arguments first).Keeps .library J := by
  unfold readWith
  grind

@[grind ←] theorem keeps_writeFrom (caller : Caller) (ref : Nat) (arguments : Array Value)
    (fuel index : Nat) : (writeFrom caller ref arguments fuel index).Keeps .library J := by
  induction fuel generalizing index with
  | zero => exact keeps_pure _
  | succ fuel ih =>
      unfold writeFrom
      grind

@[grind ←] theorem keeps_writeWith (caller : Caller) (ref : Nat) (arguments : Array Value)
    (first : Nat) : (writeWith caller ref arguments first).Keeps .library J := by
  unfold writeWith
  grind

@[grind ←] theorem keeps_handleArgument (caller : Caller) (arguments : Array Value) :
    (handleArgument caller arguments).Keeps .library J := by
  unfold handleArgument
  grind

@[grind ←] theorem keeps_openArgument (caller : Caller) (arguments : Array Value) :
    (openArgument caller arguments).Keeps .library J := by
  unfold openArgument
  grind

@[grind ←] theorem keeps_openFile (name : Bytes) (mode : Mode) : (openFile name mode).Keeps .library J := by
  unfold openFile
  refine keeps_bind (keeps_read _) fun disk => ?_
  dsimp only
  split
  · grind
  · grind
  · grind
  · split
    · grind
    · refine keeps_ite (fun _ => keeps_pure _) fun _ => ?_
      refine keeps_bind (keeps_update fun s kept => ?_) fun place => ?_
      · exact Lasting.effect (.world s { s.world with disk := _ } rfl) kept
      · grind

@[grind ←] theorem keeps_openOrFail (caller : Caller) (name : Bytes) (mode : Mode) :
    (openOrFail caller name mode).Keeps .library J := by
  unfold openOrFail
  grind

@[grind ←] theorem keeps_closeHandle (ref : Nat) : (closeHandle ref).Keeps .library J := by
  unfold closeHandle
  grind

@[grind ←] theorem keeps_linesOf (caller : Caller) (ref : Nat) (formats : Array Value)
    (closes : Bool) : (linesOf caller ref formats closes).Keeps .library J := by
  unfold linesOf
  refine keeps_ite (fun _ => keeps_argFail _ _ _) fun _ => ?_
  refine keeps_bind (keeps_update fun s kept => ?_) fun native => keeps_pure _
  exact Lasting.effect (.newNative s _ (by simp)) kept

@[grind ←] theorem keeps_linesStep (caller : Caller) (ref : Nat) (formats : Array Value)
    (closes : Bool) : (linesStep caller ref formats closes).Keeps .library J := by
  unfold linesStep
  grind

theorem keeps_defaultFile (caller : Caller) (arguments : Array Value) (mode : Mode)
    (get : Registry → Nat) {set : Registry → Nat → Registry}
    (sets : ∀ {K : Store → Prop} [Lasting K] (s : Store) ref, K s → K { s with registry := set s.registry ref }) :
    (defaultFile caller arguments mode get set).Keeps .library J := by
  unfold defaultFile
  refine keeps_ite (fun _ => ?_) fun _ => ?_
  · split
    · exact keeps_bind (keeps_openOrFail _ _ _) fun ref =>
        keeps_bind (keeps_modify fun s kept => sets s ref kept) fun _ =>
          keeps_bind (keeps_read _) fun _ => keeps_pure _
    · exact keeps_bind (keeps_openArgument _ _) fun ref =>
        keeps_bind (keeps_modify fun s kept => sets s ref kept) fun _ =>
          keeps_bind (keeps_read _) fun _ => keeps_pure _
  · grind

@[grind ←] theorem keeps_openDefault (caller : Caller) (what : String) (get : Registry → Nat) :
    (openDefault caller what get).Keeps .library J := by
  unfold openDefault
  grind

end Files

@[grind ←] theorem keeps_runFile (function : FileFunction) (caller : Caller)
    (arguments : Array Value) : (runFile function caller arguments).Keeps .library J := by
  cases function with
  | input =>
      unfold runFile
      exact Files.keeps_defaultFile _ _ _ Registry.defaultInput fun s ref kept =>
        Lasting.effect (.defaultFiles s ref s.registry.defaultOutput) kept
  | output =>
      unfold runFile
      exact Files.keeps_defaultFile _ _ _ Registry.defaultOutput fun s ref kept =>
        Lasting.effect (.defaultFiles s s.registry.defaultInput ref) kept
  | tmpfile =>
      unfold runFile
      refine keeps_bind (keeps_update fun s kept => ?_) fun place => ?_
      · exact Lasting.effect (.world s { s.world with disk := _ } rfl) kept
      · grind
  | _ =>
      unfold runFile
      grind

@[grind ←] theorem keeps_runFileMethod (method : FileMethod) (caller : Caller)
    (arguments : Array Value) : (runFileMethod method caller arguments).Keeps .library J := by
  cases method with
  | seek =>
      unfold runFileMethod
      refine keeps_bind (Files.keeps_openArgument _ _) fun ref => ?_
      refine keeps_bind (keeps_optionArgument _ _ _ _ _) fun whence => ?_
      refine keeps_bind (keeps_optionalInt _ _ _ _) fun offset => ?_
      refine keeps_bind (Files.keeps_flush _) fun _ => ?_
      grind
  | setvbuf =>
      unfold runFileMethod
      refine keeps_bind (Files.keeps_openArgument _ _) fun ref => ?_
      refine keeps_bind (keeps_optionArgument _ _ _ _ _) fun buffering => ?_
      grind
  | _ =>
      unfold runFileMethod
      grind

/-! ## Loading scripts -/

namespace Loading

@[grind ←] theorem keeps_currentDepth : currentDepth.Keeps .library J := by
  unfold currentDepth
  grind

@[grind ←] theorem keeps_load (name mode bytes : Bytes) (environment : Option Value) :
    (load name mode bytes environment).Keeps .library J := by
  have closes (code : Code) : (do
      return Except.ok (← update fun s => closureOf s code environment) :
        Run (Except Bytes Value)).Keeps .library J :=
    keeps_bind (keeps_update fun s kept => Lasting.effect (.script s code environment) kept)
      fun _ => keeps_pure _
  unfold load
  refine keeps_ite (fun _ => ?_) fun _ => ?_
  · split
    · exact keeps_pure _
    · refine keeps_bind (keeps_read _) fun decoded => ?_
      split
      · exact closes _
      · exact keeps_pure _
  · split
    · exact keeps_pure _
    · refine keeps_bind keeps_currentDepth fun depth => ?_
      dsimp only
      split
      · exact closes _
      · exact keeps_pure _

@[grind ←] theorem keeps_readSource (name : Option Bytes) : (readSource name).Keeps .library J := by
  unfold readSource
  grind

@[grind ←] theorem keeps_loadFile (name : Option Bytes) (mode : Bytes)
    (environment : Option Value) : (loadFile name mode environment).Keeps .library J := by
  unfold loadFile
  grind

@[grind ←] theorem keeps_readPieces (caller : Caller) (reader : Value) (fuel : Nat)
    (done : Bytes) : (readPieces caller reader fuel done).Keeps .library J := by
  induction fuel generalizing done with
  | zero => exact keeps_pure _
  | succ fuel ih =>
      unfold readPieces
      grind

end Loading

/-! ## Packages -/

namespace Packages

@[grind ←] theorem keeps_field (name : String) : (field name).Keeps .library J := keeps_read _

@[grind ←] theorem keeps_askSearchers (caller : Caller) (searchers : Nat) (name : Bytes)
    (fuel index : Nat) (message : Bytes) :
    (askSearchers caller searchers name fuel index message).Keeps .library J := by
  induction fuel generalizing index message with
  | zero => exact keeps_pure _
  | succ fuel ih =>
      unfold askSearchers
      grind

@[grind ←] theorem keeps_require (caller : Caller) (arguments : Array Value) :
    (require caller arguments).Keeps .library J := by
  unfold require
  refine keeps_bind (keeps_bytesArgument _ _ _) fun name => ?_
  refine keeps_bind (keeps_read _) fun loaded => ?_
  refine keeps_bind (keeps_index _ _ _ _) fun known => ?_
  refine keeps_ite (fun _ => keeps_pure _) fun _ => ?_
  refine keeps_bind (keeps_field _) fun searchers => ?_
  split
  · refine keeps_bind (keeps_askSearchers _ _ _ _ _ _) fun ⟨loader, data⟩ => ?_
    refine keeps_bind (keeps_callLibrary _ _) fun results => ?_
    grind
  · exact Caller.keeps_fail _ _

@[grind ←] theorem keeps_raiseFailure {α : Type} (failure : Failure) :
    (raiseFailure failure : Run α).Keeps .library J := by
  unfold raiseFailure
  refine keeps_bind (keeps_update fun s kept => ?_) fun ref => keeps_raise _
  exact Lasting.effect (.newResource s _) kept

end Packages

@[grind ←] theorem keeps_runPackage (function : PackageFunction) (caller : Caller)
    (arguments : Array Value) : (runPackage function caller arguments).Keeps .library J := by
  cases function with
  | searchpath =>
      unfold runPackage
      refine keeps_bind (keeps_bytesArgument _ _ _) fun name => ?_
      refine keeps_bind (keeps_bytesArgument _ _ _) fun path => ?_
      grind
  | searchScript =>
      unfold runPackage
      refine keeps_bind (keeps_bytesArgument _ _ _) fun name => ?_
      refine keeps_bind (Packages.keeps_field _) fun path => ?_
      split
      · exact Caller.keeps_fail _ _
      · refine keeps_bind (keeps_read _) fun disk => ?_
        grind
  | _ =>
      unfold runPackage
      grind

end LuaSession.Library
