import LuaSession.Proofs.Library.Outside
import LuaSession.Proofs.Veil.Libraries

/-!
# The libraries of the world outside respect a veil

Dates, files, the texts of scripts and packages: what they bring in from outside are texts
and numbers, and new functions whose environment is visible.
-/

namespace LuaSession.Library

open LuaSession.Script LuaSession.Script.Run

variable {α β : Type} {veil : Veil} {m n : View} {P : View → α → Prop} {Q : View → β → Prop}
  {arguments : Array Value}

/-! ## Dates and the disk -/

namespace Dates

@[grind .] theorem visible_diskFailure (name : Option Bytes) (error : DiskError) :
    Visible n (diskFailure name error) :=
  visible_three visible_nil trivial trivial

@[grind ←] theorem respects_modifyDisk (f : Disk → Disk) : (modifyDisk f).Respects n :=
  respects_modify fun _ veiled _ => veiled.world _

@[grind ←] theorem respects_dateField (caller : Caller) {table : Value}
    (isVisible : Visible n table) (key : String) (standard : Option Int) (delta : Int) :
    (dateField caller table key standard delta).Respects n := by
  unfold dateField
  grind

/-- Several fields of a table are put, one after the other. -/
theorem veiled_puts {ref : Nat} (isOpen : veil ref = none) (fields : List (String × Value))
    (areVisible : ∀ field ∈ fields, ∀ k, Visible k field.2) {s : Store}
    (veiled : s.Veiled veil) :
    s.Reaches veil (fields.foldl (fun s (key, value) => s.put ref (.ofString key) value) s) := by
  induction fields generalizing s with
  | nil => exact veiled.refl
  | cons field fields ih =>
      have put := veiled.put isOpen (visible_ofString field.1)
        (areVisible field List.mem_cons_self _)
      exact put.trans (ih (fun other isMember => areVisible other (List.mem_cons_of_mem _ isMember))
        put.veiled)

@[grind ←] theorem respects_setFields {ref : Nat} (shown : Shown n ref) (date : Calendar) :
    (setFields ref date).Respects n :=
  respects_modify fun _ veiled grown => veiled_puts (shown.grow grown).isOpen _ (by simp) veiled

@[grind ←] theorem respects_timeArgument (caller : Caller) (arguments : Array Value) (index : Nat) :
    (timeArgument caller arguments index).Respects n := by
  unfold timeArgument
  grind

@[grind ←] theorem respects_formatDate (caller : Caller) (date : Calendar) (fuel : Nat)
    (done : Bytes) (format : List UInt8) :
    (formatDate caller date fuel done format).Respects n := by
  fun_induction formatDate <;> grind

end Dates

@[grind ←] theorem respects_runSystem (function : SystemFunction) (caller : Caller)
    (areVisible : Visible n arguments) :
    (runSystem function caller arguments).Respects n := by
  cases function with
  | date =>
      unfold runSystem
      refine respects_bind (respects_optionalBytes _ _ _ _) fun _ more format _ => ?_
      refine respects_bind (Dates.respects_timeArgument _ _ _) fun _ most seconds _ => ?_
      refine ensures_ite (fun _ => Caller.ensures_fail _ _) fun _ => ?_
      refine ensures_ite (fun _ => ?_) fun _ => ?_
      · refine ensures_bind (ensures_newTable (Table.visible_blank 0 16)) fun _ _ ref shown => ?_
        grind
      · grind
  | time =>
      unfold runSystem
      refine ensures_ite (fun _ => ?_) fun _ => ?_
      · grind
      · refine ensures_bind_tableArgument _ areVisible _ fun _ _ ref shown => ?_
        refine respects_bind (Dates.respects_dateField _ (visible_table.mpr shown) _ _ _)
          fun _ first year _ => ?_
        refine respects_bind (Dates.respects_dateField _ (visible_table.mpr (shown.grow first)) _ _ _)
          fun _ second month _ => ?_
        have shown := (shown.grow first).grow second
        refine respects_bind (Dates.respects_dateField _ (visible_table.mpr shown) _ _ _)
          fun _ third day _ => ?_
        have shown := shown.grow third
        refine respects_bind (Dates.respects_dateField _ (visible_table.mpr shown) _ _ _)
          fun _ fourth hour _ => ?_
        have shown := shown.grow fourth
        refine respects_bind (Dates.respects_dateField _ (visible_table.mpr shown) _ _ _)
          fun _ fifth minute _ => ?_
        have shown := shown.grow fifth
        refine respects_bind (Dates.respects_dateField _ (visible_table.mpr shown) _ _ _)
          fun _ sixth seconds _ => ?_
        grind
  | tmpname =>
      unfold runSystem
      refine ensures_update fun s veiled grown => ?_
      exact ⟨veiled.world _, visible_one (visible_ofString _)⟩
  | remove =>
      unfold runSystem
      refine respects_bind (respects_bytesArgument _ _ _) fun _ _ name _ => ?_
      refine respects_bind (respects_read fun _ _ _ => trivial) fun _ _ target _ => ?_
      grind
  | rename =>
      unfold runSystem
      refine respects_bind (respects_bytesArgument _ _ _) fun _ _ source _ => ?_
      refine respects_bind (respects_bytesArgument _ _ _) fun _ _ target _ => ?_
      refine respects_bind (respects_read fun _ _ _ => trivial) fun _ _ disk _ => ?_
      split
      · split
        · exact respects_bind (Dates.respects_modifyDisk _) fun _ _ _ _ =>
            respects_pure (visible_one trivial)
        · exact respects_pure (Dates.visible_diskFailure _ _)
      all_goals exact respects_pure (Dates.visible_diskFailure _ _)
  | _ =>
      unfold runSystem
      grind

/-! ## Files -/

namespace Files

@[grind ←] theorem respects_fileOf (ref : Nat) : (fileOf ref).Respects n :=
  respects_read fun _ _ _ => trivial

@[grind ←] theorem respects_setFile (ref : Nat) (file : File) : (setFile ref file).Respects n :=
  respects_modify fun s veiled _ => by
    split
    · exact veiled.setResource ref _
    · exact veiled.refl

@[grind ←] theorem respects_newHandle (file : File) : (newHandle file).Respects n :=
  ensures_update fun s veiled _ => by
    have made := veiled.newResource (.file file)
    have noted := made.veiled.setFinalizable
      (visible_cons.mpr ⟨visible_handle (s.newResource (.file file)).1, made.veiled.finalizable⟩)
    exact ⟨made.trans noted, trivial⟩

@[grind ←] theorem respects_flush (ref : Nat) : (flush ref).Respects n := by
  refine respects_modify fun s veiled _ => ?_
  split
  · split
    · exact veiled.refl
    · exact (veiled.world _).trans ((veiled.world _).veiled.setResource _ _)
  · exact veiled.refl

@[grind ←] theorem respects_write (ref : Nat) (bytes : Bytes) : (write ref bytes).Respects n := by
  unfold write
  grind

@[grind ←] theorem respects_readable (ref : Nat) : (readable ref).Respects n := by
  unfold readable
  grind

@[grind ←] theorem respects_moveTo (ref position : Nat) : (moveTo ref position).Respects n := by
  unfold moveTo
  refine respects_bind (respects_fileOf _) fun _ _ file _ => ?_
  split
  · exact respects_setFile _ _
  · exact respects_modify fun s veiled _ => veiled.world _
  · exact respects_pure trivial

@[grind ←] theorem respects_close (ref : Nat) : (close ref).Respects n := by
  unfold close
  grind

@[grind ←] theorem respects_readLine (ref : Nat) (keepEnd : Bool) :
    (readLine ref keepEnd).Respects n := by
  unfold readLine
  grind

@[grind ←] theorem respects_readAll (ref : Nat) : (readAll ref).Respects n := by
  unfold readAll
  grind

@[grind ←] theorem respects_readBytes (ref k : Nat) : (readBytes ref k).Respects n := by
  unfold readBytes
  grind

@[grind ←] theorem respects_readNumber (ref : Nat) : (readNumber ref).Respects n := by
  unfold readNumber
  refine respects_bind (respects_readable _) fun _ _ ⟨bytes, start⟩ _ => ?_
  refine respects_bind (respects_moveTo _ _) fun _ _ _ _ => ?_
  split
  · split <;> exact respects_pure (by grind)
  · exact respects_pure visible_nil

@[grind ←] theorem respects_readFormats (caller : Caller) (ref : Nat)
    (areVisible : Visible n arguments) (fuel index : Nat) {done : Array Value}
    (areDone : Visible n done) :
    (readFormats caller ref arguments fuel index done).Respects n := by
  induction fuel generalizing n index done with
  | zero => exact respects_pure areDone
  | succ fuel ih =>
      have next (k : View) (grown : Grown n k) (value : Value) (isVisible : Visible k value) :
          (if value.isNil then return done.push .nil
            else readFormats caller ref arguments fuel (index + 1) (done.push value)).Respects k :=
        ensures_ite (fun _ => respects_pure (visible_push.mpr ⟨areDone.grow grown, visible_nil⟩))
          fun _ => ih (areVisible.grow grown) _ (visible_push.mpr ⟨areDone.grow grown, isVisible⟩)
      have counted : (do
          let k ← intArgument caller arguments index
          let value ← if k == 0 then readBytes ref 0 else readBytes ref k.toUInt64.toNat
          if value.isNil then return done.push .nil
          else readFormats caller ref arguments fuel (index + 1) (done.push value)).Respects n :=
        respects_bind (respects_intArgument _ _ _) fun k grown number _ => ensures_ite
          (fun _ => respects_bind (respects_readBytes _ _) fun l more => next l (grown.trans more))
          fun _ => respects_bind (respects_readBytes _ _) fun l more => next l (grown.trans more)
      unfold readFormats
      refine ensures_ite (fun _ => respects_pure areDone) fun _ => ?_
      split
      · exact counted
      · exact counted
      · refine respects_bind (respects_bytesArgument _ _ _) fun k grown format _ => ?_
        have next (l : View) (more : Grown k l) := next l (grown.trans more)
        dsimp only
        split
        · exact respects_bind (respects_readNumber _) next
        · exact respects_bind (respects_readLine _ _) next
        · exact respects_bind (respects_readLine _ _) next
        · exact respects_bind (respects_readAll _) next
        · exact ensures_bind (ensures_argFail _ _ _) next

@[grind ←] theorem respects_readWith (caller : Caller) (ref : Nat)
    (areVisible : Visible n arguments) (first : Nat) :
    (readWith caller ref arguments first).Respects n := by
  unfold readWith
  grind

@[grind ←] theorem respects_writeFrom (caller : Caller) (ref : Nat) (arguments : Array Value)
    (fuel index : Nat) : (writeFrom caller ref arguments fuel index).Respects n := by
  induction fuel generalizing n index with
  | zero => exact respects_pure trivial
  | succ fuel ih =>
      unfold writeFrom
      grind

@[grind ←] theorem respects_writeWith (caller : Caller) (ref : Nat) (arguments : Array Value)
    (first : Nat) : (writeWith caller ref arguments first).Respects n := by
  unfold writeWith
  grind

@[grind ←] theorem respects_handleArgument (caller : Caller) (arguments : Array Value) :
    (handleArgument caller arguments).Respects n := by
  unfold handleArgument
  grind

@[grind ←] theorem respects_openArgument (caller : Caller) (arguments : Array Value) :
    (openArgument caller arguments).Respects n := by
  unfold openArgument
  grind

@[grind ←] theorem respects_openFile (name : Bytes) (mode : Mode) :
    (openFile name mode).Respects n := by
  unfold openFile
  refine respects_bind (respects_read fun _ _ _ => trivial) fun _ _ disk _ => ?_
  dsimp only
  split
  · grind
  · grind
  · grind
  · split
    · grind
    · refine ensures_ite (fun _ => respects_pure trivial) fun _ => ?_
      refine respects_bind (ensures_update fun s veiled _ => ?_) fun _ _ place _ => ?_
      · exact ⟨veiled.world _, trivial⟩
      · grind

@[grind ←] theorem respects_openOrFail (caller : Caller) (name : Bytes) (mode : Mode) :
    (openOrFail caller name mode).Respects n := by
  unfold openOrFail
  grind

@[grind ←] theorem respects_closeHandle (ref : Nat) : (closeHandle ref).Respects n := by
  unfold closeHandle
  grind

@[grind ←] theorem respects_linesOf (caller : Caller) (ref : Nat) {formats : Array Value}
    (areVisible : Visible n formats) (closes : Bool) :
    (linesOf caller ref formats closes).Respects n := by
  unfold linesOf
  refine ensures_ite (fun _ => ensures_argFail _ _ _) fun _ => ?_
  refine respects_bind (ensures_update fun s veiled grown => ?_) fun _ _ native _ =>
    respects_pure trivial
  exact ⟨veiled.newNative (areVisible.grow grown), trivial⟩

@[grind ←] theorem respects_linesStep (caller : Caller) (ref : Nat) {formats : Array Value}
    (areVisible : Visible n formats) (closes : Bool) :
    (linesStep caller ref formats closes).Respects n := by
  unfold linesStep
  grind

theorem respects_defaultFile (caller : Caller) (arguments : Array Value) (mode : Mode)
    (get : Registry → Nat) {set : Registry → Nat → Registry}
    (sets : ∀ {k : View} {registry : Registry} ref, Visible k registry →
      Visible k (set registry ref)) :
    (defaultFile caller arguments mode get set).Respects n := by
  have changes (ref : Nat) (k : View) :
      (modify fun s => { s with registry := set s.registry ref }).Respects k :=
    respects_modify fun s veiled _ => veiled.setRegistry (sets ref veiled.registry)
  have asked (k : View) : (do return #[Value.handle (← Run.read fun s => get s.registry)] :
      Run (Array Value)).Respects k :=
    respects_bind (respects_read fun _ _ _ => trivial) fun _ _ ref _ =>
      respects_pure (visible_one (visible_handle ref))
  unfold defaultFile
  refine ensures_ite (fun _ => ?_) fun _ => asked _
  split
  · exact respects_bind (respects_openOrFail _ _ _) fun _ _ ref _ =>
      respects_bind (changes ref _) fun k _ _ _ => asked k
  · exact respects_bind (respects_openArgument _ _) fun _ _ ref _ =>
      respects_bind (changes ref _) fun k _ _ _ => asked k

@[grind ←] theorem respects_openDefault (caller : Caller) (what : String) (get : Registry → Nat) :
    (openDefault caller what get).Respects n := by
  unfold openDefault
  grind

end Files

@[grind ←] theorem respects_runFile (function : FileFunction) (caller : Caller)
    (areVisible : Visible n arguments) :
    (runFile function caller arguments).Respects n := by
  cases function with
  | input =>
      unfold runFile
      exact Files.respects_defaultFile _ _ _ Registry.defaultInput fun ref visible =>
        ⟨visible.globals, visible.loaded, visible.preload, visible.strings, visible.files,
          visible.package⟩
  | output =>
      unfold runFile
      exact Files.respects_defaultFile _ _ _ Registry.defaultOutput fun ref visible =>
        ⟨visible.globals, visible.loaded, visible.preload, visible.strings, visible.files,
          visible.package⟩
  | lines =>
      unfold runFile
      have rest := visible_extract areVisible 1 arguments.size
      refine ensures_ite (fun _ => by grind) fun _ => ?_
      refine respects_bind (respects_bytesArgument _ _ _) fun _ first name _ => ?_
      refine respects_bind (Files.respects_openOrFail _ _ _) fun _ second ref _ => ?_
      have rest := rest.grow (first.trans second)
      refine respects_bind (Files.respects_linesOf _ _ rest _) fun _ _ iterator isVisible => ?_
      exact respects_pure (by simp [isVisible])
  | «open» =>
      unfold runFile
      refine respects_bind (respects_bytesArgument _ _ _) fun _ _ name _ => ?_
      refine respects_bind (respects_optionalBytes _ _ _ _) fun _ _ text _ => ?_
      grind
  | type =>
      unfold runFile
      refine respects_bind (respects_anyArgument _ areVisible _) fun _ _ value _ => ?_
      split
      · grind
      · exact respects_pure (visible_one visible_nil)
  | tmpfile =>
      unfold runFile
      refine respects_bind (ensures_update fun s veiled _ => ?_) fun _ _ place _ => ?_
      · exact ⟨veiled.world _, trivial⟩
      · grind
  | _ =>
      unfold runFile
      grind

@[grind ←] theorem respects_runFileMethod (method : FileMethod) (caller : Caller)
    (areVisible : Visible n arguments) :
    (runFileMethod method caller arguments).Respects n := by
  cases method with
  | seek =>
      unfold runFileMethod
      refine respects_bind (Files.respects_openArgument _ _) fun _ _ ref _ => ?_
      refine respects_bind (respects_optionArgument _ _ _ _ _) fun _ _ whence _ => ?_
      refine respects_bind (respects_optionalInt _ _ _ _) fun _ _ offset _ => ?_
      refine respects_bind (Files.respects_flush _) fun _ _ _ _ => ?_
      grind
  | setvbuf =>
      unfold runFileMethod
      refine respects_bind (Files.respects_openArgument _ _) fun _ _ ref _ => ?_
      refine respects_bind (respects_optionArgument _ _ _ _ _) fun _ _ buffering _ => ?_
      grind
  | _ =>
      unfold runFileMethod
      grind

/-! ## Loading scripts -/

namespace Loading

/-- New variables hold the environment of a function and nothing else. -/
theorem veiled_newCells {s : Store} {environment : Option Value} (veiled : s.Veiled veil)
    (visible : Visible (s.view veil) environment) (count : Nat) :
    s.Reaches veil (newCells s environment count).2 := by
  unfold newCells
  generalize (#[] : Array Nat) = cells
  induction List.range count generalizing s cells with
  | nil => exact veiled.refl
  | cons i rest ih =>
      have isVisible : Visible (s.view veil)
          (if i == 0 then environment.getD (.table s.registry.globals) else .nil) := by
        split
        · exact visible_option_getD visible veiled.registry.globals
        · exact visible_nil
      have made := veiled.newCell isVisible
      exact made.trans (ih made.veiled (visible.grow made.grown) _)

theorem veiled_closureOf {s : Store} {environment : Option Value} (veiled : s.Veiled veil)
    (visible : Visible (s.view veil) environment) (code : Code) :
    s.Reaches veil (closureOf s code environment).2 := by
  have made := veiled_newCells veiled visible code.info.captures.size
  exact made.trans (made.veiled.newClosure _)

@[grind ←] theorem respects_currentDepth : currentDepth.Respects n := by
  unfold currentDepth
  grind

@[grind ←] theorem respects_load (name mode bytes : Bytes) {environment : Option Value}
    (visible : Visible n environment) :
    (load name mode bytes environment).Respects n := by
  have closes (code : Code) (k : View) (grown : Grown n k) : (do
      return Except.ok (← update fun s => closureOf s code environment) :
        Run (Except Bytes Value)).Respects k :=
    respects_bind (ensures_update fun s veiled more =>
      ⟨veiled_closureOf veiled (visible.grow (grown.trans more)) code, visible_closure _⟩)
      fun _ _ value isVisible => respects_pure (visible_ok.mpr isVisible)
  unfold load
  refine ensures_ite (fun _ => ?_) fun _ => ?_
  · split
    · exact respects_pure trivial
    · refine respects_bind (respects_read fun _ _ _ => visible_except_nothing _)
        fun _ more decoded _ => ?_
      split
      · exact closes _ _ more
      · exact respects_pure trivial
  · split
    · exact respects_pure trivial
    · refine respects_bind respects_currentDepth fun _ more depth _ => ?_
      dsimp only
      split
      · exact closes _ _ more
      · exact respects_pure trivial

@[grind ←] theorem respects_readSource (name : Option Bytes) : (readSource name).Respects n := by
  unfold readSource
  split
  · grind
  · refine respects_bind (respects_read fun _ _ _ => trivial) fun _ _ disk _ => ?_
    dsimp only
    split
    · exact respects_pure trivial
    · exact respects_pure trivial
    · exact respects_pure (visible_ok.mpr ⟨trivial, trivial⟩)
    · split
      · exact respects_pure (visible_ok.mpr ⟨trivial, trivial⟩)
      · exact respects_pure trivial

@[grind ←] theorem respects_loadFile (name : Option Bytes) (mode : Bytes)
    {environment : Option Value} (visible : Visible n environment) :
    (loadFile name mode environment).Respects n := by
  unfold loadFile
  grind

@[grind ←] theorem respects_readPieces (caller : Caller) {reader : Value}
    (isVisible : Visible n reader) (fuel : Nat) (done : Bytes) :
    (readPieces caller reader fuel done).Respects n := by
  induction fuel generalizing n done with
  | zero => exact respects_pure trivial
  | succ fuel ih =>
      unfold readPieces
      grind

end Loading

/-! ## Packages -/

namespace Packages

@[grind ←] theorem respects_field (name : String) : (field name).Respects n :=
  respects_read fun s veiled _ => by
    split
    next ref found =>
      have shown := veiled.registry.package ref found
      exact Table.visible_getPair (veiled.shown ref shown.isOpen) _
    next => exact visible_nil

@[grind ←] theorem respects_askSearchers (caller : Caller) {searchers : Nat}
    (shown : Shown n searchers) (name : Bytes) (fuel index : Nat) (message : Bytes) :
    (askSearchers caller searchers name fuel index message).Respects n := by
  induction fuel generalizing n index message with
  | zero => exact respects_pure ⟨visible_nil, visible_nil⟩
  | succ fuel ih =>
      unfold askSearchers
      grind

@[grind ←] theorem respects_require (caller : Caller) (arguments : Array Value) :
    (require caller arguments).Respects n := by
  unfold require
  refine respects_bind (respects_bytesArgument _ _ _) fun _ _ name _ => ?_
  refine ensures_bind (P := Shown) (ensures_read fun s veiled _ => veiled.registry.loaded)
    fun _ _ loaded shown => ?_
  refine respects_bind (respects_index _ _ shown (visible_str _)) fun _ more known isKnown => ?_
  have shown := shown.grow more
  refine ensures_ite (fun _ => respects_pure (visible_one isKnown)) fun _ => ?_
  refine respects_bind (respects_field _) fun _ more searchers isVisible => ?_
  have shown := shown.grow more
  split
  · refine respects_bind (respects_askSearchers _ isVisible _ _ _ _) fun _ more
      ⟨loader, data⟩ found => ?_
    have shown := shown.grow more
    refine respects_bind (respects_callLibrary found.1 (visible_two (visible_str _) found.2))
      fun _ more results areVisible => ?_
    have shown := shown.grow more
    grind
  · exact Caller.ensures_fail _ _

@[grind ←] theorem ensures_raiseFailure (failure : Failure) :
    (raiseFailure failure : Run α).Ensures P n := by
  unfold raiseFailure
  refine respects_bind (ensures_update fun s veiled _ => ?_) fun _ _ ref _ =>
    ensures_raise (visible_handle _)
  exact ⟨veiled.newResource _, trivial⟩

end Packages

@[grind ←] theorem respects_runPackage (function : PackageFunction) (caller : Caller)
    (areVisible : Visible n arguments) :
    (runPackage function caller arguments).Respects n := by
  cases function with
  | searchpath =>
      unfold runPackage
      refine respects_bind (respects_bytesArgument _ _ _) fun _ _ name _ => ?_
      refine respects_bind (respects_bytesArgument _ _ _) fun _ _ path _ => ?_
      grind
  | searchPreload =>
      unfold runPackage
      refine respects_bind (respects_bytesArgument _ _ _) fun _ _ name _ => ?_
      refine ensures_bind (P := Shown)
        (ensures_read fun s veiled _ => veiled.registry.preload) fun _ _ preload shown => ?_
      grind
  | searchScript =>
      unfold runPackage
      refine respects_bind (respects_bytesArgument _ _ _) fun _ _ name _ => ?_
      refine respects_bind (Packages.respects_field _) fun _ _ path _ => ?_
      split
      · exact Caller.ensures_fail _ _
      · refine respects_bind (respects_read fun _ _ _ => trivial) fun _ _ disk _ => ?_
        grind
  | _ =>
      unfold runPackage
      grind

end LuaSession.Library
