import LuaSession.Proofs.Library.Outside

/-!
# What is not written in a script keeps what scripts cannot change

The basic library, coroutines, and the functions of the host. Only the latter
publish, which takes a function of the host that does.
-/

namespace LuaSession.Library

open LuaSession.Script LuaSession.Script.Run

variable {J : Store → Prop}

/-! ## The basic library -/

namespace Basic

@[grind ←] theorem keeps_raiseError (caller : Caller) (value : Value) (level : Int64) :
    (raiseError caller value level).Keeps .library J := by
  unfold raiseError
  grind

@[grind ←] theorem keeps_protectedCall (handler : Handler) (function : Value)
    (arguments : Array Value) : (protectedCall handler function arguments).Keeps .library J := by
  unfold protectedCall
  grind

@[grind ←] theorem keeps_finalizeAll (values : List Value) : (finalizeAll values).Keeps .library J := by
  induction values with
  | nil => exact keeps_pure _
  | cons value rest ih =>
      unfold finalizeAll
      grind

@[grind ←] theorem keeps_collect : collect.Keeps .library J := by
  unfold collect
  grind

@[grind ←] theorem keeps_setMode (mode : Script.Collecting) : (setMode mode).Keeps .library J :=
  keeps_update fun s kept => Lasting.effect (.collecting s mode s.collectorRuns) kept

@[grind ←] theorem keeps_collectGarbage (caller : Caller) (arguments : Array Value) :
    (collectGarbage caller arguments).Keeps .library J := by
  have runs (collectorRuns : Bool) :
      (do Run.modify fun s => { s with collectorRuns }
          return #[.int 0] : Run (Array Value)).Keeps .library J :=
    keeps_bind (keeps_modify fun s kept =>
      Lasting.effect (.collecting s s.collecting collectorRuns) kept) fun _ => keeps_pure _
  unfold collectGarbage
  refine keeps_bind (keeps_optionArgument _ _ _ _ _) fun option => ?_
  cases option with
  | stop => exact runs false
  | restart => exact runs true
  | _ => grind

@[grind ←] theorem keeps_setMetatable (caller : Caller) (arguments : Array Value) :
    (setMetatable caller arguments).Keeps .library J := by
  have sets (ref : Nat) (metatable : Option Nat) : (do
      Run.modify fun s =>
        let s := s.modifyTable ref fun t => { t with metatable }
        let finalizes := !(s.metafield (.table ref) Event.gc).isNil
        if finalizes && !s.finalizable.contains (.table ref) then
          { s with finalizable := .table ref :: s.finalizable }
        else s
      return #[.table ref] : Run (Array Value)).Keeps .library J := by
    refine keeps_bind (keeps_modify ?_) fun _ => keeps_pure _
    intro K _ s kept
    have given : K (s.modifyTable ref fun t => { t with metatable }) :=
      Lasting.effect (.metatable s ref metatable) kept
    dsimp only
    split
    · exact Lasting.effect (.finalizable _ _) given
    · exact given
  unfold setMetatable
  refine keeps_bind (keeps_tableArgument _ _ _) fun ref => ?_
  split
  · exact keeps_bind (keeps_read _) fun _ =>
      keeps_ite (fun _ => Caller.keeps_fail _ _) fun _ => sets ref _
  · exact keeps_bind (keeps_read _) fun _ =>
      keeps_ite (fun _ => Caller.keeps_fail _ _) fun _ => sets ref _
  · exact keeps_typeFail _ _ _ _

@[grind ←] theorem keeps_nextPair (caller : Caller) (arguments : Array Value) :
    (nextPair caller arguments).Keeps .library J := by
  unfold nextPair
  grind

@[grind ←] theorem keeps_loadScript (caller : Caller) (arguments : Array Value) :
    (loadScript caller arguments).Keeps .library J := by
  unfold loadScript
  refine keeps_bind (keeps_optionalBytes _ _ _ _) fun mode => ?_
  dsimp only
  split
  · grind
  · refine keeps_bind (keeps_optionalBytes _ _ _ _) fun name => ?_
    grind

@[grind ←] theorem keeps_optionalName (caller : Caller) (arguments : Array Value) :
    (optionalName caller arguments).Keeps .library J := by
  unfold optionalName
  grind

@[grind ←] theorem keeps_checkStrings (caller : Caller) (arguments : Array Value)
    (fuel index : Nat) : (checkStrings caller arguments fuel index).Keeps .library J := by
  induction fuel generalizing index with
  | zero => exact keeps_pure _
  | succ fuel ih =>
      unfold checkStrings
      grind

@[grind ←] theorem keeps_textsOf (position : Bytes) (values : List Value) (done : Bytes) :
    (textsOf position values done).Keeps .library J := by
  induction values generalizing done with
  | nil => exact keeps_pure _
  | cons value rest ih =>
      unfold textsOf
      grind

end Basic

@[grind ←] theorem keeps_runBase (function : BaseFunction) (caller : Caller)
    (arguments : Array Value) : (runBase function caller arguments).Keeps .library J := by
  cases function with
  | print =>
      unfold runBase
      refine keeps_bind (Basic.keeps_textsOf _ _ _) fun text => ?_
      refine keeps_bind (keeps_modify fun s kept => ?_) fun _ => keeps_pure _
      exact Lasting.effect (.world s { s.world with output := _ } rfl) kept
  | _ =>
      unfold runBase
      grind

/-! ## Coroutines -/

namespace Coroutines

@[grind ←] theorem keeps_threadArgument (caller : Caller) (arguments : Array Value) :
    (threadArgument caller arguments).Keeps .library J := by
  unfold threadArgument
  grind

@[grind ←] theorem keeps_resume (thread : Nat) (arguments : Array Value) :
    (resume thread arguments).Keeps .library J := by
  unfold resume
  grind

@[grind ←] theorem keeps_closeAll (values : List Value) (error : Option Value) :
    (closeAll values error).Keeps .library J := by
  induction values generalizing error with
  | nil => exact keeps_pure _
  | cons value rest ih =>
      unfold closeAll
      grind

@[grind ←] theorem keeps_close (thread : Nat) : (close thread).Keeps .library J := by
  unfold close
  grind

@[grind ←] theorem keeps_resumeWrapped (caller : Caller) (thread : Nat)
    (arguments : Array Value) : (resumeWrapped caller thread arguments).Keeps .library J := by
  unfold resumeWrapped
  refine keeps_bind (keeps_read _) fun before => ?_
  refine keeps_bind (keeps_resume _ _) fun result => ?_
  split
  · exact keeps_pure _
  · grind

end Coroutines

@[grind ←] theorem keeps_runCoroutine (function : CoroutineFunction) (caller : Caller)
    (arguments : Array Value) : (runCoroutine function caller arguments).Keeps .library J := by
  cases function with
  | wrap =>
      unfold runCoroutine
      refine keeps_bind (keeps_functionArgument _ _ _) fun function => ?_
      refine keeps_bind (keeps_askValues trivial) fun values => ?_
      split
      · refine keeps_bind (keeps_update fun s kept => ?_) fun native => keeps_pure _
        exact Lasting.effect (.newNative s _ (by simp)) kept
      · exact keeps_pure _
  | _ =>
      unfold runCoroutine
      grind

/-! ## The adapter and the functions of the host -/

namespace Hosted

@[grind ←] theorem keeps_raisePanic {α : Type} (text : Option String) :
    (raisePanic text : Run α).Keeps .library J := by
  unfold raisePanic
  refine keeps_bind (keeps_update fun s kept => ?_) fun ref => keeps_raise _
  exact Lasting.effect (.newResource s _) kept

@[grind ←] theorem keeps_takeArguments (values : List Value) (done : Array Value) :
    (takeArguments values done).Keeps .library J := by
  induction values generalizing J done with
  | nil => exact keeps_pure _
  | cons value rest ih =>
      cases value with
      | handle ref =>
          apply keeps_of
          intro K _ s kept
          simp only [takeArguments, bind, Run.bind, Run.read, Step.bind]
          cases found : s.resource ref with
          | panic text =>
              have := Kind.library.lasting K
              have spent : K (s.setResource ref .spentPanic) :=
                Lasting.effect (.setResource s ref _ (by simp [found])
                  (by simp [found, Resource.IsFile])) kept
              exact (keeps_raisePanic text).at spent
          | _ => exact (ih _).at kept
      | _ => exact ih _

@[grind ←] theorem keeps_convert {α : Type} (function : Option String) (position : Nat)
    (value : Value) (conversion : Store → Value → Except Failure α) :
    (convert function position value conversion).Keeps .library J := by
  unfold convert
  grind

@[grind ←] theorem keeps_receiver (method : String) (arguments : Array Value) :
    (receiver method arguments).Keeps .library J := by
  unfold receiver
  grind

@[grind ←] theorem keeps_write (arguments : Array Value) : (write arguments).Keeps .library J := by
  unfold write
  refine keeps_bind (keeps_receiver _ _) fun ref => ?_
  refine keeps_bind (keeps_read _) fun text => ?_
  split
  · exact Packages.keeps_raiseFailure _
  · refine keeps_bind (keeps_read _) fun resource => ?_
    split
    · refine keeps_bind (keeps_modify fun s kept => ?_) fun _ => keeps_pure _
      exact Lasting.effect (.written s _) kept
    · exact Packages.keeps_raiseFailure _

@[grind ←] theorem keeps_failureText (value : Value) : (failureText value).Keeps .library J := by
  unfold failureText
  grind

@[grind ←] theorem keeps_report (value : Value) : (report value).Keeps .library J := by
  unfold report
  grind

theorem keeps_ending [Lasting J] {s : Store} (kept : J s) (value : Value) (isMemory : Bool) :
    J (ending value isMemory s).2 := by
  unfold ending
  dsimp only
  split
  · split
    · exact kept
    next found =>
      exact Lasting.effect (.setResource s _ _ (by simp [found])
        (by simp [found, Resource.IsFile])) kept
    · exact kept
    · exact kept
  · exact kept

@[grind ←] theorem keeps_callForHost (function : Value) (arguments : Array Value) :
    (callForHost function arguments).Keeps .library J := by
  unfold callForHost
  refine keeps_bind (keeps_ask trivial) fun exit => ?_
  split
  · exact keeps_bind (keeps_update fun s kept => keeps_ending kept _ _) fun _ => keeps_pure _
  · exact keeps_pure _
  · exact keeps_pure _

@[grind ←] theorem keeps_loadForHost (setting : Setting) (source : Bytes) :
    (loadForHost setting source).Keeps .library J := by
  unfold loadForHost
  grind

@[grind ←] theorem keeps_runScript (setting : Setting) (source : Bytes) :
    (runScript setting source).Keeps .library J := by
  unfold runScript
  grind

/-- A failure is published. -/
theorem keeps_execute (lets : LetsPublish J) (setting : Setting) (source : Bytes) : (execute setting source).Keeps .library J := by
  unfold execute
  refine keeps_bind (keeps_runScript _ _) fun ending => ?_
  split
  · exact keeps_pure _
  · exact keeps_publish lets _

end Hosted

@[grind ←] theorem keeps_runAdapter (method : AdapterMethod) (caller : Caller)
    (arguments : Array Value) : (runAdapter method caller arguments).Keeps .library J := by
  unfold runAdapter
  grind

open Hosted in
/-- A function of the host may publish only if publishing does not lose the
property. -/
theorem keeps_runHost {function : HostFunction} {setting : Setting}
    (lets : function = .publish ∨ function = .execute → LetsPublish J) (caller : Caller)
    (arguments : Array Value) : (runHost function setting caller arguments).Keeps .library J := by
  cases function with
  | publish =>
      unfold runHost
      refine keeps_bind (keeps_takeArguments _ _) fun taken => ?_
      refine keeps_bind (keeps_convert _ _ _ _) fun text => ?_
      exact keeps_bind (keeps_publish (lets (.inl rfl)) _) fun _ => keeps_pure _
  | execute =>
      unfold runHost
      refine keeps_bind (keeps_takeArguments _ _) fun taken => ?_
      refine keeps_bind (keeps_convert _ _ _ _) fun text => ?_
      exact keeps_bind (keeps_execute (lets (.inr rfl)) setting _) fun _ => keeps_pure _
  | _ =>
      unfold runHost
      grind

/-! ## All functions -/

@[grind ←] theorem keeps_runBuiltin (function : Builtin) (caller : Caller)
    (arguments : Array Value) : (runBuiltin function caller arguments).Keeps .library J := by
  unfold runBuiltin
  split <;> grind

@[grind ←] theorem keeps_runNative (ref : Nat) (caller : Caller) (arguments : Array Value) :
    (runNative ref caller arguments).Keeps .library J := by
  apply keeps_of
  intro K _ s kept
  have := Kind.library.lasting K
  simp only [runNative, bind, Run.bind, Run.read, Step.bind]
  cases found : s.native ref with
  | host function setting =>
      refine (keeps_runHost (fun publishes => ?_) _ _).at kept
      exact Lasting.publish kept ⟨ref, function, setting, found, publishes⟩
  | resumer thread => exact (Coroutines.keeps_resumeWrapped _ _ _).at kept
  | «matches» source pattern position lastEnd =>
      exact (Strings.keeps_matchesStep _ _ _ _ _ _).at kept
  | lines file formats closes => exact (Files.keeps_linesStep _ _ _ _).at kept

end LuaSession.Library
