import LuaSession.Proofs.Library.Functions
import LuaSession.Proofs.Veil.Outside

/-!
# What is not written in a script respects a veil

The basic library, coroutines, and the functions of the host. A script that the host runs
gets the session's scope as its environment, which is shown.
-/

namespace LuaSession.Library

open LuaSession.Script LuaSession.Script.Run

variable {α : Type} {veil : Veil} {m n : View} {P : View → α → Prop} {arguments : Array Value}
  {value function : Value}

/-! ## The basic library -/

namespace Basic

@[grind ←] theorem respects_raiseError (caller : Caller) (isVisible : Visible n value)
    (level : Int64) : (raiseError caller value level).Respects n := by
  unfold raiseError
  grind

@[grind ←] theorem respects_protectedCall {handler : Handler} (isHandler : Visible n handler)
    (isFunction : Visible n function) (areVisible : Visible n arguments) :
    (protectedCall handler function arguments).Respects n := by
  unfold protectedCall
  grind

@[grind ←] theorem respects_finalizeAll {values : List Value} (areVisible : Visible n values) :
    (finalizeAll values).Respects n := by
  induction values generalizing n with
  | nil => exact respects_pure trivial
  | cons value rest ih =>
      have isVisible := (visible_cons.mp areVisible).1
      have restVisible := (visible_cons.mp areVisible).2
      unfold finalizeAll
      refine respects_bind (respects_read fun s veiled grown => ?_) fun m grown handler isHandler => ?_
      · exact veiled.visible_metafield (isVisible.grow grown) Event.gc
      · have isVisible := isVisible.grow grown
        grind

@[grind ←] theorem respects_collect : collect.Respects n := by
  unfold collect
  grind

@[grind ←] theorem respects_setMode (mode : Script.Collecting) : (setMode mode).Respects n :=
  ensures_update fun _ veiled _ =>
    ⟨veiled.same rfl rfl rfl rfl rfl rfl rfl, visible_one (visible_ofString _)⟩

@[grind ←] theorem respects_collectGarbage (caller : Caller) (arguments : Array Value) :
    (collectGarbage caller arguments).Respects n := by
  have runs (collectorRuns : Bool) (k : View) :
      (do Run.modify fun s => { s with collectorRuns }
          return #[.int 0] : Run (Array Value)).Respects k :=
    respects_bind (respects_modify fun s veiled _ => veiled.same rfl rfl rfl rfl rfl rfl rfl)
      fun _ _ _ _ => respects_pure (visible_one (visible_int 0))
  unfold collectGarbage
  refine respects_bind (respects_optionArgument _ _ _ _ _) fun _ _ option _ => ?_
  cases option with
  | stop => exact runs false _
  | restart => exact runs true _
  | _ => grind

/-- A table gets a metatable, and a finalizer with it perhaps. -/
theorem veiled_setMetatable {s : Store} {ref : Nat} {metatable : Option Nat}
    (veiled : s.Veiled veil) (shown : Shown (s.view veil) ref)
    (areShown : ∀ mt ∈ metatable, Shown (s.view veil) mt) :
    s.Reaches veil
      (let s := s.modifyTable ref fun t => { t with metatable }
       let finalizes := !(s.metafield (.table ref) Event.gc).isNil
       if finalizes && !s.finalizable.contains (.table ref) then
         { s with finalizable := .table ref :: s.finalizable }
       else s) := by
  have given := veiled.modifyTable (f := fun t => { t with metatable }) shown.isOpen
    fun table visible => ⟨visible.array, visible.pairs, areShown⟩
  dsimp only
  split
  · exact given.trans (given.veiled.setFinalizable
      (visible_cons.mpr ⟨shown.grow given.grown, given.veiled.finalizable⟩))
  · exact given

/-- The second argument is the table it is to be. -/
theorem shown_metatableArgument (areVisible : Visible n arguments) :
    ∀ mt ∈ (match argument arguments 2 with
      | .table mt => some mt
      | _ => none), Shown n mt := by
  intro mt isMetatable
  have isVisible := visible_argument areVisible 2
  split at isMetatable
  next found =>
    obtain rfl := Option.some.inj (Option.mem_def.mp isMetatable)
    rw [found] at isVisible
    exact isVisible
  next => cases isMetatable

/-- The table's metatable is not protected, or an error is raised. -/
theorem respects_giveMetatable (caller : Caller) {ref : Nat} {metatable : Option Nat}
    (shown : Shown n ref) (areShown : ∀ mt ∈ metatable, Shown n mt) :
    (do
      let protected? ← Run.read (·.metafield (.table ref) Event.metatable)
      if !protected?.isNil then caller.fail "cannot change a protected metatable"
      else
        Run.modify fun s =>
          let s := s.modifyTable ref fun t => { t with metatable }
          let finalizes := !(s.metafield (.table ref) Event.gc).isNil
          if finalizes && !s.finalizable.contains (.table ref) then
            { s with finalizable := .table ref :: s.finalizable }
          else s
        return #[.table ref] : Run (Array Value)).Respects n := by
  refine respects_bind (respects_read fun s veiled grown =>
    veiled.visible_metafield (visible_table.mpr (shown.grow grown)) _) fun m grown _ _ => ?_
  refine ensures_ite (fun _ => Caller.ensures_fail _ _) fun _ => ?_
  refine respects_bind (respects_modify fun s veiled more => ?_) fun k more _ _ => ?_
  · exact veiled_setMetatable veiled (shown.grow (grown.trans more)) fun mt isMetatable =>
      (areShown mt isMetatable).grow (grown.trans more)
  · exact respects_pure (visible_one (visible_table.mpr (shown.grow (grown.trans more))))

@[grind ←] theorem respects_setMetatable (caller : Caller) (areVisible : Visible n arguments) :
    (setMetatable caller arguments).Respects n := by
  unfold setMetatable
  refine ensures_bind_tableArgument _ areVisible _ fun k grown ref shown => ?_
  have gives := respects_giveMetatable caller shown
    (shown_metatableArgument (areVisible.grow grown))
  split
  · exact gives
  · exact gives
  · exact ensures_typeFail _ _ _ _

@[grind ←] theorem respects_nextPair (caller : Caller) (areVisible : Visible n arguments) :
    (nextPair caller arguments).Respects n := by
  unfold nextPair
  grind

@[grind ←] theorem respects_answer {result : Except Bytes Value} {k : View}
    (visible : Visible k result) : (pure (Loading.answer result) : Run (Array Value)).Respects k := by
  cases result with
  | error message => exact respects_pure (visible_softFailure message)
  | ok function => exact respects_pure (visible_one visible)

@[grind ←] theorem respects_loadScript (caller : Caller) (areVisible : Visible n arguments) :
    (loadScript caller arguments).Respects n := by
  have environment : Visible n arguments[3]? := visible_getElem? areVisible 3
  have isReader := visible_argument areVisible 1
  unfold loadScript
  refine respects_bind (respects_optionalBytes _ _ _ _) fun k grown mode _ => ?_
  have environment := environment.grow grown
  have areVisible := areVisible.grow grown
  dsimp only
  split
  · grind
  · refine respects_bind (respects_optionalBytes _ _ _ _) fun l more name _ => ?_
    refine respects_bind (respects_functionArgument _ (areVisible.grow more) _)
      fun m most reader isReader => ?_
    have environment := environment.grow (more.trans most)
    refine respects_bind (Loading.respects_readPieces _ isReader _ _) fun o last pieces found => ?_
    have environment := environment.grow last
    grind

@[grind ←] theorem respects_optionalName (caller : Caller) (arguments : Array Value) :
    (optionalName caller arguments).Respects n := by
  unfold optionalName
  grind

@[grind ←] theorem respects_checkStrings (caller : Caller) (arguments : Array Value)
    (fuel index : Nat) : (checkStrings caller arguments fuel index).Respects n := by
  induction fuel generalizing n index with
  | zero => exact respects_pure trivial
  | succ fuel ih =>
      unfold checkStrings
      grind

@[grind ←] theorem respects_textsOf (position : Bytes) {values : List Value}
    (areVisible : Visible n values) (done : Bytes) :
    (textsOf position values done).Respects n := by
  induction values generalizing n done with
  | nil => exact respects_pure trivial
  | cons value rest ih =>
      unfold textsOf
      grind

end Basic

@[grind ←] theorem respects_runBase (function : BaseFunction) (caller : Caller)
    (areVisible : Visible n arguments) :
    (runBase function caller arguments).Respects n := by
  cases function with
  | print =>
      unfold runBase
      refine respects_bind (Basic.respects_textsOf _ (visible_toList.mpr areVisible) _)
        fun _ _ text _ => ?_
      exact respects_bind (respects_modify fun s veiled _ => veiled.world _) fun _ _ _ _ =>
        respects_pure visible_empty
  | getmetatable =>
      unfold runBase
      refine respects_bind (respects_anyArgument _ areVisible _) fun k _ value isVisible => ?_
      refine respects_bind (respects_read fun s veiled grown =>
        veiled.visible_metafield (isVisible.grow grown) _) fun l more stands isStanding => ?_
      refine ensures_ite (fun _ => respects_pure (visible_one isStanding)) fun _ => ?_
      refine ensures_bind (P := fun k metatable => ∀ ref, metatable = some ref → Shown k ref)
        (ensures_read fun s veiled grown ref found =>
          veiled.shown_metatable? (isVisible.grow (more.trans grown)) found) fun m _ metatable areShown => ?_
      split
      · exact respects_pure (visible_one visible_nil)
      · exact respects_pure (visible_one (visible_table.mpr (areShown _ rfl)))
  | _ =>
      unfold runBase
      grind

/-! ## Coroutines -/

namespace Coroutines

@[grind ←] theorem respects_threadArgument (caller : Caller) (arguments : Array Value) :
    (threadArgument caller arguments).Respects n := by
  unfold threadArgument
  grind

@[grind ←] theorem respects_resume (thread : Nat) (areVisible : Visible n arguments) :
    (resume thread arguments).Respects n := by
  unfold resume
  refine respects_bind (respects_read fun _ _ _ => trivial) fun k grown status _ => ?_
  split
  · refine respects_bind (respects_ask (areVisible.grow grown)) fun l _ exit isVisible => ?_
    split
    · exact respects_pure (visible_error.mpr ⟨isVisible, trivial⟩)
    · exact respects_pure isVisible
    · exact respects_pure (visible_ok.mpr visible_empty)
  all_goals exact respects_pure (visible_error.mpr ⟨visible_ofString _, trivial⟩)

@[grind ←] theorem respects_closeAll {values : List Value} (areVisible : Visible n values)
    {error : Option Value} (isError : Visible n error) :
    (closeAll values error).Respects n := by
  induction values generalizing n error with
  | nil => exact respects_pure isError
  | cons value rest ih =>
      unfold closeAll
      grind

@[grind ←] theorem respects_close (thread : Nat) : (close thread).Respects n := by
  unfold close
  grind

@[grind ←] theorem respects_resumeWrapped (caller : Caller) (thread : Nat)
    (areVisible : Visible n arguments) :
    (resumeWrapped caller thread arguments).Respects n := by
  unfold resumeWrapped
  refine respects_bind (respects_read fun _ _ _ => trivial) fun _ more before _ => ?_
  refine respects_bind (respects_resume _ (areVisible.grow more)) fun _ _ result isVisible => ?_
  split
  · exact respects_pure isVisible
  · grind

end Coroutines

@[grind ←] theorem respects_runCoroutine (function : CoroutineFunction) (caller : Caller)
    (areVisible : Visible n arguments) :
    (runCoroutine function caller arguments).Respects n := by
  cases function with
  | wrap =>
      unfold runCoroutine
      refine respects_bind (respects_functionArgument _ areVisible _) fun _ _ function isFunction => ?_
      refine respects_bind (respects_askValues isFunction) fun _ _ values _ => ?_
      split
      · refine respects_bind (ensures_update fun s veiled _ => ?_) fun _ _ native _ =>
          respects_pure (visible_one (visible_native native))
        exact ⟨veiled.newNative (visible_resumer _), trivial⟩
      · exact respects_pure visible_empty
  | close =>
      unfold runCoroutine
      refine respects_bind (Coroutines.respects_threadArgument _ _) fun _ _ thread _ => ?_
      refine respects_bind (respects_read fun _ _ _ => trivial) fun _ _ status _ => ?_
      grind
  | _ =>
      unfold runCoroutine
      grind

/-! ## The adapter and the functions of the host -/

namespace Hosted

@[grind ←] theorem ensures_raisePanic (text : Option String) :
    (raisePanic text : Run α).Ensures P n := by
  unfold raisePanic
  exact respects_bind (ensures_update fun s veiled _ => ⟨veiled.newResource _, trivial⟩)
    fun _ _ ref _ => ensures_raise (visible_handle ref)

@[grind ←] theorem respects_takeArguments {values : List Value} (areVisible : Visible n values)
    {done : Array Value} (areDone : Visible n done) :
    (takeArguments values done).Respects n := by
  induction values generalizing n done with
  | nil => exact respects_pure areDone
  | cons value rest ih =>
      obtain ⟨isVisible, restVisible⟩ := visible_cons.mp areVisible
      have goOn (k : View) (grown : Grown n k) (value : Value) (isVisible : Visible k value) :
          (takeArguments rest (done.push value)).Respects k :=
        ih (restVisible.grow grown) (visible_push.mpr ⟨areDone.grow grown, isVisible⟩)
      cases value with
      | handle ref =>
          refine respects_bind (respects_read fun _ _ _ => trivial) fun k grown resource _ => ?_
          split
          · exact respects_bind (respects_modify fun s veiled _ => veiled.setResource _ _)
              fun _ _ _ _ => ensures_raisePanic _
          · exact goOn k grown .nil visible_nil
          · exact goOn k grown _ (visible_handle ref)
      | _ => exact goOn n (.refl n) _ isVisible

theorem ensures_convert {position : Nat} (function : Option String) (value : Value)
    {conversion : Store → Value → Except Failure α}
    (converts : ∀ s k result, Grown n k → conversion s value = .ok result → P k result) :
    (convert function position value conversion).Ensures P n := by
  unfold convert
  refine ensures_bind (P := fun k result => Grown n k ∧ ∃ s, result = conversion s value)
    (ensures_read fun s _ grown => ⟨grown, s, rfl⟩) fun k _ result found => ?_
  obtain ⟨grown, s, rfl⟩ := found
  split
  next result found =>
    exact ensures_pure fun {l} more => converts s l result (grown.trans more) found
  next => exact Packages.ensures_raiseFailure _

@[grind ←] theorem respects_receiver (method : String) (arguments : Array Value) :
    (receiver method arguments).Respects n :=
  ensures_convert _ _ fun _ _ _ _ _ => trivial

@[grind ←] theorem respects_write (arguments : Array Value) : (write arguments).Respects n := by
  unfold write
  refine respects_bind (respects_receiver _ _) fun _ _ ref _ => ?_
  refine respects_bind (respects_read fun _ _ _ => visible_except_nothing _) fun _ _ text _ => ?_
  split
  · exact Packages.ensures_raiseFailure _
  · refine respects_bind (respects_read fun _ _ _ => trivial) fun _ _ resource _ => ?_
    split
    · exact respects_bind (respects_modify fun s veiled _ => veiled.emit _) fun _ _ _ _ =>
        respects_pure (visible_one (visible_handle ref))
    · exact Packages.ensures_raiseFailure _

@[grind ←] theorem respects_failureText (value : Value) : (failureText value).Respects n := by
  unfold failureText
  grind

@[grind ←] theorem respects_report (isVisible : Visible n value) :
    (report value).Respects n := by
  unfold report
  grind

theorem veiled_ending {s : Store} (veiled : s.Veiled veil) (value : Value) (isMemory : Bool) :
    s.Reaches veil (ending value isMemory s).2 := by
  unfold ending
  dsimp only
  split
  · split
    · exact veiled.refl
    · exact veiled.setResource _ _
    · exact veiled.refl
    · exact veiled.refl
  · exact veiled.refl

@[grind ←] theorem respects_callForHost (isFunction : Visible n function)
    (areVisible : Visible n arguments) :
    (callForHost function arguments).Respects n := by
  unfold callForHost
  refine respects_bind (respects_ask ⟨trivial, isFunction, areVisible⟩) fun _ _ exit isVisible => ?_
  split
  · exact respects_bind (ensures_update fun s veiled _ => ⟨veiled_ending veiled _ _, trivial⟩)
      fun _ _ _ _ => respects_pure trivial
  · exact respects_pure isVisible
  · exact respects_pure visible_empty

variable {setting : Setting}

@[grind ←] theorem respects_loadForHost (shown : Shown n setting.scope) (source : Bytes) :
    (loadForHost setting source).Respects n := by
  have environment : Visible n (some (Value.table setting.scope)) := visible_some.mpr shown
  unfold loadForHost
  grind

@[grind ←] theorem respects_runScript (shown : Shown n setting.scope) (source : Bytes) :
    (runScript setting source).Respects n := by
  unfold runScript
  grind

theorem respects_publish (text : String) :
    (Run.modify fun s => s.emit (.published text)).Respects n :=
  respects_modify fun _ veiled _ => veiled.emit _

@[grind ←] theorem respects_execute (shown : Shown n setting.scope) (source : Bytes) :
    (execute setting source).Respects n := by
  unfold execute
  refine respects_bind (respects_runScript shown _) fun _ _ ending _ => ?_
  split
  · exact respects_pure trivial
  · exact respects_publish _

end Hosted

@[grind ←] theorem respects_runAdapter (method : AdapterMethod) (caller : Caller)
    (areVisible : Visible n arguments) :
    (runAdapter method caller arguments).Respects n := by
  unfold runAdapter
  grind

open Hosted in
@[grind ←] theorem respects_runHost {function : HostFunction} {setting : Setting}
    (shown : Shown n setting.scope) (caller : Caller)
    (areVisible : Visible n arguments) :
    (runHost function setting caller arguments).Respects n := by
  have taken : (takeArguments [argument arguments 1] #[]).Respects n := respects_takeArguments
    (visible_cons.mpr ⟨visible_argument areVisible 1, visible_list_nil⟩) visible_empty
  have texts (k : View) (value : Value) : (convert none 1 value Conversion.text).Respects k :=
    ensures_convert _ _ fun _ _ _ _ _ => trivial
  cases function with
  | panic | fail | echo =>
      unfold runHost
      grind
  | call =>
      unfold runHost
      refine respects_bind taken fun k _ first areTaken => ?_
      refine respects_bind (ensures_convert _ _ fun s l result grown found => ?_)
        fun l _ function isFunction => by grind
      unfold Conversion.function at found
      split at found
      · obtain rfl := Except.ok.inj found
        exact (visible_argument areTaken 1).grow grown
      · cases found
  | wantInteger =>
      unfold runHost
      refine respects_bind taken fun k _ first _ => ?_
      exact respects_bind (ensures_convert _ _ fun _ _ _ _ _ => trivial) fun _ _ _ _ =>
        respects_pure (visible_one (visible_int _))
  | publish =>
      unfold runHost
      refine respects_bind taken fun k _ first _ => ?_
      refine respects_bind (texts k _) fun l _ text _ => ?_
      exact respects_bind (respects_publish _) fun _ _ _ _ => respects_pure visible_empty
  | _ =>
      unfold runHost
      refine respects_bind taken fun k _ first _ => ?_
      refine respects_bind (texts k _) fun l _ text _ => ?_
      grind

/-! ## All functions -/

@[grind ←] theorem respects_runBuiltin (function : Builtin) (caller : Caller)
    (areVisible : Visible n arguments) :
    (runBuiltin function caller arguments).Respects n := by
  unfold runBuiltin
  split <;> grind

@[grind ←] theorem respects_runNative (ref : Nat) (caller : Caller)
    (areVisible : Visible n arguments) :
    (runNative ref caller arguments).Respects n := by
  refine ⟨fun {veil} s veiled grown => ?_⟩
  have areVisible := areVisible.grow grown
  have runs (run : Run (Array Value)) (respects : run.Respects (s.view veil)) :
      (run s).Ensures Visible (s.view veil) := respects.step s veiled (.refl _)
  simp only [runNative, bind, Run.bind, Run.read, Step.bind]
  by_cases inside : ref < s.heap.natives.size
  · have isVisible := veiled.visible_native ref inside
    cases found : s.native ref with
    | host function setting =>
        rw [found] at isVisible
        exact runs _ (respects_runHost isVisible caller areVisible)
    | resumer thread => exact runs _ (Coroutines.respects_resumeWrapped _ _ areVisible)
    | «matches» source pattern position lastEnd => exact runs _ (by grind)
    | lines file formats closes =>
        rw [found] at isVisible
        exact runs _ (Files.respects_linesStep _ _ isVisible _)
  · -- A function that is not there is one of the host's, and panics.
    have missing : s.native ref = default := by
      rw [Store.native, Array.getD, dif_neg inside]
    rw [missing]
    exact runs _ (Hosted.ensures_raisePanic _)

end LuaSession.Library
