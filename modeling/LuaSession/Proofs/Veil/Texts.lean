import LuaSession.Proofs.Library.Texts
import LuaSession.Proofs.Machine.Builtin
import LuaSession.Proofs.Veil.Calls

/-!
# Calls that make the text of a value

A script that has the library make the text of a value gets a text, unless the call raises.
Whatever functions make the text, they come by no hidden table, and the script goes on where
it has called.
-/

namespace LuaSession.Machine

open LuaSession.Script

/-- The function of the library that makes texts. -/
def tostring : Value := .builtin (.base .tostring)

variable {m n : State} {veil : Veil} {site : Site} {value : Value} {s : Store}

/-- What comes of a script's call of it: memory or the stack runs out, or the text is made at
once, or else a function is called that makes it. -/
inductive Tells (n : State) (value : Value) (site : Site) (s : Store) : (Resume → Next) → Prop where
  | runsOut {last : Next} (out : RunsOut n s last) : Tells n value site s fun _ => last
  | atOnce (text : Bytes) (charge : Nat) : Tells n value site s fun goesOn =>
      (n, goesOn (.returned #[.str text]) { s with charge })
  | asks (charge : Nat) (activation : Activation) (resume : Resume)
      (ends : ∀ exit t, (∃ text, resume exit t = .done (.returned #[.str text]) t) ∨
        ∃ raised, resume exit t = .fail raised t) :
      Tells n value site s fun goesOn =>
        ((n.push (.call goesOn n.activation s.frame site.line)).withActivation activation,
          .ask (.call (s.metafield value Event.tostring) #[value] { kind := .library })
            (Store.withFrame { s with charge } {}) resume)

theorem tells_tostring (written : site.kind = .script) :
    Tells n value site s fun goesOn => call n tostring #[value] site goesOn s := by
  obtain ⟨last, out, same⟩ | ⟨charge, caller, activation, _, runs⟩ :=
    call_builtin_cases n (.base .tostring) #[value] s written
  · exact (funext same : (fun goesOn => call n tostring #[value] site goesOn s) = _) ▸ .runsOut out
  · obtain ⟨text, made⟩ | ⟨resume, asks, ends⟩ :=
      Library.tostring_cases caller value { s with charge }
    · have same (goesOn : Resume) : call n tostring #[value] site goesOn s =
          (n, goesOn (.returned #[.str text]) { s with charge }) := by
        rw [tostring, runs, runLibrary, made]
      rw [funext same]
      exact .atOnce text charge
    · have same (goesOn : Resume) : call n tostring #[value] site goesOn s =
          ((n.push (.call goesOn n.activation s.frame site.line)).withActivation activation,
            .ask (.call (s.metafield value Event.tostring) #[value] { kind := .library })
              (Store.withFrame { s with charge } {}) fun exit t => ofValues (resume exit t)) := by
        rw [tostring, runs, runLibrary, asks]
        rfl
      rw [funext same]
      refine .asks charge activation _ fun exit t => ?_
      obtain ⟨text, ends⟩ | ⟨raised, ends⟩ := ends exit t
      · exact .inl ⟨text, congrArg ofValues ends⟩
      · exact .inr ⟨raised, congrArg ofValues ends⟩

/-! ## The end of the call -/

/-- A text has been made: the script goes on with it where it has called. -/
inductive Told (veil : Veil) (m n : State) (s : Store) (resume : Resume) (asked : Next) :
    Array Value → Next → Prop where
  | intro {back : State} {text : Bytes} {t : Store} (isBack : back.IsBack n)
      (frame : t.frame = s.frame) (veiled : (t.withFrame {}).Veiled veil)
      (threads : Visible (t.view veil) back.threads)
      (goes : Goes m asked (back, resume (.returned #[.str text]) t)) :
      Told veil m n s resume asked #[.str text] (back, resume (.returned #[.str text]) t)

theorem Told.after {resume : Resume} {first asked : Next} {values : Array Value} {later : Next}
    (told : Told veil m n s resume asked values later) (goes : Goes m first asked) :
    Told veil m n s resume first values later := by
  obtain ⟨isBack, frame, veiled, threads, rest⟩ := told
  exact .intro isBack frame veiled threads (goes.trans rest)

/-- A function that makes texts ends with one, or it raises. -/
inductive Made (veil : Veil) (m n : State) (next : Next) : Option (Array Value) → Next → Prop where
  | raised {last : Next} (goes : Goes m next last) (isOver : IsOver n last none) :
      Made veil m n next none last
  | returned {back : State} {text : Bytes} {t : Store}
      (goes : Goes m next (back, .done (.returned #[.str text]) t)) (isBack : back.IsBack n)
      (veiled : (t.withFrame {}).Veiled veil) (threads : Visible (t.view veil) back.threads) :
      Made veil m n next (some #[.str text]) (back, .done (.returned #[.str text]) t)

section Ends

variable {resume goesOn : Resume} {handler : Value} {result : Option (Array Value)} {last : Next}
  {values : Array Value} {later : Next}

/-- A function that has a function of a metatable make a text. -/
theorem made_of_asks (above : n.IsAbove m) (waits : n.stack ≠ []) (veiled : s.Veiled veil)
    (threads : Visible (s.view veil) n.threads) (isHandler : Visible (s.view veil) handler)
    (isVisible : Visible (s.view veil) value)
    (ends : ∀ exit t, (∃ text, goesOn exit t = .done (.returned #[.str text]) t) ∨
      ∃ raised, goesOn exit t = .fail raised t)
    (completes : Completes n (n, .ask (.call handler #[value] { kind := .library }) s goesOn)
      result last) :
    Made veil m n (n, .ask (.call handler #[value] { kind := .library }) s goesOn) result last := by
  have asks : Goes m (n, .ask (.call handler #[value] { kind := .library }) s goesOn) _ :=
    .asks .here waits rfl
  cases completes with
  | now isOver => exact absurd isOver (not_isOver_ask _)
  | later _ _ rest =>
      cases (comes_call veiled threads isHandler (visible_one isVisible)).answered rest above with
      | raised goes isOver => exact .raised (asks.trans goes) isOver
      | @returned back values t _ _ goes isBack isVeiled areVisible _ completes =>
          have goes := asks.trans goes
          obtain ⟨text, made⟩ | ⟨raised, fails⟩ := ends (.returned values) t
          · rw [made] at completes goes
            obtain ⟨rfl, rfl⟩ :=
              completes.unique (.now (.returned isBack.stack isBack.parents (by simp)))
            exact .returned goes isBack isVeiled areVisible
          · rw [fails] at completes goes
            have left : (leaveWaits #[] back.stack).2 = (leaveWaits #[] n.stack).2 := by
              rw [isBack.stack]
            have isOver : IsOver n (back, .fail raised t) none := .raised left isBack.parents
            obtain ⟨rfl, rfl⟩ := completes.unique (.now isOver)
            exact .raised goes isOver

end Ends

section Called

variable {resume : Resume} {values : Array Value} {last later : Next} {activation : Activation}

/-- The machine in which the function runs that makes the text. -/
def State.telling (n : State) (resume : Resume) (frame : Frame) (line : Nat)
    (activation : Activation) : State :=
  (n.push (.call resume n.activation frame line)).withActivation activation

theorem State.isAbove_telling (n : State) (resume : Resume) (frame : Frame) (line : Nat)
    (activation : Activation) : (n.telling resume frame line activation).IsAbove n :=
  State.isAbove_of_call rfl rfl

/-- The script that has called goes on with the text. -/
theorem told_of_made {asked : Next} (above : n.IsAbove m)
    (made : Made veil m (n.telling resume s.frame site.line activation) asked (some values) last) :
    Told veil m n s resume asked values (advance last.1 last.2) := by
  cases made with
  | @returned back text t goes isBack veiled threads =>
      obtain ⟨caller, isCaller, same, returns⟩ :=
        advance_returned (s := t) (m := n) isBack.stack isBack.parents
          (show ∀ function arguments site, Exit.returned #[.str text] ≠ .tail function arguments site by
            simp)
      have notOver : ∀ other, ¬IsOver m (back, .done (.returned #[.str text]) t) other :=
        ((n.isAbove_telling resume s.frame site.line activation).trans above).not_isOver_done
          isBack.stack
      have waits : back.stack ≠ [] := isBack.stack ▸ List.cons_ne_nil _ _
      have goes := goes.step notOver (stopped?_of_waiting waits) returns
      rw [returns]
      exact .intro isCaller rfl veiled (same ▸ threads) goes

/-- A script calls the function that makes texts. Memory or the stack runs out, or the call ends
in one of two ways: the script gets a text, or nothing catches what the call raises. -/
theorem tostring_ends (resume : Resume) (written : site.kind = .script) (waits : n.stack ≠ [])
    (above : n.IsAbove m)
    (veiled : (s.withFrame {}).Veiled veil) (threads : Visible (s.view veil) n.threads)
    (isVisible : Visible (s.view veil) value) :
    (∃ last, RunsOut n s last ∧
      advance n (.ask (.call tostring #[value] site) s resume) = last) ∨
    (∀ values later, CallEnds (n, .ask (.call tostring #[value] site) s resume) (some values) later →
      Told veil m n s resume (n, .ask (.call tostring #[value] site) s resume) values later) ∧
    ∀ last, CallEnds (n, .ask (.call tostring #[value] site) s resume) none last →
      Goes m (n, .ask (.call tostring #[value] site) s resume) last ∧ IsOver m last none := by
  have tells : Tells n value site s fun goesOn => call n tostring #[value] site goesOn s :=
    tells_tostring written
  generalize isComing : (fun goesOn => call n tostring #[value] site goesOn s) = comes at tells
  have coming (goesOn : Resume) :
      advance n (.ask (.call tostring #[value] site) s goesOn) = comes goesOn :=
    congrFun isComing goesOn
  cases tells with
  | runsOut out => exact .inl ⟨_, out, coming resume⟩
  | atOnce text charge =>
      have goes : Goes m (n, .ask (.call tostring #[value] site) s resume) _ :=
        .asks .here waits (coming resume)
      refine .inr ⟨fun values later ends => ?_, fun last ends => ?_⟩
      · cases ends with
        | atOnce asks answers =>
            cases asks
            cases (coming Machine.ends).symm.trans (answers Machine.ends)
            exact .intro ⟨rfl, rfl, rfl⟩ rfl (veiled.charge charge).veiled threads goes
        | returns asks waits _ =>
            rw [coming] at waits
            exact absurd waits (List.cons_ne_self _ _).symm
      · cases ends with
        | raises asks waits _ =>
            rw [coming] at waits
            exact absurd waits (List.cons_ne_self _ _).symm
  | asks charge activation goesOn ends =>
      have upper := n.isAbove_telling resume s.frame site.line activation
      have isVeiled : (Store.withFrame { s with charge } {}).Veiled veil :=
        (veiled.charge charge).veiled
      have goes : Goes m (n, .ask (.call tostring #[value] site) s resume) _ :=
        .asks .here waits (coming resume)
      have made {result : Option (Array Value)} {last : Next}
          (completes : Completes (n.telling resume s.frame site.line activation) _ result last) :
          Made veil m (n.telling resume s.frame site.line activation) _ result last :=
        made_of_asks (upper.trans above) (List.cons_ne_nil _ _) isVeiled threads
          (veiled.visible_metafield isVisible Event.tostring) isVisible ends completes
      refine .inr ⟨fun values later isEnd => ?_, fun last isEnd => ?_⟩
      · cases isEnd with
        | atOnce asks answers =>
            cases asks
            have same := (coming Machine.ends).symm.trans (answers Machine.ends)
            have stack := congrArg (fun next : Next => next.1.stack) same
            exact absurd stack (List.cons_ne_self _ _)
        | returns asks _ completes =>
            rw [coming] at completes
            exact (told_of_made above (made completes)).after goes
      · cases isEnd with
        | raises asks _ completes =>
            rw [coming] at completes
            cases made completes with
            | raised later isOver => exact ⟨goes.trans later, (upper.trans above).isOver isOver⟩

end Called

end LuaSession.Machine
