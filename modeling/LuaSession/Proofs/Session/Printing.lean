import LuaSession.Proofs.Bootstrap.Messages
import LuaSession.Proofs.Session.Output
import LuaSession.Proofs.Veil.Given
import LuaSession.Proofs.Veil.Sessions

/-!
# Printing in redirected sessions

In a session that is redirected, the function that prints publishes one message in each call,
whatever scripts and the host have made of the session, and whatever names stand for.
-/

namespace LuaSession

open LuaSession.Script LuaSession.Library LuaSession.Machine

namespace Bootstrap

open Library.Opening

variable {s store : Store}

/-! ## What the first script leaves -/

/-- The function that prints is where the libraries have theirs. -/
theorem binds_redirectPrint (globals : Offers "_G" s.registry.globals s) :
    Opening.Binds "print" (.closure 1) (redirectPrint s) := by
  have self := (globals.put globals (show "print" ≠ "_G" by decide) (.closure 1)).binds
  refine ⟨self.hasGlobals, self.sound, self.plain, ?_⟩
  rw [redirectPrint, Store.registry_put]
  exact globals.get_put "print" "print" (.closure 1)

namespace Leaves

variable (leaves : Leaves s store)

include leaves

theorem binds : Opening.Binds "print" (.closure 1) store.delivered := by
  cases leaves with
  | @all places finds _ _ =>
      have printed := binds_redirectPrint finds.basics.globals
      have others : Opening.Binds "print" (.closure 1) (redirect places s) :=
        .put (.put (.put (.put printed _ (by decide) _) _ (by decide) _) _ (by decide) _) _
          (by decide) _
      exact others.congr rfl rfl
  | core finds _ _ => exact (binds_redirectPrint finds.basics.globals).congr rfl rfl

/-- Everything is there. -/
theorem veiled (whole : s.Veiled noVeil) : store.delivered.Veiled noVeil := by
  cases leaves with
  | all _ _ charge => exact ((veiled_redirected whole _ charge).world _).veiled
  | core _ _ charge => exact ((veiled_redirectedCore whole _ charge).world _).veiled

/-- The function that prints has its variables. -/
theorem equipped : ∃ adapter, Equipped adapter 0 store.delivered := by
  cases leaves with
  | all _ isAdapter charge => exact ⟨_, equipped_redirected charge isAdapter⟩
  | core _ isAdapter charge => exact ⟨_, equipped_redirectedCore charge isAdapter⟩

theorem scope_eq : store.scope = s.scope := by
  cases leaves with
  | all _ _ _ => exact scope_redirect _ s
  | core _ _ _ => exact Store.scope_put ..

end Leaves

end Bootstrap

namespace Session

open Bootstrap

/-! ## Sessions that print -/

/-- Everything is there in a session, and the function that prints has its variables. -/
structure IsPrinting (adapter : Nat) (session : Session) : Prop extends session.IsWhole where
  keeps : session.interpreter.Keeps toolShelter (Equipped adapter 0)
  follows : session.interpreter.Keeps .nothing session.store.Follows

variable {settings : Settings} {outcome : Outcome Unit} {adapter : Nat} {session later : Session}

/-- A session that is redirected, as it has been opened. -/
theorem isPrinting_of_open (opened : Session.open settings = .ok outcome)
    (redirects : outcome.session.isRedirected = true) :
    ∃ adapter, outcome.session.IsPrinting adapter ∧
      Opening.Binds "print" (.closure 1) outcome.session.store := by
  obtain ⟨store, leaves, interpreter, scope, _⟩ := leaves_of_open opened redirects
  obtain ⟨adapter, equipped⟩ := leaves.equipped
  rw [Session.store, interpreter]
  refine ⟨adapter, ⟨⟨?_, ?_⟩, ?_, ?_⟩, leaves.binds⟩
  · rw [interpreter]
    exact Interpreter.veiled_start (leaves.veiled (veiled_start _ _))
  · rw [Session.store, interpreter]
    exact scope.trans leaves.scope_eq.symm
  · rw [interpreter]
    exact Interpreter.keeps_start toolShelter equipped
  · rw [Session.store, interpreter]
    exact Interpreter.keeps_start .nothing (.refl _)

/-- Whatever becomes of a session that prints, it still does. -/
theorem IsPrinting.becomes (prints : session.IsPrinting adapter) (becomes : session.Later later) :
    later.IsPrinting adapter := by
  have scope (next : Session) (becomes : session.Later next) :
      next.setting.scope = next.store.scope := by
    obtain ⟨setting, follows⟩ := becomes.keeps (hostKeeps_follows session.store) prints.follows
    rw [setting, prints.scope]
    exact follows.store.scope.symm
  constructor
  case toIsWhole => exact ⟨becomes.veiled scope prints.interpreter, scope later becomes⟩
  case keeps => exact (becomes.keeps (hostKeeps_equipped adapter 0) prints.keeps).2
  case follows =>
    have threads := (becomes.keeps (hostKeeps_follows session.store) prints.follows).2.threads
    exact ⟨.refl _, threads.restrict fun _ => (hostKeeps_follows later.store).lets⟩

/-- Everything is there that the function that prints is given, however it is called. So it prints,
unless memory or the stack runs out. -/
theorem IsPrinting.prints (prints : session.IsPrinting adapter) {first moment : Next}
    (starts : session.Starts first) (passes : Passes first.1 first.2 moment.1 moment.2)
    {function : Value} {arguments given : Array Value} (calls : IsCalling moment function arguments)
    (called : callee moment.2.store callChainLimit function arguments = .ok (.closure 1, given)) :
    PrintsNext moment given := by
  have runs : moment.Runs toolShelter (Equipped adapter 0) :=
    passes.keeps (starts.runs prints.keeps)
  have stands : moment.Stands noVeil {} := passes.stands rfl rfl (prints.stands starts)
  have enters := calls.enters stands called
  rw [runs.store.closure_printer] at enters
  cases enters with
  | runsOut isExhausted => exact .inl isExhausted
  | @begins t same begins veiled threads visible =>
      have equipped : Equipped adapter 0 t :=
        runs.store.congr same.cells same.closures same.resources
        (Nat.le_of_eq (congrArg Array.size same.tables.symm))
      have silent := published_of_begins begins equipped
      exact .inr ⟨t, begins, silent.trans (congrArg World.emitted same.world),
        prints_of_begins begins equipped veiled threads visible runs.advance.runs_of_isClosed⟩

/-- In a session that is redirected, the function that the first script has put in place of `print`
prints, whatever scripts and the host have made of the session and whatever names stand for: at
every moment of a run at which it is called, with whatever arguments. It has the library make the
text of each argument, from the first one to the last one. If all of them are made, it publishes
them as one message. If one of them is not, it raises what was raised for that, and publishes no
message of its own. -/
theorem print_contract (opened : Session.open settings = .ok outcome)
    (redirects : outcome.session.isRedirected = true) :
    (outcome.session.store.table outcome.session.store.registry.globals).get (.ofString "print") =
      .closure 1 ∧
    ∀ later, outcome.session.Later later → ∀ first moment, later.Starts first →
      Passes first.1 first.2 moment.1 moment.2 → moment.2.store.closure 1 = printer ∧
        ∀ function arguments given, IsCalling moment function arguments →
          callee moment.2.store callChainLimit function arguments = .ok (.closure 1, given) →
          PrintsNext moment given := by
  obtain ⟨adapter, prints, binds⟩ := isPrinting_of_open opened redirects
  refine ⟨binds.get, fun later becomes first moment starts passes => ?_⟩
  have isPrinting := prints.becomes becomes
  refine ⟨(passes.keeps (starts.runs isPrinting.keeps)).store.closure_printer, ?_⟩
  exact fun function arguments given calls called => isPrinting.prints starts passes calls called

/-- A script that calls `print`, and nothing else. -/
def printingScript (arguments : List Expr) : Code :=
  .mk { chunk := "snippet".toUTF8, line := 0, parameters := 0, isVariadic := true, slots := 0
        frameSize := 2, shared := #[], captures := #[.slot 0] } false
    [.run (.call (.free 0 Expr.environment "print".toUTF8 1) arguments 1 0)]

/-- Where it calls `print`. -/
def printSite : Site where
  kind := .script
  line := 1
  callee := .expression (.free 0 Expr.environment "print".toUTF8 1)

theorem runBody_printingScript {s : Store} {expressions : List Expr} {arguments : Array Value}
    (scene : Scene s) (binds : Opening.Binds "print" (.closure 1) s)
    (environment : s.capturedValue 0 = .table s.scope)
    (reads : evalList expressions #[] s = .done arguments s) :
    ∃ resume, runBody (printingScript expressions) s =
      .ask (.call (.closure 1) arguments printSite) s resume := by
  have function : eval (.free 0 Expr.environment "print".toUTF8 1) s = .done (.closure 1) s :=
    Run.eval_free_global scene.remembers scene.fallsBack environment
      (scene.unassigned "print" (by decide)) binds.get Value.noConfusion
  have calls : evalMulti (.call (.free 0 Expr.environment "print".toUTF8 1) expressions 1 0) s =
      Run.call (.closure 1) arguments printSite s :=
    (Run.bind_of_done function).trans (Run.bind_of_done reads)
  have runs : runBody (printingScript expressions) s = (((evalMulti (.call (.free 0
      Expr.environment "print".toUTF8 1) expressions 1 0) s).bind fun _ =>
        Step.done Exit.fell).bind _) := rfl
  rw [runs, calls]
  exact ⟨_, rfl⟩

theorem read_printing : Syntax.readScript "snippet".toUTF8 0 "print('x')".toUTF8 =
    .ok (printingScript [.const (.ofString "x")]) :=
  Syntax.readScript_eq_of_recognized (eq_of_same.2.2.1 _ _) (by decide +kernel)

/-- In a session that has just been opened, `print('x')` prints. -/
theorem print_contract_fresh :
    ∃ outcome first moment, Session.open {} = .ok outcome ∧ outcome.session.isRedirected = true ∧
      outcome.session.Starts first ∧ Passes first.1 first.2 moment.1 moment.2 ∧
      IsCalling moment (.closure 1) #[.ofString "x"] ∧ PrintsNext moment #[.ofString "x"] ∧
      ¬IsExhausted (advance moment.1 moment.2) := by
  obtain ⟨outcome, opened, redirected, just⟩ := @exists_justOpened {} rfl rfl rfl
  obtain ⟨adapter, prints, binds⟩ := isPrinting_of_open opened redirected
  obtain ⟨first, start, executes⟩ :=
    just.executes (by rw [Utf8.toList_toUTF8]; decide) read_printing rfl
    (show 2 ≤ 1000 by decide)
  have reads : evalList [.const (.ofString "x")] #[] start = .done #[.ofString "x"] start := rfl
  obtain ⟨resume, asks⟩ := runBody_printingScript executes.scene
    (binds.congr executes.tables (congrArg Registry.globals executes.registry))
    executes.environment reads
  have begins := executes.begins
  rw [asks] at begins
  have passes : Passes first.1 first.2 (advance first.1 first.2).1 (advance first.1 first.2).2 :=
    .later executes.notYet .now
  rw [begins] at passes
  refine ⟨outcome, first, _, opened, redirected, executes.starts, passes, .asks, ?_, ?_⟩
  · exact ((print_contract opened redirected).2 _ .refl _ _ executes.starts passes).2 _ _ _ .asks rfl
  · have equipped : Equipped adapter 0 start :=
      (passes.keeps (executes.starts.runs prints.keeps)).store
    have room : hasRoom (outcome.session.running (printingScript [.const (.ofString "x")]))
        (baseOf printer #[.ofString "x"] (2 + 0 + 1) + printer.code.info.frameSize) = true :=
      decide_eq_true (show _ ≤ 1000000 by decide)
    have calls : call (outcome.session.running (printingScript [.const (.ofString "x")])) (.closure 1)
        #[.ofString "x"] printSite resume start = _ :=
      @call_closure _ printSite _ _ _ _ (checkMemory_of_unlimited executes.unlimited)
        (show 0 + 1 < 200 by decide) _ _ equipped.closure_printer room
    change ¬IsExhausted (call _ (.closure 1) #[.ofString "x"] printSite resume start)
    rw [calls]
    exact not_isExhausted_of_begins ⟨⟨_, _, _, _, _, rfl⟩, _, _, rfl⟩
      (equipped.congr rfl rfl rfl (Nat.le_refl _))

end Session

end LuaSession
