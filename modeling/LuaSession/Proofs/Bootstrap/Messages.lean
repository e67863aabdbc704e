import LuaSession.Proofs.Bootstrap.Printing
import LuaSession.Proofs.Library.Joining
import LuaSession.Proofs.Library.Writing
import LuaSession.Proofs.Veil.Hiding

/-!
# Messages that are printed

The function that prints has the text of each argument made, from the first one to the last
one, and then publishes them together as one message. When the text of one argument cannot be
made, the call raises what was raised there, and publishes no message of its own.
-/

namespace LuaSession

open LuaSession.Script LuaSession.Library LuaSession.Machine

namespace Bootstrap

/-- What has been published until a moment. -/
def published (next : Next) : Array Emission := next.2.store.world.emitted

/-- The call that has begun in a machine goes on from a moment until memory or the stack runs
out. It publishes nothing on the way. -/
def Exhausts (m : State) (moment : Next) : Prop :=
  ∃ last, Completes m moment none last ∧ IsExhausted last ∧ published last = published moment

/-- Texts as one message, each put into UTF-8 on its own. -/
def messageOf (texts : List Bytes) : String :=
  "\t".intercalate (texts.map Utf8.lossy) ++ "\n"

/-- How a call of the function that prints, which has begun in a machine, goes on from a moment
at which some texts have been made and some values are left. Without values the texts are
published together and the call is over. Otherwise the library is called for the text of the
first value. If that call returns, it is with a text, and the function goes on with the other
values. If it raises, the call of the function that prints is over with that, at the same
moment. Memory or the stack may run out first. -/
def Prints (m : State) : List Value → List Bytes → Next → Prop
  | [], texts, moment => Exhausts m moment ∨ ∃ last, Completes m moment (some #[]) last ∧
      published last = (published moment).push (.written (messageOf texts))
  | value :: rest, texts, moment => Exhausts m moment ∨ ∃ n site s resume,
      let asked : Next := (n, .ask (.call tostring #[value] site) s resume)
      Goes m moment asked ∧ published asked = published moment ∧
        (∀ values later, CallEnds asked (some values) later →
          ∃ text, values = #[.str text] ∧ Prints m rest (texts ++ [text]) later) ∧
        ∀ last, CallEnds asked none last → Completes m asked none last

/-- The function that prints is called at a moment, with these arguments. It publishes nothing when
it begins, and then it prints. Memory or the stack may run out before. -/
def PrintsNext (moment : Next) (arguments : Array Value) : Prop :=
  let next := advance moment.1 moment.2
  IsExhausted next ∨ ∃ s, Begins printer arguments s next ∧ published next = published moment ∧
    Prints next.1 arguments.toList [] next

/-! ## One argument after the other -/

/-- The function that prints goes on where some texts have been made: the loop runs again, or
all of them are there. -/
def turn (arguments : Array Value) (made : Nat) (n : State) (s : Store) : Next :=
  if made < arguments.size then iterate n (loopAt made (arguments.size - made - 1)) collected s
  else (n, collected .fell s)

/-- What waits while the text of an argument is made. -/
def loopWait (arguments : Array Value) (made : Nat) : Wait :=
  let left := arguments.size - made - 1
  .loop (if left = 0 then none else some (loopAt (made + 1) (left - 1))) collected

/-- The store in which the next argument is taken. -/
def atNext (arguments : Array Value) (ref made : Nat) (s : Store) (charge : Nat) : Store :=
  { s.withFrame (printFrame arguments (.table ref) (.ofNat (made + 1))) with charge }

/-- Some texts have been made: they are in the table, of which only the function that prints
knows. -/
structure Collects (adapter : Nat) (arguments : Array Value) (ref : Nat) (table : Table)
    (texts : List Bytes) (m n : State) (s : Store) : Prop where
  isBack : n.IsBack m
  printing : ∃ number, Printing adapter arguments (.table ref) number s
  fills : Table.Fills (texts.map .str) table
  veiled : (s.withFrame {}).Veiled (veilOver ref table)
  threads : Visible (s.view (veilOver ref table)) n.threads
  visible : Visible (s.view (veilOver ref table)) arguments

variable {adapter ref : Nat} {arguments : Array Value} {table : Table} {texts : List Bytes}
  {m n : State} {s : Store} {moment : Next}

/-- The call comes to nothing where memory or the stack runs out. -/
theorem exhausts_of_runsOut {last : Next} (goes : Goes m moment last) {t : Store}
    (out : RunsOut n t last)
    (isOver : IsOver m last none) (same : t.world.emitted = published moment) :
    Exhausts m moment := by
  obtain ⟨isExhausted, _, charge, store⟩ := out
  refine ⟨last, goes.completes (.now isOver), isExhausted, ?_⟩
  rw [published, store]
  exact same

/-- After the body of the loop, the function that prints goes on. -/
theorem advance_collected {back : State} {made : Nat} (more : made < arguments.size)
    {rest : List Wait}
    (waits : back.stack = loopWait arguments made :: rest) :
    advance back (.done .fell s) = turn arguments (made + 1) { back with stack := rest } s := by
  unfold advance
  dsimp only
  rw [waits, turn, loopWait]
  dsimp only
  by_cases isLast : arguments.size - made - 1 = 0
  · rw [if_pos isLast, if_neg (by omega)]
    rfl
  · have fewer : arguments.size - (made + 1) - 1 = arguments.size - made - 1 - 1 := by omega
    rw [if_neg isLast, if_pos (by omega), fewer]
    rfl

/-- The loop begins once more with the number of the next argument, or there is no memory. -/
theorem turn_cases (frame : ∃ number, s.frame = printFrame arguments (.table ref) number)
    {made : Nat}
    (few : arguments.size < 2 ^ 62) (more : made < arguments.size) :
    ∃ charge, turn arguments made n s = (n, .fail .memory { s with charge }) ∨
      turn arguments made n s = (n.push (loopWait arguments made), execBlock none [collect]
        (atNext arguments ref made s charge)) := by
  obtain ⟨number, frame⟩ := frame
  obtain ⟨charge, checked⟩ := exists_checkMemory n s
  refine ⟨charge, ?_⟩
  rw [turn, if_pos more, iterate, iteration_loopAt (by omega)]
  dsimp only
  generalize checkMemory n s = check at checked
  obtain ⟨_ | _, after⟩ := check
  · obtain rfl : after = { s with charge } := checked
    exact .inl rfl
  · obtain rfl : after = { s with charge } := checked
    have declared := declareSlot_number (s := { s with charge }) frame (.ofNat (made + 1))
    refine .inr (congrArg (Prod.mk _) ?_)
    exact congrArg (execBlock none [collect]) declared

/-- Texts that are joined and ended are written as one message. -/
theorem written_joined (texts : List Bytes) :
    String.join ([Value.str (joinedBy "\t".toUTF8 texts), .ofString "\n"].map Hosted.written) =
      messageOf texts := by
  have joined : Hosted.written (.str (joinedBy "\t".toUTF8 texts)) =
      "\t".intercalate (texts.map Utf8.lossy) := lossy_joinedBy_tab texts
  have ended : Hosted.written (.ofString "\n") = "\n" := by decide +kernel
  rw [List.map_cons, List.map_cons, List.map_nil, joined, ended, messageOf]
  simp

/-- The adapter publishes the message. -/
theorem yields_message {number : Value}
    (printing : Printing adapter arguments (.table ref) number s)
    (texts : List Bytes) :
    Yields n (.builtin (.adapter .write))
      #[.handle adapter, .str (joinedBy "\t".toUTF8 texts), .ofString "\n"] messageSite s #[.handle adapter]
      fun charge => Store.emit { s with charge } (.written (messageOf texts)) := by
  refine yields_builtin rfl fun caller charge => .inl ⟨charge, ?_⟩
  have isAdapter : Store.resource { s with charge } adapter = .adapter :=
    printing.equipped.resource_adapter
  rw [← written_joined]
  exact Hosted.write_texts isAdapter caller
    (by simp [Hosted.IsText, Value.typeName, Value.ofString])

namespace Collects

variable (collects : Collects adapter arguments ref table texts m n s)

include collects

theorem table_eq : s.table ref = table := collects.veiled.table_hidden

/-- The call that has begun is over where this machine's would be. -/
theorem isOver {next : Next} {result : Option (Array Value)} (isOver : IsOver n next result) :
    IsOver m next result := by
  obtain ⟨stack, parents, _⟩ := collects.isBack
  cases isOver with
  | returned same parent isLast => exact .returned (same.trans stack) (parent.trans parents) isLast
  | raised left parent => exact .raised (stack ▸ left) (parent.trans parents)

/-- In the loop, the machine is above the one in which the call has begun. -/
theorem isAbove (arguments : Array Value) (made : Nat) :
    (n.push (loopWait arguments made)).IsAbove m where
  more := by
    rw [← collects.isBack.stack]
    exact Nat.lt_succ_self _
  left := by
    rw [← collects.isBack.stack]
    rfl
  parents := collects.isBack.parents

/-- The next argument is taken, unless memory or the stack runs out. -/
theorem takes (goes : Goes m moment (turn arguments texts.length n s))
    (same : s.world.emitted = published moment) (few : arguments.size < 2 ^ 62)
    (more : texts.length < arguments.size) :
    Exhausts m moment ∨ ∃ charge, Goes m moment (n.push (loopWait arguments texts.length),
      taken arguments[texts.length] (atNext arguments ref texts.length s charge)) := by
  obtain ⟨number, printing⟩ := collects.printing
  obtain ⟨charge, noMemory | begins⟩ := turn_cases (n := n) ⟨number, printing.frame⟩ few more
  · rw [noMemory] at goes
    exact .inl ⟨_, goes.completes (.now (collects.isOver (.raised rfl rfl))), .memory _ _, same⟩
  · have isPrinting : Printing adapter arguments (.table ref) (.ofNat (texts.length + 1))
        (atNext arguments ref texts.length s charge) :=
      ⟨rfl, printing.equipped.congr rfl rfl rfl (Nat.le_refl _)⟩
    have above := collects.isAbove arguments texts.length
    obtain ⟨values, isNext, selects⟩ := select_from more few
    rw [begins, isPrinting.execBlock_collect] at goes
    have yields : Yields (n.push (loopWait arguments texts.length)) (.builtin (.base .select))
        (#[.ofNat (texts.length + 1)] ++ arguments) (siteOf (capturedAt 0 "select") 8 6)
        (atNext arguments ref texts.length s charge) values (atNext arguments ref texts.length s) :=
      yields_builtin rfl fun caller charge => .inl ⟨charge, selects caller _⟩
    obtain ⟨last, out, ends⟩ | ⟨later, _, ends⟩ := yields
    · have goes := goes.asks (List.cons_ne_nil _ _) (ends _)
      exact .inl (exhausts_of_runsOut goes out (above.isOver out.isOver) same)
    · have goes := goes.asks (List.cons_ne_nil _ _) (ends _)
      rw [← isNext]
      exact .inr ⟨later, goes⟩

/-- A text has been put into the table. -/
theorem stored {back : State} {t : Store} {text : Bytes} (few : arguments.size < 2 ^ 62)
    (more : texts.length < arguments.size)
    (isBack : back.IsBack (n.push (loopWait arguments texts.length)))
    (frame : t.frame = printFrame arguments (.table ref) (.ofNat (texts.length + 1)))
    (veiled : (t.withFrame {}).Veiled (veilOver ref table))
    (threads : Visible (t.view (veilOver ref table)) back.threads)
    (grown : s.heap.tables.size ≤ t.heap.tables.size) (charge : Nat)
    (equipped : Equipped adapter 0
      { t.put ref (.ofNat (texts.length + 1)) (.str text) with charge }) :
    Collects adapter arguments ref (table.set (.ofNat (texts.length + 1)) (.str text))
      (texts ++ [text]) m { back with stack := n.stack }
      { t.put ref (.ofNat (texts.length + 1)) (.str text) with charge } := by
  have filled := collects.fills.set (by simp; omega)
    (show Value.str text ≠ .nil from Value.noConfusion)
  rw [List.length_map] at filled
  have puts := Store.put_of_ne (s := t) veiled.hidden_ne_scope
    (.ofNat (texts.length + 1)) (.str text)
  have later := veiled.put_hidden (.ofNat (texts.length + 1)) (.str text) filled.metatable
  rw [Store.put_of_ne veiled.hidden_ne_scope] at later
  rw [puts] at equipped ⊢
  have tables : t.heap.tables.size ≤
      (t.modifyTable ref (·.set (.ofNat (texts.length + 1)) (.str text))).heap.tables.size :=
    Nat.le_of_eq (Store.size_modifyTable ..).symm
  constructor
  case isBack =>
    exact ⟨collects.isBack.stack, isBack.parents.trans collects.isBack.parents,
      isBack.activation.trans collects.isBack.activation⟩
  case printing => exact ⟨_, frame, equipped⟩
  case fills =>
    rw [List.map_append]
    exact filled
  case veiled => exact (later.charge charge).veiled
  case threads => exact threads.grow (Store.grown_veilOver tables ref _ _)
  case visible =>
    exact collects.visible.grow (Store.grown_veilOver (Nat.le_trans grown tables) ref _ _)

/-- A text has been made: the function that prints puts it into its table and goes on. -/
theorem tells (few : arguments.size < 2 ^ 62) (more : texts.length < arguments.size) {charge : Nat}
    {asked later : Next} {values : Array Value}
    (told : Told (veilOver ref table) m (n.push (loopWait arguments texts.length))
      (atNext arguments ref texts.length s charge) stores asked values later)
    (same : asked.2.store.heap.tables.size = s.heap.tables.size)
    (runs : asked.Runs toolShelter (Equipped adapter 0)) :
    ∃ text back u, values = #[.str text] ∧ Goes m asked later ∧
      Goes m later (turn arguments (texts.length + 1) back u) ∧ u.world.emitted = published later ∧
      Collects adapter arguments ref (table.set (.ofNat (texts.length + 1)) (.str text))
        (texts ++ [text]) m back u := by
  have above := collects.isAbove arguments texts.length
  cases told with
  | @intro back text t isBack frame veiled threads goes =>
    have isTable : t.table ref = table := veiled.table_hidden
    obtain ⟨charge, stored⟩ := stores_text frame (isTable.symm ▸ collects.fills.metatable)
      (Value.str text)
    rw [stored] at goes ⊢
    have equipped := (runs_of_passes runs goes.passes).store
    have grown : s.heap.tables.size ≤ t.heap.tables.size := by
      rw [← same, ← Store.size_put t ref (.ofNat (texts.length + 1)) (.str text)]
      exact equipped.hasTables
    have waits : back.stack = loopWait arguments texts.length :: n.stack := isBack.stack
    have goesOn : Goes m
        (back, .done .fell { t.put ref (.ofNat (texts.length + 1)) (.str text) with charge }) _ :=
      Goes.here.step (above.not_isOver_done isBack.stack)
        (stopped?_of_waiting (waits ▸ List.cons_ne_nil _ _)) (advance_collected more waits)
    exact ⟨text, _, _, rfl, goes, goesOn, rfl,
      collects.stored few more isBack frame veiled threads grown charge equipped.of_hasTables⟩

/-- When all texts have been made, they are published together, unless memory or the stack runs
out. -/
theorem publishes (goes : Goes m moment (n, collected .fell s))
    (same : s.world.emitted = published moment) (waits : m.stack ≠ [])
    (few : texts.length < 2 ^ 62) :
    Exhausts m moment ∨ ∃ last, Completes m moment (some #[]) last ∧
      published last = (published moment).push (.written (messageOf texts)) := by
  obtain ⟨number, printing⟩ := collects.printing
  have isWaiting : n.stack ≠ [] := collects.isBack.stack ▸ waits
  have fills : Table.Fills (texts.map .str) (s.table ref) := collects.table_eq.symm ▸ collects.fills
  have asks : collected .fell s = _ := printing.execBlock_publishing
  rw [asks] at goes
  have joins : Yields n (.builtin (.table .concat)) #[.table ref, .ofString "\t"]
      (siteOf (capturedAt 3 "concat") 10 3) s #[.str (joinedBy "\t".toUTF8 texts)]
      fun charge => { s with charge } :=
    yields_builtin rfl fun caller charge =>
      have fills : Table.Fills (texts.map .str) (Store.table { s with charge } ref) := fills
      concat_fills fills caller "\t".toUTF8 few
  obtain ⟨last, out, ends⟩ | ⟨charge, _, ends⟩ := joins
  · have goes := goes.asks isWaiting (ends _)
    exact .inl (exhausts_of_runsOut goes out (collects.isOver out.isOver) same)
  · have goes := goes.asks isWaiting (ends _)
    have goes : Goes m moment
        (n, joinedTo adapter (.str (joinedBy "\t".toUTF8 texts)) { s with charge }) :=
      goes
    rw [joinedTo_eq] at goes
    obtain ⟨last, out, ends⟩ | ⟨later, _, ends⟩ :=
      yields_message (n := n) (printing.charge charge) texts
    · have goes := goes.asks isWaiting (ends _)
      exact .inl (exhausts_of_runsOut goes out (collects.isOver out.isOver) same)
    · have goes := goes.asks isWaiting (ends _)
      refine .inr ⟨_, goes.completes (.now ?_), congrArg (Array.push · _) same⟩
      exact collects.isOver (.returned rfl rfl (by simp))

end Collects

theorem prints_of_exhausts {values : List Value} (exhausts : Exhausts m moment) :
    Prints m values texts moment := by
  cases values <;> exact .inl exhausts

/-- Where some texts have been made, the function that prints goes on with the other arguments.
By induction on these: each one is taken, its text is made, and the text is put into the
table. -/
theorem prints_of_turn (isCalled : m.IsCalled) (few : arguments.size < 2 ^ 62)
    {before rest : List Value} (parts : arguments.toList = before ++ rest)
    (made : before.length = texts.length)
    (goes : Goes m moment (turn arguments texts.length n s))
    (same : s.world.emitted = published moment)
    (collects : Collects adapter arguments ref table texts m n s)
    (runs : moment.Runs toolShelter (Equipped adapter 0)) : Prints m rest texts moment := by
  have size : arguments.size = before.length + rest.length := by
    rw [← List.length_append, ← parts, Array.length_toList]
  induction rest generalizing before texts table n s moment with
  | nil =>
      have all : ¬texts.length < arguments.size := by
        simp at size
        omega
      rw [turn, if_neg all] at goes
      exact collects.publishes goes same isCalled.stack_ne_nil (by omega)
  | cons value rest ih =>
      have more : texts.length < arguments.size := by
        simp at size
        omega
      have isNext : arguments[texts.length] = value := by
        rw [← Array.getElem_toList more]
        simp [parts, ← made]
      obtain exhausts | ⟨charge, asks⟩ := collects.takes goes same few more
      · exact .inl exhausts
      rw [isNext, taken_eq] at asks
      have above := collects.isAbove arguments texts.length
      have veiled : (Store.withFrame (atNext arguments ref texts.length s charge) {}).Veiled
          (veilOver ref table) := (collects.veiled.charge charge).veiled
      have isVisible : Visible (s.view (veilOver ref table)) value :=
        isNext ▸ collects.visible _ (Array.getElem_mem _)
      obtain ⟨last, out, ends⟩ | ⟨returns, raises⟩ :=
        tostring_ends (s := atNext arguments ref texts.length s charge) stores
          (show textSite.kind = .script from rfl) (List.cons_ne_nil _ _) above veiled
          collects.threads isVisible
      · have goes := asks.asks (List.cons_ne_nil _ _) ends
        exact .inl (exhausts_of_runsOut goes out (above.isOver out.isOver) same)
      · refine .inr ⟨_, _, _, _, asks, same, fun values later ends => ?_, fun last ends => ?_⟩
        · have asking := asks.passes.keeps runs
          obtain ⟨text, back, u, rfl, begins, goesOn, emitted, stored⟩ :=
            collects.tells few more (returns values later ends) rfl asking
          have next : texts.length + 1 = (texts ++ [text]).length := by simp
          rw [next] at goesOn
          have size : arguments.size = (before ++ [value]).length + rest.length := by
            simp at size ⊢
            omega
          exact ⟨text, rfl, ih (by simp [parts]) (by simp [made]) goesOn emitted stored
            (begins.passes.keeps asking) size⟩
        · obtain ⟨goes, isOver⟩ := raises last ends
          exact goes.completes (.now isOver)

/-- Only a few arguments have room. -/
theorem few_of_hasRoom {top : Nat}
    (room : hasRoom m (top + (1 + arguments.size) + libraryRoom) = true) :
    arguments.size < 2 ^ 62 := by
  have inside := of_decide_eq_true room
  simp only [stackLimit, stackSpare] at inside
  split at inside <;> omega

/-- When the arguments have been counted, the loop runs as often, or not at all. -/
theorem goes_counted (goes : Goes m moment (m, counted (.ofNat arguments.size) s))
    (waits : m.stack ≠ []) (few : arguments.size < 2 ^ 62) :
    Goes m moment (turn arguments 0 m s) := by
  by_cases none : arguments.size = 0
  · rw [none, counted_zero] at goes
    rw [turn, if_neg (by omega)]
    exact goes
  · obtain ⟨count, isCount⟩ := Nat.exists_eq_succ_of_ne_zero none
    rw [isCount, counted_succ (by omega)] at goes
    rw [turn, if_pos (by omega), isCount]
    exact goes.asks waits rfl

/-- The store in which the arguments are counted. -/
def atStart (arguments : Array Value) (s : Store) (charge : Nat) : Store :=
  { (s.newTable {}).2.withFrame (printFrame arguments (.table s.heap.tables.size) .nil) with charge }

/-- When the function that prints begins, it has made its table. -/
theorem begins_cases (begins : Begins printer arguments s moment)
    (equipped : Equipped adapter 0 s) :
    ∃ charge,
      Printing adapter arguments (.table s.heap.tables.size) .nil (atStart arguments s charge) ∧
      moment.2 = execBlock none [counting, publishing] (atStart arguments s charge) := by
  obtain ⟨charge, body⟩ := runBody_print (s := s.withFrame (frameOf printer arguments)) rfl
  exact ⟨charge, ⟨rfl, (equipped.newTable {}).congr rfl rfl rfl (Nat.le_refl _)⟩,
    begins.step.trans body⟩

/-- It has published nothing then. -/
theorem published_of_begins (begins : Begins printer arguments s moment)
    (equipped : Equipped adapter 0 s) :
    published moment = s.world.emitted := by
  obtain ⟨charge, printing, step⟩ := begins_cases begins equipped
  rw [published, step, printing.execBlock_counting]
  rfl

/-- Where it begins, neither memory nor the stack has run out. -/
theorem not_isExhausted_of_begins (begins : Begins printer arguments s moment)
    (equipped : Equipped adapter 0 s) : ¬IsExhausted moment := by
  intro isExhausted
  obtain ⟨charge, printing, step⟩ := begins_cases begins equipped
  obtain ⟨raised, t, fails⟩ := isExhausted.fails
  rw [printing.execBlock_counting, fails] at step
  cases step

/-- Its table is new: nothing else refers to it. -/
theorem collects_first (equipped : Equipped adapter 0 s) (veiled : (s.withFrame {}).Veiled noVeil)
    (threads : Visible (s.view noVeil) m.threads) (visible : Visible (s.view noVeil) arguments)
    (charge : Nat) :
    Collects adapter arguments s.heap.tables.size {} [] m m (atStart arguments s charge) where
  isBack := ⟨rfl, rfl, rfl⟩
  printing := ⟨_, rfl, (equipped.newTable {}).congr rfl rfl rfl (Nat.le_refl _)⟩
  fills := Table.fills_empty
  veiled := ((veiled.hide {} rfl).charge charge).veiled
  threads := threads.grow (Store.grown_newTable_veilOver s {})
  visible := visible.grow (Store.grown_newTable_veilOver s {})

/-- The arguments are counted, and then the loop runs, unless memory or the stack runs out. -/
theorem Collects.counts (collects : Collects adapter arguments ref {} [] m m s)
    (waits : m.stack ≠ [])
    (goes : Goes m moment (m, execBlock none [counting, publishing] s))
    (same : s.world.emitted = published moment) :
    Exhausts m moment ∨ ∃ charge, arguments.size < 2 ^ 62 ∧
      Goes m moment (turn arguments 0 m { s with charge }) := by
  obtain ⟨number, printing⟩ := collects.printing
  rw [printing.execBlock_counting] at goes
  have yields : Yields m (.builtin (.base .select)) (#[.ofString "#"] ++ arguments)
      (siteOf (capturedAt 0 "select") 7 2) s #[.ofNat arguments.size]
      fun charge => { s with charge } :=
    yields_builtin rfl fun caller charge => .inl ⟨charge, select_count caller arguments _⟩
  obtain ⟨last, out, ends⟩ | ⟨charge, room, ends⟩ := yields
  · have goes := goes.asks waits (ends _)
    exact .inl (exhausts_of_runsOut goes out out.isOver same)
  · rw [Array.size_append] at room
    have few : arguments.size < 2 ^ 62 := few_of_hasRoom room
    exact .inr ⟨charge, few, goes_counted (goes.asks waits (ends _)) waits few⟩

/-- A call of the function that prints: it has the text of each argument made, from the first one
to the last one, and publishes them as one message. -/
theorem prints_of_begins (begins : Begins printer arguments s moment)
    (equipped : Equipped adapter 0 s)
    (veiled : (s.withFrame {}).Veiled noVeil)
    (threads : Visible (s.view noVeil) moment.1.threads)
    (visible : Visible (s.view noVeil) arguments)
    (runs : moment.Runs toolShelter (Equipped adapter 0)) :
    Prints moment.1 arguments.toList [] moment := by
  have isCalled := begins.1
  have same := published_of_begins begins equipped
  obtain ⟨charge, printing, step⟩ := begins_cases begins equipped
  obtain ⟨m, _⟩ := moment
  obtain rfl := step
  have first (charge : Nat) := collects_first equipped veiled threads visible charge
  obtain exhausts | ⟨later, few, goes⟩ :=
    (first charge).counts isCalled.stack_ne_nil .here same.symm
  · exact prints_of_exhausts exhausts
  · exact prints_of_turn isCalled few (List.nil_append _).symm rfl goes same.symm (first later) runs

end Bootstrap

end LuaSession
