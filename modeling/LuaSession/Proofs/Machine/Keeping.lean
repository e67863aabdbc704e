import LuaSession.Proofs.Library.Functions
import LuaSession.Proofs.Machine.Stopping
import LuaSession.Proofs.Script.Sheltering

/-!
# The machine keeps what functions cannot change

What waits on the stacks of a machine are evaluations that have asked for
something. As long as all of them keep a property, so does every transition, and
the store with which a machine stops has the property. The one exception is a
transition that begins an exempt closure, which may do what others cannot.
-/

namespace LuaSession.Machine

open LuaSession.Script

/-- An evaluation that waits for an answer keeps a property, and every other one
that what it publishes cannot lose. -/
def Resume.Keeps (kind : Kind) (J : Store → Prop) (resume : Resume) : Prop :=
  ∀ (K : Store → Prop) [kind.Holds K], (LetsPublish J → LetsPublish K) →
    ∀ exit s, K s → (resume exit s).Keeps kind K

/-- Everything on a stack keeps a property. The role is that of the function that the
first one waits for: calls come back to a role of their own, and protected calls are
made by functions of the libraries. -/
inductive StackKeeps (shelter : Shelter) (J : Store → Prop) : Role → List Wait → Prop where
  | nil {role : Role} : StackKeeps shelter J role []
  | call {role caller : Role} {resume : Resume} {activation : Activation} {frame : Frame}
      {line : Nat} {rest : List Wait} (resumes : Resume.Keeps caller.kind J resume)
      (fits : caller.Fits shelter frame) (keeps : StackKeeps shelter J caller rest) :
      StackKeeps shelter J role (.call resume activation frame line :: rest)
  | protect {role : Role} {handler : Handler} {isSealed : Bool} {resume : Resume}
      {caller : Activation} {rest : List Wait} (resumes : Resume.Keeps .library J resume)
      (keeps : StackKeeps shelter J .library rest) :
      StackKeeps shelter J role (.protect handler isSealed resume caller :: rest)
  | loop {role : Role} {more : Option Loop} {resume : Resume} {rest : List Wait}
      (spares : ∀ loop, more = some loop → role.Spares loop.touched)
      (resumes : Resume.Keeps role.kind J resume) (keeps : StackKeeps shelter J role rest) :
      StackKeeps shelter J role (.loop more resume :: rest)
  | labelled {role : Role} {body : List Stmt} {condition : Option Expr} {resume : Resume}
      {rest : List Wait} (spares : role.Spares (Stmt.allTouched body ++ Expr.endTouched condition))
      (resumes : Resume.Keeps role.kind J resume) (keeps : StackKeeps shelter J role rest) :
      StackKeeps shelter J role (.labelled body condition resume :: rest)
  | guarded {role : Role} {value : Value} {line : Nat} {body : List Stmt}
      {condition : Option Expr} {resume : Resume} {rest : List Wait}
      (spares : role.Spares (Stmt.allTouched body ++ Expr.endTouched condition))
      (resumes : Resume.Keeps role.kind J resume) (keeps : StackKeeps shelter J role rest) :
      StackKeeps shelter J role (.guarded value line body condition resume :: rest)
  | unwinding {role : Role} {pending : List Value} {error : Value} {isMemory : Bool}
      {rest : List Wait} (keeps : StackKeeps shelter J .library rest) :
      StackKeeps shelter J role (.unwinding pending error isMemory :: rest)

/-- A thread that has been running keeps a property when it goes on. -/
inductive Paused.Keeps (shelter : Shelter) (J : Store → Prop) (paused : Paused) : Prop where
  | intro (role : Role) (stack : StackKeeps shelter J role paused.stack)
      (fits : role.Fits shelter paused.frame) (resumes : Resume.Keeps role.kind J paused.resume)

/-- A thread that neither runs nor waits keeps a property when it goes on. -/
def Dormant.Keeps (shelter : Shelter) (J : Store → Prop) : Dormant → Prop
  | .fresh _ => True
  | .suspended paused => paused.Keeps shelter J
  | .ended .. => True

/-- All threads that neither run nor wait keep a property when they go on. -/
def ThreadsKeep (shelter : Shelter) (J : Store → Prop) (threads : Array Dormant) : Prop :=
  ∀ dormant ∈ threads, dormant.Keeps shelter J

/-- Whatever a machine goes on with keeps a property. -/
structure State.Keeps (shelter : Shelter) (J : Store → Prop) (role : Role) (m : State) : Prop where
  stack : StackKeeps shelter J role m.stack
  parents : ∀ parent ∈ m.parents, parent.2.Keeps shelter J
  threads : ThreadsKeep shelter J m.threads

/-- A caller waits for the function that runs. -/
inductive State.IsCalled (m : State) : Prop where
  | intro (resume : Resume) (caller : Activation) (frame : Frame) (line : Nat) (rest : List Wait)
      (waits : m.stack = .call resume caller frame line :: rest)

/-- An exempt closure begins. What waits for it keeps the property. -/
inductive BeginsExempt (shelter : Shelter) (J : Store → Prop) : Next → Prop where
  | intro {m : State} {closure : Closure} {s : Store} (isExempt : shelter.exempt closure)
      (isCalled : m.IsCalled) (keeps : ∀ role, m.Keeps shelter J role) (holds : J s)
      (arguments : Array Value) (activation : Activation) :
      BeginsExempt shelter J (begin m closure arguments activation s)

/-- A step and the machine that takes it keep a property. -/
inductive Next.Runs (shelter : Shelter) (J : Store → Prop) (next : Next) : Prop where
  | intro (role : Role) (machine : next.1.Keeps shelter J role)
      (step : next.2.Keeps role.kind (role.Has shelter J))

/-- A step and the machine that takes it keep a property, or an exempt closure
begins. -/
inductive Next.Keeps (shelter : Shelter) (J : Store → Prop) (next : Next) : Prop where
  | runs (role : Role) (machine : next.1.Keeps shelter J role)
      (step : next.2.Keeps role.kind (role.Has shelter J))
  | exempt (begins : BeginsExempt shelter J next)

variable {shelter : Shelter} {J : Store → Prop} {role : Role} {m : State} {s : Store}
  {resume : Resume}

/-- Where no closure is exempt, none begins. -/
theorem Next.Keeps.runs_of_isClosed [shelter.IsClosed] {next : Next}
    (keeps : next.Keeps shelter J) : next.Runs shelter J := by
  cases keeps with
  | runs role machine step => exact .intro role machine step
  | exempt begins =>
      obtain ⟨isExempt, _, _, _⟩ := begins
      exact absurd isExempt (Shelter.IsClosed.closed _)

theorem keeps_ends (kind : Kind) : Resume.Keeps kind J ends := fun _ _ _ _ _ holds => holds

theorem keeps_handled (kind : Kind) : Resume.Keeps kind J handled := fun _ _ _ _ _ holds => holds

theorem keeps_runBody {held : Nat → Prop} {code : Code} (spares : Spares held code.touched) :
    (runBody code).Keeps (.script held) J := by
  obtain ⟨info, labelled, body⟩ := code
  have spares : Spares held (Stmt.allTouched body) := spares
  cases labelled with
  | false => exact Run.keeps_execBlock none body spares spares_nil
  | true => exact Run.keeps_askLabelled spares spares_nil

theorem keeps_libraryRun (m : State) (function : Value) (arguments : Array Value) (site : Site) :
    (libraryRun m function arguments site).Keeps .library J := by
  apply Run.keeps_of
  intro K _ s holds
  unfold libraryRun
  cases function with
  | builtin builtin => exact (Library.keeps_runBuiltin _ _ _).at holds
  | native ref => exact (Library.keeps_runNative _ _ _).at holds
  | _ => exact holds

theorem keeps_ofValues {kind : Kind} [kind.Holds J] {step : Step (Array Value)}
    (keeps : step.Keeps kind J) : (ofValues step).Keeps kind J :=
  keeps.bindAsked fun _ _ _ _ _ holds => holds

namespace StackKeeps

/-- What is left of a stack when it is unwound is a protected call. -/
theorem leaveWaits {stack : List Wait} (keeps : StackKeeps shelter J role stack)
    (done : Array Value) : ∃ other, StackKeeps shelter J other (leaveWaits done stack).2 := by
  induction keeps generalizing done with
  | nil => exact ⟨.library, .nil⟩
  | protect resumes keeps _ => exact ⟨.library, .protect resumes keeps⟩
  | call _ _ _ ih | loop _ _ _ ih | labelled _ _ _ ih | guarded _ _ _ ih | unwinding _ ih => exact ih _

end StackKeeps

theorem ThreadsKeep.getD {threads : Array Dormant} (keeps : ThreadsKeep shelter J threads)
    (thread : Nat) : (threads.getD thread default).Keeps shelter J := by
  rw [Array.getD]
  split
  next found => exact keeps _ (Array.getElem_mem found)
  next => exact trivial

namespace State.Keeps

theorem push (keeps : m.Keeps shelter J role) {other : Role} {wait : Wait}
    (waits : StackKeeps shelter J role m.stack → StackKeeps shelter J other (wait :: m.stack)) :
    (m.push wait).Keeps shelter J other :=
  ⟨waits keeps.stack, keeps.parents, keeps.threads⟩

theorem withActivation (keeps : m.Keeps shelter J role) (activation : Activation) :
    (m.withActivation activation).Keeps shelter J role :=
  ⟨keeps.stack, keeps.parents, keeps.threads⟩

theorem withStack (keeps : m.Keeps shelter J role) {other : Role} {stack : List Wait}
    (waits : StackKeeps shelter J other stack) (activation : Activation) (overflowing : Bool) :
    State.Keeps shelter J other { m with stack, activation, overflowing } :=
  ⟨waits, keeps.parents, keeps.threads⟩

theorem setThread (keeps : m.Keeps shelter J role) (thread : Nat) (dormant : Dormant)
    (waits : dormant.Keeps shelter J) : (m.setThread thread dormant).Keeps shelter J role where
  stack := keeps.stack
  parents := keeps.parents
  threads := by
    intro other isMember
    rcases Array.mem_or_eq_of_mem_setIfInBounds isMember with old | rfl
    · exact keeps.threads _ old
    · exact waits

end State.Keeps

namespace Next

theorem keeps_done (keeps : m.Keeps shelter J role) (has : role.Has shelter J s) (exit : Exit) :
    Next.Keeps shelter J (m, .done exit s) :=
  .runs role keeps (by cases role <;> exact has)

theorem keeps_fail (keeps : m.Keeps shelter J role) (has : role.Has shelter J s)
    (raised : Raised) : Next.Keeps shelter J (m, .fail raised s) :=
  .runs role keeps (by cases role <;> exact has)

variable [Sheltered shelter J]

theorem keeps_run (keeps : m.Keeps shelter J role) {run : Run Exit}
    (runs : run.Keeps role.kind J) (has : role.Has shelter J s) :
    Next.Keeps shelter J (m, run s) :=
  .runs role keeps (runs.step _ Role.letsPublish_has s has)

theorem keeps_resume (keeps : m.Keeps shelter J role) (resumes : Resume.Keeps role.kind J resume)
    (has : role.Has shelter J s) (exit : Exit) : Next.Keeps shelter J (m, resume exit s) :=
  .runs role keeps (resumes _ Role.letsPublish_has exit s has)

end Next

/-! ## Calls -/

section Calls

variable [Sheltered shelter J]

theorem keeps_faultAt (keeps : m.Keeps shelter J role) (has : role.Has shelter J s) (line : Nat)
    (message : Bytes) : Next.Keeps shelter J (faultAt m line message s) :=
  Next.keeps_run keeps (Run.keeps_faultBytes _ _) has

theorem keeps_overflow (keeps : m.Keeps shelter J role) (has : role.Has shelter J s)
    (line : Nat) : Next.Keeps shelter J (overflow m line s) := by
  unfold overflow
  split
  · exact Next.keeps_fail keeps has _
  · exact keeps_faultAt (keeps.withStack keeps.stack m.activation true) has _ _

theorem keeps_failCall (keeps : m.Keeps shelter J role) (has : role.Has shelter J s)
    (function : Value) (site : Site) : Next.Keeps shelter J (failCall m function site s) :=
  keeps_faultAt keeps has _ _

theorem has_checkMemory (has : role.Has shelter J s) (m : State) :
    role.Has shelter J (checkMemory m s).2 := by
  unfold checkMemory
  dsimp only
  split
  · exact has
  · split
    · exact has
    · exact Lasting.effect (.charge s _) has

theorem has_withFrame (holds : J s) {frame : Frame} (fits : role.Fits shelter frame) :
    role.Has shelter J (s.withFrame frame) :=
  ⟨Sheltered.frame shelter holds frame, fits⟩

/-- In the frame of a function, its captured variables are those of the closure. -/
theorem holds_frameOf (closure : Closure) (arguments : Array Value) :
    (frameOf closure arguments).Holds shelter (shelter.held closure.captured) := by
  refine ⟨fun index fixed => fixed, fun index cell boxed => ?_⟩
  unfold frameOf at boxed
  dsimp only at boxed
  split at boxed
  · simp at boxed
  · simp only [Array.getD_eq_getD_getElem?, Array.getElem?_replicate] at boxed
    split at boxed <;> simp at boxed

theorem keeps_begin (isCalled : m.IsCalled) (keeps : ∀ role, m.Keeps shelter J role)
    (holds : J s) {closure : Closure}
    (allowed : closure.Spares shelter ∨ shelter.exempt closure) (arguments : Array Value)
    (activation : Activation) :
    Next.Keeps shelter J (begin m closure arguments activation s) := by
  rcases allowed with spares | isExempt
  · refine Next.keeps_run ((keeps (.script (shelter.held closure.captured))).withActivation _)
      (keeps_runBody spares) ?_
    exact ⟨Sheltered.frame shelter holds _, holds_frameOf closure arguments⟩
  · exact .exempt (.intro isExempt isCalled keeps holds arguments activation)

theorem keeps_runLibrary (keeps : m.Keeps shelter J role) (has : role.Has shelter J s)
    (resumes : Resume.Keeps role.kind J resume) {run : Run (Array Value)}
    (runs : run.Keeps .library J) (line : Nat) (activation : Activation) :
    Next.Keeps shelter J (runLibrary m run line activation resume s) := by
  have waiting {goesOn : Resume} (resumes : Resume.Keeps role.kind J goesOn) {frame : Frame}
      (fits : role.Fits shelter frame) :
      ((m.push (.call goesOn m.activation frame line)).withActivation activation).Keeps
        shelter J .library :=
    (keeps.push (.call resumes fits)).withActivation activation
  have step := runs.step (role.Has shelter J) Role.letsPublish_has s has
  unfold runLibrary
  generalize run s = ran at step
  cases ran with
  | done values after => exact Next.keeps_resume keeps resumes step _
  | fail raised after => exact Next.keeps_fail (waiting (keeps_ends _) step.2) ⟨step.1, trivial⟩ _
  | ask request after goOn =>
      obtain ⟨after, asks, later⟩ := step
      refine .runs .library (waiting resumes after.2) ⟨has_withFrame after.1 trivial, asks, ?_⟩
      intro K (_ : Kind.library.Holds K) lets exit t held
      change Step.Keeps .library K _
      refine keeps_ofValues (later K (fun publishes => lets ?_) exit t held)
      exact Role.letsPublish_has (Role.letsPublish_of_has after.2 publishes)

theorem keeps_enter (keeps : m.Keeps shelter J role) (has : role.Has shelter J s)
    (resumes : Resume.Keeps role.kind J resume) (function : Value) (arguments : Array Value)
    (site : Site) : Next.Keeps shelter J (enter m function arguments site resume s) := by
  unfold enter
  dsimp only
  split
  next ref =>
    split
    · exact keeps_overflow keeps has _
    · exact keeps_begin (.intro _ _ _ _ _ rfl) (fun _ => keeps.push (.call resumes has.2))
        (Sheltered.frame shelter has.1 _) (Sheltered.spares has.1 ref) _ _
  · split
    · exact keeps_overflow keeps has _
    · exact keeps_runLibrary keeps has resumes (keeps_libraryRun _ _ _ _) _ _

theorem keeps_call (keeps : m.Keeps shelter J role) (has : role.Has shelter J s)
    (resumes : Resume.Keeps role.kind J resume) (function : Value) (arguments : Array Value)
    (site : Site) : Next.Keeps shelter J (call m function arguments site resume s) := by
  have checked := has_checkMemory has m
  unfold call
  dsimp only
  split
  · split
    · exact keeps_faultAt (keeps.withActivation _) has _ _
    · exact Next.keeps_fail (keeps.withActivation _) has _
  · generalize checkMemory m s = check at checked
    obtain ⟨_ | _, after⟩ := check
    · exact Next.keeps_fail keeps checked _
    · dsimp only
      split
      · exact keeps_enter keeps checked resumes _ _ _
      · split
        · exact keeps_enter keeps checked resumes _ _ _
        · exact keeps_failCall keeps checked _ _

/-- A call in place of the running function: who waits for that does not care which
function it is. -/
theorem keeps_tailCall (isCalled : m.IsCalled) (keeps : ∀ role, m.Keeps shelter J role)
    (holds : J s) (function : Value) (arguments : Array Value) (site : Site) :
    Next.Keeps shelter J (tailCall m function arguments site s) := by
  have has : Role.library.Has shelter J s := ⟨holds, trivial⟩
  have checked := has_checkMemory has m
  unfold tailCall
  generalize checkMemory m s = check at checked
  obtain ⟨_ | _, after⟩ := check
  · exact Next.keeps_fail (keeps _) checked _
  · dsimp only
    split
    · exact keeps_failCall (keeps _) checked _ _
    next ref _ _ =>
      split
      · exact keeps_overflow (keeps _) checked _
      · exact keeps_begin isCalled keeps checked.1 (Sheltered.spares checked.1 ref) _ _
    · exact keeps_enter (keeps _) checked (keeps_ends _) _ _ _

end Calls

/-! ## Threads and errors -/

section Threads

variable [Sheltered shelter J]

theorem has_setThreadStatus (has : role.Has shelter J s) (thread : Nat) (status : ThreadStatus) :
    role.Has shelter J (s.setThreadStatus thread status) :=
  Lasting.effect (.threadStatus s thread status) has

theorem keeps_leaveThread (keeps : m.Keeps shelter J role) (has : role.Has shelter J s)
    (dormant : Dormant) (waits : dormant.Keeps shelter J) (status : ThreadStatus) (exit : Exit) :
    Next.Keeps shelter J (leaveThread m dormant status exit s) := by
  unfold leaveThread
  split
  · exact Next.keeps_done keeps has _
  next thread paused parents found =>
    have parentsKeep := keeps.parents
    rw [found] at parentsKeep
    obtain ⟨⟨role, stack, fits, resumes⟩, rest⟩ := List.forall_mem_cons.mp parentsKeep
    have left := keeps.setThread s.thread dormant waits
    refine Next.keeps_resume ?_ resumes (has_withFrame ?_ fits) _
    · exact ⟨stack, rest, left.threads⟩
    · exact Lasting.effect (.thread _ _) (has_setThreadStatus (has_setThreadStatus has _ _) _ _).1

theorem keeps_closePending (keeps : m.Keeps shelter J .library) (holds : J s)
    (pending : List Value) (error : Value) (isMemory : Bool) :
    Next.Keeps shelter J (closePending m pending error isMemory s) := by
  have has : Role.library.Has shelter J s := ⟨holds, trivial⟩
  unfold closePending
  split
  next handler isSealed resume caller rest found =>
    have stack := keeps.stack
    rw [found] at stack
    cases stack with
    | protect resumes rests =>
        exact Next.keeps_resume (keeps.withStack rests caller m.overflowing) resumes has _
  · exact keeps_call (keeps.push .unwinding) has (keeps_ends _) _ _ _
  · exact Next.keeps_done keeps has _

theorem keeps_unwind (keeps : m.Keeps shelter J role) (has : role.Has shelter J s)
    (error : Value) (isMemory : Bool) : Next.Keeps shelter J (unwind m error isMemory s) := by
  obtain ⟨other, left⟩ := keeps.stack.leaveWaits #[]
  unfold unwind
  generalize leaveWaits #[] m.stack = waits at left
  obtain ⟨pending, stack⟩ := waits
  dsimp only at left ⊢
  split
  · cases left with
    | protect resumes rests =>
        refine keeps_closePending ?_ (Sheltered.frame shelter has.1 _) _ _ _
        exact keeps.withStack (.protect resumes rests) _ false
  · refine keeps_leaveThread ?_ has (.ended ..) trivial _ _
    exact keeps.withStack .nil m.activation m.overflowing

theorem keeps_failStep (keeps : m.Keeps shelter J role) (has : role.Has shelter J s)
    (raised : Raised) : Next.Keeps shelter J (fail m raised s) := by
  unfold fail
  split
  · exact keeps_unwind keeps has _ _
  · exact keeps_unwind keeps has _ _
  · split
    · exact keeps_unwind keeps has _ _
    · exact keeps_call keeps has (keeps_handled _) _ _ _
    · dsimp only
      split
      · exact Next.keeps_fail keeps has _
      · exact keeps_runLibrary keeps has (keeps_handled _) (Library.Hosted.keeps_report _) _ _

theorem keeps_resumeThread (keeps : m.Keeps shelter J .library) (holds : J s)
    (resumes : Resume.Keeps .library J resume) (thread : Nat) (arguments : Array Value) :
    Next.Keeps shelter J (resumeThread m thread arguments resume s) := by
  have parents (nestingBase : Nat) : ∀ parent ∈ (s.thread, { m with
        frame := s.frame, resume, nestingBase : Paused }) :: m.parents, parent.2.Keeps shelter J :=
    List.forall_mem_cons.mpr ⟨⟨.library, keeps.stack, trivial, resumes⟩, keeps.parents⟩
  have has : Role.library.Has shelter J s := ⟨holds, trivial⟩
  have threads : ThreadsKeep shelter J (m.setThread thread default).threads :=
    (keeps.setThread thread default trivial).threads
  have started : J { (s.setThreadStatus s.thread .normal).setThreadStatus thread .running with
      thread } :=
    Lasting.effect (.thread _ _) (has_setThreadStatus (has_setThreadStatus has _ _) _ _).1
  have begun : Role.library.Has shelter J ({ (s.setThreadStatus s.thread .normal).setThreadStatus
      thread .running with thread }.withFrame {}) := has_withFrame started trivial
  have dormant := keeps.threads.getD thread
  unfold resumeThread
  split
  · exact Next.keeps_resume keeps resumes has _
  · dsimp only
    generalize m.threads.getD thread default = waiting at dormant
    cases waiting with
    | fresh function =>
        refine keeps_call ?_ begun (keeps_ends _) _ _ _
        exact ⟨.nil, parents _, threads⟩
    | suspended paused =>
        obtain ⟨other, stack, fits, resumes⟩ := dormant
        refine Next.keeps_resume ?_ resumes
          (has_withFrame begun.1 fits) _
        exact ⟨stack, parents _, threads⟩
    | ended error pending =>
        refine keeps_leaveThread ?_ begun default trivial _ _
        exact ⟨keeps.stack, parents _, threads⟩

theorem keeps_yieldThread (keeps : m.Keeps shelter J .library) (holds : J s)
    (resumes : Resume.Keeps .library J resume) (values : Array Value) :
    Next.Keeps shelter J (yieldThread m values resume s) := by
  have has : Role.library.Has shelter J s := ⟨holds, trivial⟩
  unfold yieldThread
  split
  · exact Next.keeps_fail keeps has _
  · split
    · exact Next.keeps_fail keeps has _
    · refine keeps_leaveThread keeps has (.suspended _) ?_ _ _
      exact .intro .library keeps.stack trivial resumes

theorem keeps_abandonThread (keeps : m.Keeps shelter J .library) (holds : J s)
    (resumes : Resume.Keeps .library J resume) (thread : Nat) :
    Next.Keeps shelter J (abandonThread m thread resume s) :=
  Next.keeps_resume (keeps.setThread thread default trivial) resumes
    ⟨Lasting.effect (.threadStatus s thread .dead) holds, trivial⟩ _

end Threads

/-! ## Collecting garbage -/

namespace Collector

variable [Lasting J]

theorem holds_clearWeak (holds : J s) (marks : Marks) (keysToo : Bool) :
    J (clearWeak marks keysToo s) := by
  unfold clearWeak
  generalize List.range s.heap.tables.size = tables
  induction tables generalizing s with
  | nil => exact holds
  | cons ref tables ih =>
      rw [List.foldl_cons]
      apply ih
      split
      · exact holds
      · split
        · exact holds
        · exact Lasting.effect (.sweep s ref _) holds

theorem holds_collect (holds : J s) (m : State) : J (collect m s).2 :=
  Lasting.effect (.finalizable _ _) (holds_clearWeak (holds_clearWeak holds _ _) _ _)

end Collector

/-! ## Requests and answers -/

section Answers

variable [Sheltered shelter J]

theorem keeps_block (keeps : m.Keeps shelter J role) (has : role.Has shelter J s)
    {body : List Stmt} {condition : Option Expr}
    (spares : role.Spares (Stmt.allTouched body ++ Expr.endTouched condition)) :
    Next.Keeps shelter J (m, execBlock condition body s) := by
  obtain ⟨held, rfl, spares⟩ := Role.exists_of_spares spares
  obtain ⟨spares, ends⟩ := spares_append.mp spares
  exact Next.keeps_run keeps (Run.keeps_execBlock _ _ spares ends) has

theorem keeps_iterate (keeps : m.Keeps shelter J role) (has : role.Has shelter J s)
    (resumes : Resume.Keeps role.kind J resume) {loop : Loop} (spares : role.Spares loop.touched) :
    Next.Keeps shelter J (iterate m loop resume s) := by
  have checked := has_checkMemory has m
  unfold iterate
  split
  · exact Next.keeps_resume keeps resumes has _
  next run rest found =>
    have later (next : Loop) (isRest : rest = some next) : role.Spares next.touched := by
      subst isRest
      exact loop.touched_iteration? found ▸ spares
    obtain ⟨held, rfl, spares⟩ := Role.exists_of_spares spares
    have runs : run.Keeps (.script held) J := loop.keeps_iteration? found spares
    generalize checkMemory m s = check at checked
    obtain ⟨_ | _, after⟩ := check
    · exact Next.keeps_fail keeps checked _
    · exact Next.keeps_run (keeps.push (.loop later resumes)) runs checked

theorem keeps_guarded (keeps : m.Keeps shelter J role) (has : role.Has shelter J s)
    (resumes : Resume.Keeps role.kind J resume) {body : Guarded} (spares : role.Spares body.touched)
    (value : Value) (name : Bytes) (line : Nat) :
    Next.Keeps shelter J (guarded m value name line body resume s) := by
  unfold guarded
  split
  · exact keeps_faultAt keeps has _ _
  · split
    · exact keeps_block (keeps.push (.guarded spares resumes)) has spares
    next loop =>
      have empty : role.Spares (Stmt.allTouched [] ++ Expr.endTouched none) := by
        obtain ⟨held, rfl, _⟩ := Role.exists_of_spares spares
        exact spares_nil
      exact keeps_iterate (keeps.push (.guarded empty resumes)) has (keeps_ends _) spares

theorem keeps_answer (keeps : m.Keeps shelter J role) {request : Request}
    (has : role.Has shelter J s) (asks : role.kind.asks request)
    (resumes : Resume.Keeps role.kind J resume) :
    Next.Keeps shelter J (answer m request s resume) := by
  cases role with
  | script held =>
      cases request with
      | call function arguments site => exact keeps_call keeps has resumes _ _ _
      | loop loop => exact keeps_iterate keeps has resumes asks
      | labelled body condition => exact keeps_block (keeps.push (.labelled asks resumes)) has asks
      | guarded value name line body => exact keeps_guarded keeps has resumes asks _ _ _
      | _ => exact asks.elim
  | library =>
      cases request with
      | call function arguments site => exact keeps_call keeps has resumes _ _ _
      | protect handler isSealed function arguments =>
          exact keeps_call (keeps.push (.protect resumes)) has (keeps_ends _) _ _ _
      | resume thread arguments => exact keeps_resumeThread keeps has.1 resumes _ _
      | yield values => exact keeps_yieldThread keeps has.1 resumes _
      | spawn function =>
          refine Next.keeps_resume (m := { m with threads := m.threads.push (.fresh function) })
            ⟨keeps.stack, keeps.parents, ?_⟩ resumes
            ⟨Lasting.effect (.newThread s) has.1, trivial⟩ _
          intro dormant isMember
          rcases Array.mem_push.mp isMember with old | rfl
          · exact keeps.threads _ old
          · exact trivial
      | abandon thread => exact keeps_abandonThread keeps has.1 resumes _
      | canYield => exact Next.keeps_resume keeps resumes has _
      | position level => exact Next.keeps_resume keeps resumes has _
      | depth => exact Next.keeps_resume keeps resumes has _
      | collect =>
          exact Next.keeps_resume keeps resumes ⟨Collector.holds_collect has.1 m, trivial⟩ _
      | loop _ | labelled _ _ | guarded _ _ _ _ => exact asks.elim

theorem keeps_closeGuarded (keeps : m.Keeps shelter J role) (has : role.Has shelter J s)
    (resumes : Resume.Keeps role.kind J resume) (value : Value) (line : Nat) (exit : Exit) :
    Next.Keeps shelter J (closeGuarded m value line exit resume s) :=
  keeps_call keeps has (fun K _ lets _ _ held => resumes K lets _ _ held) _ _ _

theorem keeps_leave {wait : Wait} {rest : List Wait} (keeps : m.Keeps shelter J role)
    (has : role.Has shelter J s) (found : m.stack = wait :: rest) (exit : Exit) :
    Next.Keeps shelter J (leave m wait rest exit s) := by
  have waits := keeps.stack
  rw [found] at waits
  have left {other : Role} (rests : StackKeeps shelter J other rest) :
      State.Keeps shelter J other { m with stack := rest } := ⟨rests, keeps.parents, keeps.threads⟩
  cases waits with
  | call resumes fits rests =>
      unfold leave
      dsimp only
      split
      · refine keeps_tailCall (.intro _ _ _ _ _ found) (fun other => ?_) has.1 _ _ _
        exact ⟨found ▸ .call resumes fits rests, keeps.parents, keeps.threads⟩
      · refine Next.keeps_resume ?_ resumes (has_withFrame has.1 fits) _
        exact keeps.withStack rests _ m.overflowing
  | protect resumes rests => exact Next.keeps_resume (left rests) resumes ⟨has.1, trivial⟩ _
  | loop spares resumes rests =>
      unfold leave
      dsimp only
      split
      · split
        next loop => exact keeps_iterate (left rests) has resumes (spares loop rfl)
        · exact Next.keeps_resume (left rests) resumes has _
      · split
        next loop => exact keeps_iterate (left rests) has resumes (spares loop rfl)
        · exact Next.keeps_resume (left rests) resumes has _
      · exact Next.keeps_resume (left rests) resumes has _
      · exact Next.keeps_resume (left rests) resumes has _
  | labelled spares resumes rests =>
      unfold leave
      dsimp only
      split
      · split
        next found => exact keeps_block keeps has (Role.spares_afterLabel found spares)
        · exact Next.keeps_resume (left rests) resumes has _
      · exact Next.keeps_resume (left rests) resumes has _
  | guarded spares resumes rests =>
      unfold leave
      dsimp only
      split
      next condition =>
        obtain ⟨held, rfl, spares⟩ := Role.exists_of_spares spares
        have ends : Script.Spares held condition.touched := (spares_append.mp spares).2
        refine Next.keeps_run (((left rests).push (.guarded ?_ resumes))) (Run.keeps_evalEnd _ ends) has
        exact spares_nil
      · split
        next found => exact keeps_block keeps has (Role.spares_afterLabel found spares)
        · exact keeps_closeGuarded (left rests) has resumes _ _ _
      · exact keeps_closeGuarded (left rests) has resumes _ _ _
  | unwinding rests => exact keeps_closePending (left rests) has.1 _ _ _

/-- One transition keeps what functions cannot change, unless it begins an exempt
closure. -/
theorem Next.Runs.advance {step : Step Exit} (runs : Next.Runs shelter J (m, step)) :
    Next.Keeps shelter J (advance m step) := by
  obtain ⟨role, keeps, steps⟩ := runs
  dsimp only at keeps steps
  unfold Machine.advance
  split
  next request s resume =>
    obtain ⟨has, asks, later⟩ := steps
    refine keeps_answer keeps has asks fun K _ lets exit t held => ?_
    refine later K (fun publishes => ?_) exit t held
    exact lets (Role.letsPublish_of_has has.2 publishes)
  · exact keeps_failStep keeps steps _
  · split
    next found => exact keeps_leave keeps steps found _
    next => exact keeps_leaveThread keeps steps (.ended ..) trivial _ _

/-- A machine that stops has kept what functions cannot change. -/
theorem Stops.keeps [shelter.IsClosed] {step : Step Exit} {result : Exit × State × Store}
    (stops : Stops m step result) (runs : Next.Runs shelter J (m, step)) :
    ThreadsKeep shelter J result.2.1.threads ∧ J result.2.2 := by
  induction stops with
  | @now m step result found =>
      obtain ⟨role, machine, step⟩ := runs
      unfold stopped? at found
      split at found
      · cases found
        exact ⟨machine.threads, step.1⟩
      · cases found
  | later notYet stops ih => exact ih runs.advance.runs_of_isClosed

end Answers

end LuaSession.Machine
