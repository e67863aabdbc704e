import LuaSession.Library.Functions
import LuaSession.Proofs.Failure.Description
import LuaSession.Proofs.Script.Running

/-!
# Writing to the adapter

A write publishes one message for all its arguments, or none: the arguments are turned into
text before anything is given out, and the first one that is no text refuses the whole
write. Before that they are taken over from the script, where a panic among them goes on.
-/

namespace LuaSession.Library

open LuaSession.Script

namespace Hosted

/-- A value that is written as text: a string or a number. -/
def IsText (value : Value) : Prop := value.typeName = "string" ∨ value.typeName = "number"

/-- The text of a value, put into UTF-8 on its own. -/
def written (value : Value) : String := Utf8.lossy (value.toBytes?.getD ByteArray.empty)

/-- A panic that nobody has been told about. -/
def IsPanic (s : Store) (value : Value) : Prop :=
  ∃ ref text, value = .handle ref ∧ s.resource ref = .panic text

/-- What the host sees in a value: nothing in a panic that has been told about. -/
def seen (s : Store) : Value → Value
  | .handle ref =>
      match s.resource ref with
      | .spentPanic => .nil
      | _ => .handle ref
  | value => value

variable {s : Store}

theorem IsText.toBytes?_eq {value : Value} (isText : IsText value) :
    ∃ bytes, value.toBytes? = some bytes := by
  cases value <;> first | exact ⟨_, rfl⟩ | simp [IsText, Value.typeName] at isText

theorem IsText.not_isPanic {value : Value} (isText : IsText value) : ¬ IsPanic s value := by
  rintro ⟨ref, text, rfl, -⟩
  simp [IsText, Value.typeName] at isText

theorem toBytes?_eq_none {value : Value} (noText : ¬ IsText value) : value.toBytes? = none := by
  cases value <;> first | rfl | simp [IsText, Value.typeName] at noText

theorem seen_of_isText {value : Value} (isText : IsText value) : seen s value = value := by
  cases value <;> first | rfl | simp [IsText, Value.typeName] at isText

theorem not_isText_seen {value : Value} (noText : ¬ IsText value) : ¬ IsText (seen s value) := by
  cases value with
  | handle ref =>
      rw [seen]
      split <;> simp [IsText, Value.typeName]
  | _ => exact noText

/-! ## What is said of an argument -/

/-- What is told about an argument that is no text. -/
def refusal (position : Nat) (typeName : String) : String :=
  "bad argument #" ++ toString position ++ " to 'write' (string expected, got " ++ typeName ++ ")"

/-- The step raises a failure of the host's of which a user is told a message, and does
nothing else. -/
def Refuses {α : Type} (s : Store) (message : String) (step : Step α) : Prop :=
  ∃ failure, step = .fail (.error (.handle s.heap.resources.size))
      (s.newResource (.failure failure)).2 ∧
    failure.root = .runtime message ∧ failure.describe = message

theorem lineBreak_not_mem_typeName (value : Value) :
    '\n' ∉ (Conversion.typeName s value).toList := by
  cases value with
  | handle ref =>
      rw [Conversion.typeName]
      split <;> decide
  | _ => simp [Conversion.typeName, Value.typeName]

/-- A refusal stands on one line, so nothing is cut off from it. -/
theorem describe_unwritable (position : Nat) (value : Value) :
    (unwritable position (Conversion.typeName s value)).describe =
      refusal position (Conversion.typeName s value) := by
  refine Failure.cutTraceback_eq_self fun starts => ?_
  have isBreak : '\n' ∈ ("bad argument #" ++ toString position ++
      " to 'write' (string expected, got " ++ Conversion.typeName s value ++ ")").toList :=
    starts.subset List.mem_cons_self
  have noDigit : '\n' ∉ Nat.toDigits 10 position := fun member =>
    absurd (Nat.isDigit_of_mem_toDigits (by decide) (by decide) member) (by decide)
  have noName := lineBreak_not_mem_typeName (s := s) value
  simp [noDigit, noName] at isBreak

/-! ## The arguments -/

section Arguments

theorem takeArguments_cons_calm {value : Value} (calm : ¬ IsPanic s value) (rest : List Value)
    (done : Array Value) :
    takeArguments (value :: rest) done s = takeArguments rest (done.push (seen s value)) s := by
  cases value with
  | handle ref =>
      simp only [takeArguments, Run.read_bind, seen]
      cases isWhat : s.resource ref with
      | panic text => exact absurd ⟨ref, text, rfl, isWhat⟩ calm
      | _ => rfl
  | _ => rfl

/-- Without a panic among them, all arguments are taken over. -/
theorem takeArguments_calm {values : List Value} (calm : ∀ value ∈ values, ¬ IsPanic s value)
    (done : Array Value) :
    takeArguments values done s = .done (done ++ (values.map (seen s)).toArray) s := by
  induction values generalizing done with
  | nil =>
      rw [takeArguments, List.map_nil, Array.append_empty]
      rfl
  | cons value rest ih =>
      rw [List.forall_mem_cons] at calm
      rw [takeArguments_cons_calm calm.1, ih calm.2]
      simp

/-- The first panic among the arguments goes on. -/
theorem takeArguments_panic {before : List Value} (calm : ∀ value ∈ before, ¬ IsPanic s value)
    {ref : Nat} {text : Option String} (isPanic : s.resource ref = .panic text)
    (after : List Value) (done : Array Value) :
    takeArguments (before ++ .handle ref :: after) done s =
      raisePanic text (s.setResource ref .spentPanic) := by
  induction before generalizing done with
  | nil =>
      simp only [List.nil_append, takeArguments, Run.read_bind, isPanic]
      rfl
  | cons value rest ih =>
      rw [List.forall_mem_cons] at calm
      rw [List.cons_append, takeArguments_cons_calm calm.1]
      exact ih calm.2 _

end Arguments

/-! ## The text -/

section Text

theorem writtenText_cons {value : Value} (isText : IsText value) (position : Nat)
    (rest : List Value) :
    writtenText s position (value :: rest) =
      (writtenText s (position + 1) rest).map (written value ++ ·) := by
  obtain ⟨bytes, same⟩ := isText.toBytes?_eq
  rw [writtenText, same, written, same]
  rfl

/-- Texts are put together in their order. -/
theorem writtenText_texts {values : List Value} (texts : ∀ value ∈ values, IsText value)
    (position : Nat) :
    writtenText s position values = .ok (String.join (values.map written)) := by
  induction values generalizing position with
  | nil => rfl
  | cons value rest ih =>
      rw [List.forall_mem_cons] at texts
      rw [writtenText_cons texts.1, ih texts.2, List.map_cons, String.join_cons]
      rfl

/-- The first value that is no text is refused. -/
theorem writtenText_refuses {before : List Value} (texts : ∀ value ∈ before, IsText value)
    {value : Value} (noText : ¬ IsText value) (after : List Value) (position : Nat) :
    writtenText s position (before ++ value :: after) =
      .error (unwritable (position + before.length) (Conversion.typeName s value)) := by
  induction before generalizing position with
  | nil => rw [List.nil_append, writtenText, toBytes?_eq_none noText]; rfl
  | cons first rest ih =>
      rw [List.forall_mem_cons] at texts
      rw [List.cons_append, writtenText_cons texts.1, ih texts.2, List.length_cons,
        Nat.add_assoc, Nat.add_comm 1]
      rfl

end Text

/-! ## A write -/

section Write

variable {ref : Nat}

theorem map_seen_texts {arguments : List Value} (texts : ∀ value ∈ arguments, IsText value) :
    arguments.map (seen s) = arguments :=
  (List.map_congr_left fun value member => seen_of_isText (texts value member)).trans
    (List.map_id _)

variable (isAdapter : s.resource ref = .adapter)
include isAdapter

theorem not_isPanic_adapter : ¬ IsPanic s (.handle ref) := by
  rintro ⟨other, text, ⟨⟩, isPanic⟩
  rw [isAdapter] at isPanic
  cases isPanic

theorem receiver_adapter (rest : List Value) :
    receiver "write" (.handle ref :: rest).toArray s = .done ref s := by
  have given : argument (.handle ref :: rest).toArray 1 = .handle ref := rfl
  simp only [receiver, convert, given, Run.read_bind, Conversion.resource, isAdapter]
  rfl

theorem write_of_writtenText {arguments : List Value} {text : String}
    (made : writtenText s 1 arguments = .ok text) :
    write (.handle ref :: arguments).toArray s = .done #[.handle ref] (s.emit (.written text)) := by
  rw [write, Run.bind_of_done (receiver_adapter isAdapter arguments)]
  simp only [List.drop_succ_cons, List.drop_zero, Run.read_bind, made, isAdapter]
  rfl

theorem write_of_error {arguments : List Value} {failure : Failure}
    (refused : writtenText s 1 arguments = .error failure) :
    write (.handle ref :: arguments).toArray s = Packages.raiseFailure failure s := by
  rw [write, Run.bind_of_done (receiver_adapter isAdapter arguments)]
  simp only [List.drop_succ_cons, List.drop_zero, Run.read_bind, refused]

/-- Without a panic among its arguments, a write sees them all. -/
theorem runBuiltin_write (caller : Caller) {arguments : List Value}
    (calm : ∀ value ∈ arguments, ¬ IsPanic s value) :
    runBuiltin (.adapter .write) caller (.handle ref :: arguments).toArray s =
      write (.handle ref :: arguments.map (seen s)).toArray s := by
  have taken := takeArguments_calm
    (List.forall_mem_cons.mpr ⟨not_isPanic_adapter isAdapter, calm⟩) #[]
  have same : seen s (.handle ref) = .handle ref := by simp [seen, isAdapter]
  rw [List.map_cons, same] at taken
  refine (Run.bind_of_done taken).trans ?_
  rw [Array.empty_append]

/-- A write of texts publishes them as one message and gives the adapter back. -/
theorem write_texts (caller : Caller) {arguments : List Value}
    (texts : ∀ value ∈ arguments, IsText value) :
    runBuiltin (.adapter .write) caller (.handle ref :: arguments).toArray s =
      .done #[.handle ref] (s.emit (.written (String.join (arguments.map written)))) := by
  rw [runBuiltin_write isAdapter caller fun value member => (texts value member).not_isPanic,
    map_seen_texts texts]
  exact write_of_writtenText isAdapter (writtenText_texts texts 1)

/-- A write of anything else raises what is said of the first argument that is no text. -/
theorem write_refuses (caller : Caller) {before after : List Value} {value : Value}
    (texts : ∀ earlier ∈ before, IsText earlier) (noText : ¬ IsText value)
    (calm : ∀ argument ∈ before ++ value :: after, ¬ IsPanic s argument) :
    Refuses s (refusal (before.length + 1) (Conversion.typeName s (seen s value)))
      (runBuiltin (.adapter .write) caller
        (.handle ref :: (before ++ value :: after)).toArray s) := by
  have refused := writtenText_refuses (s := s) texts (not_isText_seen (s := s) noText)
    (after.map (seen s)) 1
  rw [runBuiltin_write isAdapter caller calm, List.map_append, List.map_cons, map_seen_texts texts,
    write_of_error isAdapter refused, Nat.add_comm 1]
  exact ⟨_, rfl, rfl, describe_unwritable _ _⟩

/-- The first panic among the arguments of a write goes on. -/
theorem write_panics (caller : Caller) {before : List Value}
    (calm : ∀ earlier ∈ before, ¬ IsPanic s earlier) {panicked : Nat} {text : Option String}
    (isPanic : s.resource panicked = .panic text) (after : List Value) :
    runBuiltin (.adapter .write) caller
        (.handle ref :: (before ++ .handle panicked :: after)).toArray s =
      raisePanic text (s.setResource panicked .spentPanic) :=
  Run.bind_of_fail (takeArguments_panic
    (List.forall_mem_cons.mpr ⟨not_isPanic_adapter isAdapter, calm⟩) isPanic after #[])

end Write

/-! ## Writes one behind the other -/

/-- Writes one behind the other, each one to what the one before it has given back. -/
def chain (caller : Caller) (receiver : Value) : List (List Value) → Run Value
  | [] => return receiver
  | arguments :: rest => do
      let results ← runBuiltin (.adapter .write) caller (receiver :: arguments).toArray
      chain caller (firstOf results) rest

/-- A store in which some texts have been written. -/
def publishing (s : Store) (calls : List (List Value)) : Store :=
  { s with world := { s.world with
      emitted := s.world.emitted ++
        (calls.map fun arguments => .written (String.join (arguments.map written))).toArray } }

theorem publishing_cons (arguments : List Value) (rest : List (List Value)) :
    publishing (s.emit (.written (String.join (arguments.map written)))) rest =
      publishing s (arguments :: rest) := by
  simp [publishing, Store.emit]

/-- Where not all values have a property, one is the first that has it not. -/
theorem exists_first_not {property : Value → Prop} {values : List Value}
    (fails : ¬ ∀ value ∈ values, property value) :
    ∃ before value after, values = before ++ value :: after ∧
      (∀ earlier ∈ before, property earlier) ∧ ¬ property value := by
  induction values with
  | nil => exact absurd (List.forall_mem_nil _) fails
  | cons value rest ih =>
      by_cases has : property value
      · obtain ⟨before, later, after, rfl, fine, lacks⟩ :=
          ih fun all => fails (List.forall_mem_cons.mpr ⟨has, all⟩)
        exact ⟨value :: before, later, after, rfl, List.forall_mem_cons.mpr ⟨has, fine⟩, lacks⟩
      · exact ⟨[], value, rest, rfl, List.forall_mem_nil _, has⟩

section Chain

variable {ref : Nat} (isAdapter : s.resource ref = .adapter)
include isAdapter

/-- A write that fails has written nothing. -/
theorem write_fails (caller : Caller) {arguments : List Value}
    (noTexts : ¬ ∀ value ∈ arguments, IsText value) :
    ∃ raised t, runBuiltin (.adapter .write) caller (.handle ref :: arguments).toArray s =
      .fail raised t ∧ t.world = s.world := by
  by_cases calm : ∀ value ∈ arguments, ¬ IsPanic s value
  · obtain ⟨before, value, after, rfl, texts, noText⟩ := exists_first_not noTexts
    obtain ⟨failure, fails, -⟩ := write_refuses isAdapter caller texts noText calm
    exact ⟨_, _, fails, rfl⟩
  · obtain ⟨before, value, after, rfl, quiet, panics⟩ := exists_first_not calm
    obtain ⟨panicked, text, rfl, isPanic⟩ := Classical.not_not.mp panics
    exact ⟨_, _, write_panics isAdapter caller quiet isPanic after, rfl⟩

theorem chain_append (caller : Caller) {calls : List (List Value)}
    (texts : ∀ arguments ∈ calls, ∀ value ∈ arguments, IsText value) (rest : List (List Value)) :
    chain caller (.handle ref) (calls ++ rest) s =
      chain caller (.handle ref) rest (publishing s calls) := by
  induction calls generalizing s with
  | nil => simp [publishing]
  | cons arguments calls ih =>
      rw [List.forall_mem_cons] at texts
      rw [List.cons_append, chain, Run.bind_of_done (write_texts isAdapter caller texts.1),
        ← publishing_cons]
      exact ih isAdapter texts.2

end Chain

/-- What a write does. Strings and numbers are published together, as one message, each put
into UTF-8 on its own, and the adapter is given back. With anything else among the arguments
nothing is published, and the first such argument is refused by its number and its type;
but a panic among them that nobody has been told about goes on before that, and one that
has been told about counts as `nil`. Writes one behind the other publish their messages in
order up to the first one that fails. -/
theorem write_contract {ref : Nat} (isAdapter : s.resource ref = .adapter) (caller : Caller) :
    (∀ arguments, (∀ value ∈ arguments, IsText value) →
      runBuiltin (.adapter .write) caller (.handle ref :: arguments).toArray s =
        .done #[.handle ref] (s.emit (.written (String.join (arguments.map written))))) ∧
    (∀ before value after, (∀ earlier ∈ before, IsText earlier) → ¬ IsText value →
      (∀ argument ∈ before ++ value :: after, ¬ IsPanic s argument) →
      Refuses s (refusal (before.length + 1) (Conversion.typeName s (seen s value)))
        (runBuiltin (.adapter .write) caller
          (.handle ref :: (before ++ value :: after)).toArray s)) ∧
    (∀ before panicked text after, (∀ earlier ∈ before, ¬ IsPanic s earlier) →
      s.resource panicked = .panic text →
      runBuiltin (.adapter .write) caller
          (.handle ref :: (before ++ .handle panicked :: after)).toArray s =
        raisePanic text (s.setResource panicked .spentPanic)) ∧
    (∀ calls, (∀ arguments ∈ calls, ∀ value ∈ arguments, IsText value) →
      chain caller (.handle ref) calls s = .done (.handle ref) (publishing s calls) ∧
      ∀ arguments rest, (¬ ∀ value ∈ arguments, IsText value) →
        ∃ raised t, chain caller (.handle ref) (calls ++ arguments :: rest) s = .fail raised t ∧
          t.world = (publishing s calls).world) := by
  refine ⟨fun arguments texts => write_texts isAdapter caller texts,
    fun before value after texts noText calm => write_refuses isAdapter caller texts noText calm,
    fun before panicked text after calm isPanic =>
      write_panics isAdapter caller calm isPanic after,
    fun calls texts => ⟨?_, fun arguments rest noTexts => ?_⟩⟩
  · have goes := chain_append isAdapter caller texts []
    rwa [List.append_nil] at goes
  · have isAdapter' : (publishing s calls).resource ref = .adapter := isAdapter
    obtain ⟨raised, t, fails, same⟩ := write_fails isAdapter' caller noTexts
    refine ⟨raised, t, ?_, same⟩
    rw [chain_append isAdapter caller texts, chain, Run.bind_of_fail fails]

/-- A store with an adapter, a panic that nobody has been told about and one that has been
told about. -/
def threeResources : Store :=
  { heap := { resources := #[.adapter, .panic (some "host bug"), .spentPanic] } }

theorem write_contract_mixed :
    let write (arguments : List Value) :=
      runBuiltin (.adapter .write) default (.handle 0 :: arguments).toArray threeResources
    write [.ofString "n=", .int 42, .str ⟨#[0xC3]⟩] =
        .done #[.handle 0] (threeResources.emit (.written "n=42\uFFFD")) ∧
      Refuses threeResources "bad argument #2 to 'write' (string expected, got nil)"
        (write [.int 42, .handle 2, .table 0]) ∧
      write [.table 0, .handle 1] =
        raisePanic (some "host bug") (threeResources.setResource 1 .spentPanic) ∧
      ∃ raised t, chain default (.handle 0) [[.ofString "a"], [.nil], [.ofString "b"]]
          threeResources = .fail raised t ∧ t.world.emitted = #[.written "a"] := by
  have isAdapter : threeResources.resource 0 = .adapter := rfl
  obtain ⟨texts, refuses, panics, chains⟩ := write_contract isAdapter default
  refine ⟨?_, ?_, ?_, ?_⟩
  · have shown : String.join ([Value.ofString "n=", .int 42, .str ⟨#[0xC3]⟩].map written) =
        "n=42\uFFFD" := by decide +kernel
    rw [← shown]
    exact texts _ (by simp [IsText, Value.ofString, Value.typeName])
  · exact refuses [.int 42] (.handle 2) [.table 0] (by simp [IsText, Value.typeName])
      (by simp [IsText, Value.typeName]) (by simp [IsPanic, Store.resource, threeResources])
  · exact panics [.table 0] 1 (some "host bug") [] (by simp [IsPanic]) rfl
  · obtain ⟨raised, t, fails, world⟩ := (chains [[.ofString "a"]]
      (by simp [IsText, Value.ofString, Value.typeName])).2 [.nil] [[.ofString "b"]]
      (by simp [IsText, Value.typeName])
    refine ⟨raised, t, fails, ?_⟩
    have shown : written (.ofString "a") = "a" := by decide +kernel
    rw [world]
    simp [publishing, shown, threeResources]

/-- A panic among the arguments keeps what is said of an argument before it from being
raised. -/
theorem write_panic_refuses_nothing :
    ¬ ∀ (s : Store) (ref : Nat) (caller : Caller) (before : List Value) (value : Value)
        (after : List Value), s.resource ref = .adapter →
      (∀ earlier ∈ before, IsText earlier) → ¬ IsText value →
      Refuses s (refusal (before.length + 1) (Conversion.typeName s value))
        (runBuiltin (.adapter .write) caller
          (.handle ref :: (before ++ value :: after)).toArray s) := by
  intro always
  obtain ⟨failure, fails, -⟩ := always threeResources 0 default [] (.table 0) [.handle 1] rfl
    (by simp) (by simp [IsText, Value.typeName])
  have calm : ∀ earlier ∈ [Value.table 0], ¬ IsPanic threeResources earlier := by
    simp [IsPanic]
  have isAdapter : threeResources.resource 0 = .adapter := rfl
  have isPanic : threeResources.resource 1 = .panic (some "host bug") := rfl
  have goesOn := write_panics isAdapter default calm isPanic []
  rw [List.nil_append] at fails
  rw [List.singleton_append, fails] at goesOn
  injection goesOn with _ same
  have raised := congrArg (fun t => t.resource 3) same
  cases raised

end Hosted

end LuaSession.Library
