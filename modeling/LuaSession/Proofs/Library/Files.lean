import LuaSession.Proofs.Library.Writing
import LuaSession.Proofs.Script.Table

/-!
# Choosing files and writing to them

The library's own function chooses the file that output goes to: it gives the handle of a
file, or it fails. Writing to a file publishes nothing, whatever is written, and writing to
the adapter leaves all files as they are. None of these functions calls another one.
-/

namespace LuaSession

open LuaSession.Script

/-! ## Computations that ask for nothing -/

namespace Script

/-- A step that asks for nothing: a value that is as it should be, or a failure. -/
def Step.Settles {α : Type} (P : α → Store → Prop) (Q : Store → Prop) : Step α → Prop
  | .done value store => P value store
  | .fail _ store => Q store
  | .ask .. => False

namespace Step.Settles

variable {α β : Type} {P : α → Store → Prop} {R : β → Store → Prop} {Q : Store → Prop}

theorem bind {step : Step α} {f : α → Store → Step β} (settles : step.Settles P Q)
    (later : ∀ value t, P value t → (f value t).Settles R Q) : (step.bind f).Settles R Q := by
  cases step with
  | done value t => exact later value t settles
  | fail raised t => exact settles
  | ask request t resume => exact settles.elim

theorem mono {P' : α → Store → Prop} {Q' : Store → Prop} {step : Step α}
    (settles : step.Settles P Q) (values : ∀ value t, P value t → P' value t)
    (fails : ∀ t, Q t → Q' t) : step.Settles P' Q' := by
  cases step with
  | done value t => exact values value t settles
  | fail raised t => exact fails t settles
  | ask request t resume => exact settles.elim

end Step.Settles

namespace Run

variable {α β : Type} {J : Store → Prop}

/-- A computation that is begun in a store asks for nothing: it comes to a value that is as it
should be, or it fails. -/
def Settles (run : Run α) (s : Store) (P : α → Store → Prop) (Q : Store → Prop) : Prop :=
  (run s).Settles P Q

theorem settles_read_bind {f : Store → β} {later : β → Run α} {s : Store}
    {P : α → Store → Prop} {Q : Store → Prop} (settles : (later (f s)).Settles s P Q) :
    (read f >>= later).Settles s P Q :=
  settles

theorem settles_ite {condition : Prop} [Decidable condition] {first second : Run α} {s : Store}
    {P : α → Store → Prop} {Q : Store → Prop} (yes : first.Settles s P Q)
    (no : second.Settles s P Q) : (if condition then first else second).Settles s P Q := by
  split
  · exact yes
  · exact no

theorem Settles.bind {first : Run α} {f : α → Run β} {s : Store} {P : α → Store → Prop}
    {R : β → Store → Prop} {Q : Store → Prop} (settles : first.Settles s P Q)
    (later : ∀ value t, P value t → (f value).Settles t R Q) : (first >>= f).Settles s R Q :=
  Step.Settles.bind settles later

/-- A computation asks for nothing, and keeps a property of stores. -/
def Leaves (J : Store → Prop) (run : Run α) : Prop :=
  ∀ s, J s → run.Settles s (fun _ => J) J

/-- A computation fails and does nothing else. -/
def Fails (run : Run α) : Prop := ∀ s, ∃ raised, run s = .fail raised s

theorem Fails.settles {run : Run α} (fails : run.Fails) {s : Store} {P : α → Store → Prop} :
    run.Settles s P (· = s) := by
  obtain ⟨raised, failed⟩ := fails s
  rw [Settles, failed]
  rfl

theorem Fails.leaves {run : Run α} (fails : run.Fails) : run.Leaves J := by
  intro s holds
  refine Step.Settles.mono fails.settles (fun _ _ found => found) ?_
  rintro t rfl
  exact holds

theorem fails_raise (value : Value) : (raise value : Run α).Fails := fun _ => ⟨_, rfl⟩

/-- What fails after something has been read off the store. -/
theorem fails_read_bind (f : Store → β) {later : β → Run α} (fails : ∀ value, (later value).Fails) :
    (read f >>= later).Fails := fun s => fails (f s) s

theorem Leaves.bind {first : Run α} {f : α → Run β} (leaves : first.Leaves J)
    (later : ∀ value, (f value).Leaves J) : (first >>= f).Leaves J :=
  fun s holds => Settles.bind (leaves s holds) fun value t => later value t

theorem leaves_pure (value : α) : (pure value : Run α).Leaves J := fun _ holds => holds

theorem leaves_read (f : Store → α) : (read f).Leaves J := fun _ holds => holds

theorem leaves_modify {change : Store → Store} (keeps : ∀ s, J s → J (change s)) :
    (modify change).Leaves J := keeps

theorem leaves_ite {condition : Prop} [Decidable condition] {first second : Run α}
    (yes : first.Leaves J) (no : second.Leaves J) :
    (if condition then first else second).Leaves J :=
  fun s holds => settles_ite (yes s holds) (no s holds)

end Run

end Script

namespace Library

open Script.Run

variable {J : Store → Prop}

/-! ## Arguments -/

section Arguments

variable {α : Type} (caller : Caller) (arguments : Array Value) (index : Nat)

theorem Caller.fails_failBytes (message : Bytes) : (caller.failBytes message : Run α).Fails :=
  fails_raise _

theorem fails_argError (message : Bytes) : (argError caller index message : Run α).Fails := by
  unfold argError
  dsimp only
  split
  · split
    · exact caller.fails_failBytes _
    · exact caller.fails_failBytes _
  · split
    · exact caller.fails_failBytes _
    · exact fails_read_bind _ fun found => caller.fails_failBytes _

theorem fails_typeFail (wanted : String) : (typeFail caller arguments index wanted : Run α).Fails := by
  unfold typeFail
  split
  · exact fails_argError _ _ _
  · exact fails_read_bind _ fun got => fails_argError _ _ _

theorem leaves_bytesArgument : (bytesArgument caller arguments index).Leaves J := by
  unfold bytesArgument
  split
  · exact leaves_pure _
  · exact (fails_typeFail _ _ _ _).leaves

end Arguments

namespace Files

/-! ## Handles -/

/-- A handle is that of a file. -/
def IsFile (s : Store) (ref : Nat) : Prop := ∃ file, s.resource ref = .file file

variable {s t : Store} {ref : Nat}

/-- Handles that nothing is known of are no files. -/
theorem resource_eq_file_iff {file : File} :
    s.resource ref = .file file ↔ s.heap.resources[ref]? = some (.file file) := by
  rw [Store.resource, Array.getD_eq_getD_getElem?]
  cases s.heap.resources[ref]? with
  | none =>
      constructor
      · rintro ⟨⟩
      · rintro ⟨⟩
  | some resource => rw [Option.getD_some, Option.some.injEq]

theorem isFile_newHandle (file : File) :
    (newHandle file).Settles s (fun ref t => IsFile t ref) (fun _ => True) :=
  ⟨file, resource_eq_file_iff.mpr Array.getElem?_push_size⟩

section Handles

variable (caller : Caller) (arguments : Array Value)

/-- A handle that is an argument. -/
theorem settles_handleArgument : (handleArgument caller arguments).Settles s
    (fun ref t => t = s ∧ argument arguments 1 = .handle ref ∧ IsFile s ref) (· = s) := by
  unfold handleArgument
  split
  next ref given =>
    refine settles_read_bind ?_
    split
    next file found => exact ⟨rfl, given, file, found⟩
    next => exact (fails_typeFail _ _ _ _).settles
  next => exact (fails_typeFail _ _ _ _).settles

/-- The handle of an open file that is an argument. -/
theorem settles_openArgument : (openArgument caller arguments).Settles s
    (fun ref t => t = s ∧ argument arguments 1 = .handle ref ∧ IsFile s ref) (· = s) := by
  refine (settles_handleArgument caller arguments).bind fun ref t found => ?_
  obtain ⟨rfl, given, isFile⟩ := found
  exact settles_read_bind (settles_ite (caller.fails_failBytes _).settles ⟨rfl, given, isFile⟩)

end Handles

/-! ## Choosing a file -/

/-- Opening a file makes a handle, or there is no such file. -/
theorem settles_openFile (name : Bytes) (mode : Mode) : (openFile name mode).Settles s
    (fun opened t => ∀ ref, opened = .ok ref → IsFile t ref) (fun _ => True) := by
  have made (file : File) (t : Store) : ((newHandle file >>= fun ref => pure (.ok ref) :
      Run (Except DiskError Nat))).Settles t
        (fun opened t => ∀ ref, opened = .ok ref → IsFile t ref) (fun _ => True) := by
    refine (isFile_newHandle file).bind fun ref t isFile => ?_
    rintro other ⟨⟩
    exact isFile
  have failed (error : DiskError) (t : Store) : ((pure (.error error) :
      Run (Except DiskError Nat))).Settles t
        (fun opened t => ∀ ref, opened = .ok ref → IsFile t ref) (fun _ => True) := nofun
  unfold openFile
  refine settles_read_bind ?_
  dsimp only
  split
  · exact failed _ _
  · exact made _ _
  · split
    · exact failed _ _
    · exact made _ _
  · split
    · split <;> exact made _ _
    · split
      · exact failed _ _
      · exact made _ _

theorem settles_openOrFail (caller : Caller) (name : Bytes) (mode : Mode) :
    (openOrFail caller name mode).Settles s (fun ref t => IsFile t ref) (fun _ => True) := by
  refine (settles_openFile name mode).bind fun opened t isFile => ?_
  cases opened with
  | ok ref => exact isFile ref rfl
  | error error => trivial

/-- Told what output shall go to, the library's function gives the handle of a file: the one
that it has been given, or a new one. -/
theorem settles_output (caller : Caller) {value : Value} (given : value ≠ .nil) :
    (runBuiltin (.file .output) caller #[value]).Settles s
      (fun values t => ∃ ref, values = #[.handle ref] ∧ IsFile t ref ∧
        ∀ other, value = .handle other → other = ref) (fun _ => True) := by
  have notNil : ¬value.isNil := fun isNil => given (Script.Table.eq_nil_of_isNil isNil)
  have told {ref : Nat} {t : Store} (isFile : IsFile t ref)
      (same : ∀ other, value = .handle other → other = ref) :
      ((do
        Run.modify fun s => { s with registry := { s.registry with defaultOutput := ref } }
        return #[.handle (← Run.read fun s => s.registry.defaultOutput)] : Run (Array Value))).Settles t
          (fun values t => ∃ ref, values = #[.handle ref] ∧ IsFile t ref ∧
            ∀ other, value = .handle other → other = ref) (fun _ => True) :=
    ⟨ref, rfl, isFile, same⟩
  change (defaultFile caller #[value] ⟨false, true, false, true, false⟩ Registry.defaultOutput
    fun r ref => { r with defaultOutput := ref }).Settles s _ _
  unfold defaultFile
  have first : argument #[value] 1 = value := rfl
  simp only [first]
  rw [if_pos (by simpa using notNil)]
  split
  next name isName =>
    refine (settles_openOrFail caller name _).bind fun ref t isFile => told isFile ?_
    rintro other rfl
    cases isName
  next =>
    refine Settles.bind (Step.Settles.mono (settles_openArgument caller #[value])
      (fun _ _ found => found) fun _ _ => trivial) fun ref t found => ?_
    obtain ⟨rfl, isHandle, isFile⟩ := found
    refine told isFile fun other same => ?_
    cases same.symm.trans isHandle
    rfl

/-! ## Writing to a file -/

/-- Nothing is published, and of all handles only one has changed. -/
structure WritesTo (ref : Nat) (s t : Store) : Prop where
  emitted : t.world.emitted = s.world.emitted
  others : ∀ other, other ≠ ref → t.resource other = s.resource other

namespace WritesTo

theorem refl (ref : Nat) (s : Store) : WritesTo ref s s := ⟨rfl, fun _ _ => rfl⟩

theorem setFile (writes : WritesTo ref s t) (file : File) :
    WritesTo ref s (t.setResource ref (.file file)) where
  emitted := writes.emitted
  others other differs := by
    refine Eq.trans ?_ (writes.others other differs)
    simp only [Store.resource, Array.getD_eq_getD_getElem?]
    exact congrArg (Option.getD · default) (Array.getElem?_setIfInBounds_ne differs.symm)

theorem world (writes : WritesTo ref s t) {world : World}
    (silent : world.emitted = t.world.emitted) : WritesTo ref s { t with world } where
  emitted := silent.trans writes.emitted
  others := writes.others

end WritesTo

section Write

variable (caller : Caller) (arguments : Array Value) (ref : Nat) (s : Store)

theorem leaves_setFile (file : File) : (setFile ref file).Leaves (WritesTo ref s) :=
  leaves_modify fun t writes => by
    split
    · exact writes.setFile file
    · exact writes

theorem leaves_flush : (flush ref).Leaves (WritesTo ref s) :=
  leaves_modify fun t writes => by
    split
    next file _ =>
      split
      · exact writes
      · refine WritesTo.setFile (writes.world ?_) _
        split <;> rfl
    · exact writes

theorem leaves_write (bytes : Bytes) : (write ref bytes).Leaves (WritesTo ref s) := by
  unfold write
  refine (leaves_read _).bind fun file => leaves_ite (leaves_setFile _ _ _) ?_
  refine (leaves_setFile _ _ _).bind fun _ => (leaves_flush _ _).bind fun _ => ?_
  exact (leaves_read _).bind fun file => leaves_setFile _ _ _

theorem leaves_writeFrom (fuel index : Nat) :
    (writeFrom caller ref arguments fuel index).Leaves (WritesTo ref s) := by
  induction fuel generalizing index with
  | zero => exact leaves_pure _
  | succ fuel ih =>
      have next (bytes : Bytes) : (do
          write ref bytes
          writeFrom caller ref arguments fuel (index + 1)).Leaves (WritesTo ref s) :=
        (leaves_write ref s bytes).bind fun _ => ih _
      refine leaves_ite (leaves_pure _) ?_
      dsimp only
      split
      · exact next _
      · exact (leaves_bytesArgument _ _ _).bind next

theorem leaves_writeWith (first : Nat) :
    (writeWith caller ref arguments first).Leaves (WritesTo ref s) := by
  refine (leaves_read _).bind fun file => leaves_ite ?_ ?_
  · refine Leaves.bind (leaves_ite ?_ (leaves_pure _)) fun _ => leaves_pure _
    split
    · exact leaves_pure _
    · exact leaves_bytesArgument _ _ _
  · exact (leaves_writeFrom _ _ _ _ _ _).bind fun _ => leaves_pure _

/-- Writing to a file publishes nothing, and leaves the handles of all other files as they
are. -/
theorem settles_fileWrite : (runBuiltin (.fileMethod .write) caller (#[.handle ref] ++ arguments)).Settles s
    (fun _ t => WritesTo ref s t) (WritesTo ref s) := by
  have opened : (openArgument caller (#[.handle ref] ++ arguments)).Settles s
      (fun other t => t = s ∧ other = ref) (WritesTo ref s) := by
    refine Step.Settles.mono (settles_openArgument caller _) ?_ ?_
    · rintro other t ⟨rfl, given, _⟩
      have first : argument (#[.handle ref] ++ arguments) 1 = .handle ref := by
        rw [argument, Array.getD_eq_getD_getElem?, Array.getElem?_append_left Nat.zero_lt_one]
        rfl
      cases given.symm.trans first
      exact ⟨rfl, rfl⟩
    · rintro t rfl
      exact .refl ref t
  refine opened.bind ?_
  rintro other t ⟨rfl, rfl⟩
  exact leaves_writeWith caller _ other t 2 t (.refl other t)

end Write

/-! ## Writing to the adapter -/

/-- All files are as they have been, on the disk and where they are open. -/
structure Kept (s t : Store) : Prop where
  world : { t.world with emitted := s.world.emitted } = s.world
  files : ∀ (ref : Nat) (file : File), s.resource ref = .file file → t.resource ref = .file file

namespace Kept

theorem refl (s : Store) : Kept s s := ⟨rfl, fun _ _ isFile => isFile⟩

theorem newResource (kept : Kept s t) (resource : Resource) : Kept s (t.newResource resource).2 where
  world := kept.world
  files ref file isFile := by
    have found := resource_eq_file_iff.mp (kept.files ref file isFile)
    obtain ⟨inside, _⟩ := Array.getElem?_eq_some_iff.mp found
    refine resource_eq_file_iff.mpr ?_
    exact (Array.getElem?_push_lt inside).trans ((Array.getElem?_eq_getElem inside).symm.trans found)

/-- What is no file may change. -/
theorem setResource (kept : Kept s t) {changed : Nat} (other : ¬IsFile s changed)
    (resource : Resource) : Kept s (t.setResource changed resource) where
  world := kept.world
  files ref file isFile := by
    have differs : changed ≠ ref := by
      rintro rfl
      exact other ⟨file, isFile⟩
    refine resource_eq_file_iff.mpr ((Array.getElem?_setIfInBounds_ne differs).trans ?_)
    exact resource_eq_file_iff.mp (kept.files ref file isFile)

end Kept

open Hosted in
/-- Writing to the adapter publishes its arguments as one message and gives the adapter back,
or it fails and publishes nothing; files stay as they are. -/
theorem settles_adapterWrite (isAdapter : s.resource ref = .adapter) (caller : Caller)
    (arguments : Array Value) :
    (runBuiltin (.adapter .write) caller (#[.handle ref] ++ arguments)).Settles s
      (fun values t => values = #[.handle ref] ∧ Kept s t ∧ (∀ value ∈ arguments, IsText value) ∧
        t.world.emitted = s.world.emitted.push (.written (String.join (arguments.toList.map written))))
      (fun t => Kept s t ∧ t.world.emitted = s.world.emitted) := by
  have given : #[.handle ref] ++ arguments = (.handle ref :: arguments.toList).toArray := by simp
  rw [given]
  by_cases texts : ∀ value ∈ arguments.toList, IsText value
  · rw [Run.Settles, write_texts isAdapter caller texts]
    exact ⟨rfl, ⟨rfl, fun _ _ isFile => isFile⟩,
      fun value member => texts value (by simpa using member), rfl⟩
  · by_cases calm : ∀ value ∈ arguments.toList, ¬IsPanic s value
    · obtain ⟨before, value, after, same, texts, noText⟩ := exists_first_not texts
      rw [same] at calm ⊢
      obtain ⟨failure, fails, -⟩ := write_refuses isAdapter caller texts noText calm
      rw [Run.Settles, fails]
      exact ⟨(Kept.refl s).newResource _, rfl⟩
    · obtain ⟨before, value, after, same, quiet, panics⟩ := exists_first_not calm
      obtain ⟨panicked, text, rfl, isPanic⟩ := Classical.not_not.mp panics
      rw [same, Run.Settles, write_panics isAdapter caller quiet isPanic after]
      refine ⟨((Kept.refl s).setResource ?_ _).newResource _, rfl⟩
      rintro ⟨file, isFile⟩
      cases isFile.symm.trans isPanic

/-! ## What handles do -/

/-- The handles of files do what the libraries have them do: their metatable does not say
when they are equal, and has a table of methods, with the one that writes. -/
structure Intact (s : Store) : Prop where
  noEquality : (s.table s.registry.files).get Event.eq = .nil
  methods : ∃ methods, (s.table s.registry.files).get Event.index = .table methods ∧
    (s.table methods).get (.ofString "write") = .builtin (.fileMethod .write)

/-- Only the tables count. -/
theorem Intact.congr {s t : Store} (intact : Intact s) (tables : t.heap.tables = s.heap.tables)
    (registry : t.registry = s.registry) : Intact t := by
  obtain ⟨noEquality, methods, isIndex, write⟩ := intact
  have table (ref : Nat) : t.table ref = s.table ref := by rw [Store.table, tables, Store.table]
  constructor
  · rw [table, registry]
    exact noEquality
  · refine ⟨methods, ?_, ?_⟩
    · rw [table, registry]
      exact isIndex
    · rw [table]
      exact write

end Files

end Library

end LuaSession
