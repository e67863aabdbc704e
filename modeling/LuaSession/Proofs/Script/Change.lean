import LuaSession.Library.Loading
import LuaSession.Script.Evaluate

/-!
# What scripts can do to a store

Whatever a script does to the store, it does by small changes of a few kinds:
it puts values into tables and variables, makes new ones, gives out messages,
works on files. A property of stores that each kind of change keeps is kept by
everything that scripts do.

Only functions that are written in scripts assign variables or capture them. The
functions of the libraries make fewer changes, their effects.
-/

namespace LuaSession.Script

/-- There is a function of the host that publishes. -/
def Store.HasPublisher (s : Store) : Prop :=
  ∃ ref function setting, s.native ref = .host function setting ∧
    (function = .publish ∨ function = .execute)

/-- One change that scripts can make.

The functions of the host are made by the host only, and so are the tables that
are always there. What such functions publish is left out. -/
inductive Change : Store → Store → Prop where
  | frame (s : Store) (frame : Frame) : Change s (s.withFrame frame)
  | charge (s : Store) (charge : Nat) : Change s { s with charge }
  | newTable (s : Store) (table : Table) : Change s (s.newTable table).2
  | put (s : Store) (ref : Nat) (key value : Value) : Change s (s.put ref key value)
  | fill (s : Store) (ref : Nat) (values : Array Value) :
      Change s (s.modifyTable ref (·.fill values))
  | metatable (s : Store) (ref : Nat) (metatable : Option Nat) :
      Change s (s.modifyTable ref fun t => { t with metatable })
  | sweep (s : Store) (ref : Nat) (test : Value → Value → Bool) : Change s (s.sweep ref test)
  | newClosure (s : Store) (closure : Closure) : Change s (s.newClosure closure).2
  | newCell (s : Store) (value : Value) : Change s (s.newCell value).2
  | setCell (s : Store) (ref : Nat) (value : Value) : Change s (s.setCell ref value)
  | newNative (s : Store) (native : Native)
      (own : ∀ function setting, native ≠ .host function setting) : Change s (s.newNative native).2
  | setNative (s : Store) (ref : Nat) (native : Native)
      (own : ∀ function setting, native ≠ .host function setting) : Change s (s.setNative ref native)
  | newResource (s : Store) (resource : Resource) : Change s (s.newResource resource).2
  | setResource (s : Store) (ref : Nat) (resource : Resource) : Change s (s.setResource ref resource)
  | newThread (s : Store) : Change s s.newThread.2
  | threadStatus (s : Store) (ref : Nat) (status : ThreadStatus) :
      Change s (s.setThreadStatus ref status)
  | thread (s : Store) (thread : Nat) : Change s { s with thread }
  | compiled (s : Store) (code : Code) : Change s (Compiled.encode s code).2
  | written (s : Store) (text : String) : Change s (s.emit (.written text))
  | world (s : Store) (world : World) (same : world.emitted = s.world.emitted) :
      Change s { s with world }
  | defaultFiles (s : Store) (defaultInput defaultOutput : Nat) :
      Change s { s with registry := { s.registry with defaultInput, defaultOutput } }
  | collecting (s : Store) (collecting : Collecting) (collectorRuns : Bool) :
      Change s { s with collecting, collectorRuns }
  | finalizable (s : Store) (finalizable : List Value) : Change s { s with finalizable }

/-- Publishing a text does not lose the property. -/
def LetsPublish (J : Store → Prop) : Prop :=
  ∀ {s : Store} (text : String), J s → J (s.emit (.published text))

/-- A property of stores that scripts cannot change. -/
class Stable (J : Store → Prop) : Prop where
  change : ∀ {s t : Store}, Change s t → J s → J t
  publish : ∀ {before : Store}, J before → before.HasPublisher → LetsPublish J

/-- It is a file. -/
def Resource.IsFile : Resource → Prop
  | .file _ => True
  | _ => False

/-- One change that the functions of the libraries make. They leave the frame, the
variables and the closures that there are alone; the adapter stays one, and files stay
files. -/
inductive Effect : Store → Store → Prop where
  | charge (s : Store) (charge : Nat) : Effect s { s with charge }
  | newTable (s : Store) (table : Table) : Effect s (s.newTable table).2
  | put (s : Store) (ref : Nat) (key value : Value) : Effect s (s.put ref key value)
  | fill (s : Store) (ref : Nat) (values : Array Value) :
      Effect s (s.modifyTable ref (·.fill values))
  | metatable (s : Store) (ref : Nat) (metatable : Option Nat) :
      Effect s (s.modifyTable ref fun t => { t with metatable })
  | sweep (s : Store) (ref : Nat) (test : Value → Value → Bool) : Effect s (s.sweep ref test)
  | script (s : Store) (code : Code) (environment : Option Value) :
      Effect s (Library.Loading.closureOf s code environment).2
  | newNative (s : Store) (native : Native)
      (own : ∀ function setting, native ≠ .host function setting) : Effect s (s.newNative native).2
  | setNative (s : Store) (ref : Nat) (native : Native)
      (own : ∀ function setting, native ≠ .host function setting) : Effect s (s.setNative ref native)
  | newResource (s : Store) (resource : Resource) : Effect s (s.newResource resource).2
  | setResource (s : Store) (ref : Nat) (resource : Resource) (other : s.resource ref ≠ .adapter)
      (stays : (s.resource ref).IsFile → resource.IsFile) : Effect s (s.setResource ref resource)
  | newThread (s : Store) : Effect s s.newThread.2
  | threadStatus (s : Store) (ref : Nat) (status : ThreadStatus) :
      Effect s (s.setThreadStatus ref status)
  | thread (s : Store) (thread : Nat) : Effect s { s with thread }
  | compiled (s : Store) (code : Code) : Effect s (Compiled.encode s code).2
  | written (s : Store) (text : String) : Effect s (s.emit (.written text))
  | world (s : Store) (world : World) (same : world.emitted = s.world.emitted) :
      Effect s { s with world }
  | defaultFiles (s : Store) (defaultInput defaultOutput : Nat) :
      Effect s { s with registry := { s.registry with defaultInput, defaultOutput } }
  | collecting (s : Store) (collecting : Collecting) (collectorRuns : Bool) :
      Effect s { s with collecting, collectorRuns }
  | finalizable (s : Store) (finalizable : List Value) : Effect s { s with finalizable }

/-- A property of stores that the functions of the libraries cannot change. -/
class Lasting (J : Store → Prop) : Prop where
  effect : ∀ {s t : Store}, Effect s t → J s → J t
  publish : ∀ {before : Store}, J before → before.HasPublisher → LetsPublish J

/-- New variables of a function change nothing but the variables. -/
theorem Stable.newCells {J : Store → Prop} [Stable J] {s : Store} (kept : J s)
    (environment : Option Value) (count : Nat) :
    J (Library.Loading.newCells s environment count).2 := by
  unfold Library.Loading.newCells
  generalize (#[] : Array Nat) = cells
  induction List.range count generalizing s cells with
  | nil => exact kept
  | cons index rest ih => exact ih (change (.newCell s _) kept) _

/-- What scripts cannot change, the functions of the libraries cannot. -/
instance {J : Store → Prop} [Stable J] : Lasting J where
  publish := Stable.publish
  effect := by
    intro s t effect kept
    cases effect with
    | charge charge => exact Stable.change (.charge s charge) kept
    | newTable table => exact Stable.change (.newTable s table) kept
    | put ref key value => exact Stable.change (.put s ref key value) kept
    | fill ref values => exact Stable.change (.fill s ref values) kept
    | metatable ref metatable => exact Stable.change (.metatable s ref metatable) kept
    | sweep ref test => exact Stable.change (.sweep s ref test) kept
    | script code environment =>
        exact Stable.change (.newClosure _ _) (Stable.newCells kept environment _)
    | newNative native own => exact Stable.change (.newNative s native own) kept
    | setNative ref native own => exact Stable.change (.setNative s ref native own) kept
    | newResource resource => exact Stable.change (.newResource s resource) kept
    | setResource ref resource _ _ => exact Stable.change (.setResource s ref resource) kept
    | newThread => exact Stable.change (.newThread s) kept
    | threadStatus ref status => exact Stable.change (.threadStatus s ref status) kept
    | thread thread => exact Stable.change (.thread s thread) kept
    | compiled code => exact Stable.change (.compiled s code) kept
    | written text => exact Stable.change (.written s text) kept
    | world world same => exact Stable.change (.world s world same) kept
    | defaultFiles input output => exact Stable.change (.defaultFiles s input output) kept
    | collecting collecting runs => exact Stable.change (.collecting s collecting runs) kept
    | finalizable values => exact Stable.change (.finalizable s values) kept

end LuaSession.Script
