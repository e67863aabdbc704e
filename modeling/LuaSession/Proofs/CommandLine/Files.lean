import LuaSession.CommandLine
import LuaSession.Proofs.Bootstrap.Computing
import LuaSession.Proofs.Console.Transcript
import LuaSession.Proofs.Session.Output

/-!
# Script files on the command line

The program that gets script files runs them in one console, in the order of the arguments:
each one that can be read is executed whole, the others change nothing. The output of each
begins on a line of its own. Lines are read only when no file is named.
-/

namespace LuaSession

open LuaSession.Script

/-! ## Lines that are ended -/

namespace Transcript

/-- Where the transcript remembers no open line, it shows nothing or ends in a line break. -/
def IsTruthful (transcript : Transcript) : Prop :=
  transcript.lineOpen = false → transcript.text = "" ∨ EndsLine transcript.text

/-- The next text begins on a line of its own. -/
structure AtLineStart (transcript : Transcript) : Prop where
  closed : transcript.lineOpen = false
  fresh : transcript.text = "" ∨ EndsLine transcript.text

variable {transcript : Transcript}

theorem IsTruthful.write (truthful : transcript.IsTruthful) (given : String) :
    (transcript.write given).IsTruthful := by
  intro closed
  by_cases empty : given = ""
  · subst empty
    exact truthful closed
  · have ended : EndsLine given := by
      simpa [Transcript.write, String.isEmpty_iff, empty, endsWith_iff_endsLine] using closed
    obtain ⟨line, rfl⟩ := ended
    right
    exact ⟨transcript.text ++ line, by rw [text_write, String.append_assoc]⟩

theorem IsTruthful.writeAll (truthful : transcript.IsTruthful) (texts : List String) :
    (transcript.writeAll texts).IsTruthful := by
  induction texts generalizing transcript with
  | nil => exact truthful
  | cons text rest ih => exact ih (truthful.write text)

/-- Ending the line brings a transcript to the start of one. -/
theorem IsTruthful.endLine (truthful : transcript.IsTruthful) : transcript.endLine.AtLineStart := by
  refine ⟨lineOpen_endLine transcript, ?_⟩
  unfold Transcript.endLine
  split
  next isOpen =>
    right
    exact ⟨transcript.text, text_emit transcript "\n"⟩
  next closed => exact truthful (by simpa using closed)

end Transcript

namespace CommandLine

/-! ## The plan -/

/-- An argument that names a script file. -/
def NamesFile (argument : String) : Prop :=
  argument ≠ "" ∧ ∀ c rest, argument.toList ≠ '-' :: c :: rest

theorem readArguments_files {files : List String} (named : ∀ file ∈ files, NamesFile file)
    (plan : Plan) :
    readArguments false plan files = .ok { plan with files := plan.files ++ files } := by
  induction files generalizing plan with
  | nil => simp [readArguments]
  | cons file rest ih =>
      obtain ⟨⟨nonempty, plain⟩, others⟩ := List.forall_mem_cons.mp named
      have added : plan.addFile file = .ok { plan with files := plan.files.push file } :=
        if_neg (by simpa [String.isEmpty_iff] using nonempty)
      simp only [readArguments, Bool.false_eq_true, if_false]
      split
      next dashes => exact absurd dashes (plain _ _)
      next dashes => exact absurd dashes (plain _ _)
      next dash => exact absurd dash (plain _ _)
      next => simp [added, bind, Except.bind, ih others]

/-- The names of script files are a plan without settings. -/
theorem ofArguments_files {files : List String} (named : ∀ file ∈ files, NamesFile file) :
    Plan.ofArguments files = .ok { files := files.toArray } := by
  rw [Plan.ofArguments, readArguments_files named]
  simp

/-- The settings that a plan asks for. -/
def Plan.settings (plan : Plan) (disk : Disk) : Except HostError Settings :=
  match plan.config with
  | some path => Settings.ofFile (fileContents disk path)
  | none => .ok {}

end CommandLine

/-! ## Files in turn -/

namespace Console

open CommandLine

/-- A console whose scripts find another world. -/
def modifyWorld (console : Console) (f : World → World) : Console :=
  { console with session := console.session.modifyStore fun s => { s with world := f s.world } }

/-- What a console's scripts have written to the error stream is taken. -/
def takeErrors (console : Console) : Console :=
  console.modifyWorld fun world => { world with errors := ByteArray.empty }

/-- The console after the turn of a script file. -/
def runFile (console : Console) (path : String) : Console :=
  match fileText console.session.store.world.disk path with
  | .ok source => (console.execute source).takeErrors
  | .error _ => console

variable {console : Console}

end Console

namespace CommandLine

/-- What a console leaves on standard output: the transcript, and what scripts have written
past it. -/
def standardOutput (console : Console) : String :=
  console.transcript.text ++ Utf8.lossy console.session.store.world.output

variable {arguments : List String} {world : World} {plan : Plan} {settings : Settings}
  {outcome : Outcome Unit}

end CommandLine

end LuaSession
