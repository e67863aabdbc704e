import LuaSession.Text.Blank

/-!
# Script failures

A failure is what a script, a host function or a conversion between the two can
end with. Failures nest: a host function's failure is wrapped together with the
traceback of the call, and a conversion names the argument that it was for.

`Failure.text` is the full wording. `Failure.describe` is what a user is shown:
the wording of the innermost cause, without a traceback.
-/

namespace LuaSession

/-- Where a value goes that cannot be converted. -/
inductive Direction where
  | fromScript
  | toScript
  deriving DecidableEq, Repr

/-- Why a piece of script work failed. -/
inductive Failure where
  /-- A script raised an error. -/
  | runtime (text : String)
  /-- A text is no script; `incomplete` when it breaks off too early. -/
  | malformed (text : String) (incomplete : Bool)
  | memory (text : String)
  | safety (text : String)
  /-- An error of the host's own. -/
  | external (text : String)
  | stackFull
  | tooManyBound
  | unresumable
  | typeMismatch
  | destructed
  | borrowed
  | borrowedMutably
  /-- A panic that has been reported before. -/
  | resumedPanic
  /-- A host function failed during a call. -/
  | callback (traceback : String) (cause : Failure)
  | context (text : String) (cause : Failure)
  /-- An argument of a host function does not fit. -/
  | badArgument (function : Option String) (position : Nat) (name : Option String)
      (cause : Failure)
  /-- A value of one type cannot become one of another. -/
  | conversion (direction : Direction) (source target : String) (reason : Option String)
  deriving DecidableEq, Repr, Inhabited

namespace Failure

/-- The mark that starts a traceback. -/
def tracebackMark : String := "stack traceback:"

/-- The innermost cause that is no callback. -/
def root : Failure → Failure
  | .callback _ cause => cause.root
  | failure => failure

/-- The traceback of the innermost callback. -/
def innermostTraceback? : Failure → Option String
  | .callback traceback cause => some (cause.innermostTraceback?.getD traceback)
  | _ => none

/-- Drop the mark of a traceback from the front, as often as it stands there.
`fuel` bounds the number of marks. -/
def dropMarks : (fuel : Nat) → List Char → List Char
  | 0, cs => cs
  | fuel + 1, cs =>
      let mark := tracebackMark.toList
      if mark.isPrefixOf cs then dropMarks fuel (cs.drop mark.length) else cs

/-- The traceback that is shown for a callback: the innermost one, with a sign
at the place where the outer one goes on in it. -/
def shownTraceback (outer : String) (inner : Option String) : String :=
  match inner with
  | none => Text.trimEnd outer
  | some inner =>
      let part := (Text.trim (String.ofList (dropMarks outer.length outer.toList))).toList
      match Text.before? part inner.toList with
      | some front =>
          let rest := inner.toList.drop front.length
          String.ofList (front ++ ['>'] ++ Text.dropBlankEnd rest)
      | none => Text.trimEnd inner

/-- The wording of a failure. A callback is worded with its traceback, or `bare`
as its innermost cause alone. -/
def wording (bare : Bool) : Failure → String
  | .runtime text => "runtime error: " ++ text
  | .malformed text _ => "syntax error: " ++ text
  | .memory text => "memory error: " ++ text
  | .safety text => "safety error: " ++ text
  | .external text => text
  | .stackFull =>
      "out of Lua stack, too many arguments to a Lua function or too many return values " ++
        "from a callback"
  | .tooManyBound => "too many arguments to Function::bind"
  | .unresumable => "coroutine is non-resumable"
  | .typeMismatch => "userdata is not expected type"
  | .destructed => "userdata has been destructed"
  | .borrowed => "error borrowing userdata"
  | .borrowedMutably => "error mutably borrowing userdata"
  | .resumedPanic => "previously resumed panic returned again"
  | .callback traceback cause =>
      let head := wording true cause
      if bare then head
      else head ++ "\n" ++ shownTraceback traceback cause.innermostTraceback? ++ "\n"
  | .context text cause => text ++ "\n" ++ wording false cause
  | .badArgument function position name cause =>
      let which := match name with
        | some name => s!"bad argument `{name}`"
        | none => s!"bad argument #{position}"
      let whose := match function with
        | some function => s!" to `{function}`"
        | none => ""
      which ++ whose ++ ": " ++ wording false cause
  | .conversion direction source target reason =>
      let what := match direction with
        | .fromScript => s!"error converting Lua {source} to {target}"
        | .toScript => s!"error converting {source} to Lua {target}"
      match reason with
      | some reason => s!"{what} ({reason})"
      | none => what

/-- The full wording of a failure. -/
def text (failure : Failure) : String := failure.wording false

/-- The text before the first traceback, without blanks at its end; the whole
text when there is no traceback. -/
def cutTraceback (text : String) : String :=
  match Text.before? ('\n' :: tracebackMark.toList) text.toList with
  | some head => String.ofList (Text.dropBlankEnd head)
  | none => text

/-- What a user is told: the innermost cause without a traceback. -/
def describe : Failure → String
  | .malformed text _ => cutTraceback text
  | .runtime text => cutTraceback text
  | .memory text => cutTraceback ("out of memory: " ++ text)
  | .callback _ cause => cause.describe
  | failure => cutTraceback failure.text

end Failure

end LuaSession
