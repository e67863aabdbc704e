import LuaSession.Prompt
import LuaSession.Session.Scope
import LuaSession.Transcript

/-!
# The console

A session that is talked to line by line, with a transcript of everything that
is shown: the messages of the session, prompts and the answers to commands.
-/

namespace LuaSession

open LuaSession.Script

/-- A session and what has been shown of it. -/
structure Console where
  session : Session
  transcript : Transcript := {}
  deriving Inhabited

namespace Console

/-- Open a console. -/
def «open» (settings : Settings) (bootstrap : String) : Except HostError Console := do
  let outcome ← Session.create settings bootstrap
  return { session := outcome.session, transcript := ({} : Transcript).writeAll outcome.messages }

/-- Run a script, show its messages and end the line. -/
def execute (console : Console) (source : String) : Console :=
  let { session, transcript } := console
  let outcome := session.execute source
  { session := outcome.session
    transcript := (transcript.writeAll outcome.messages).endLine }

/-- Show the names in scope. -/
def listNames (console : Console) : Console :=
  { console with
    transcript := console.transcript.write (" ".intercalate console.session.names ++ "\n") }

/-- Ask for a line, if somebody is there to be asked. -/
def ask (isInteractive : Bool) (held : String) (console : Console) : Console :=
  if isInteractive then
    { console with transcript := console.transcript.prompt (Prompt.promptText held) }
  else console

/-- Take a line: what is held after it, or `none` when it ends the
conversation. -/
def takeLine (isIncomplete : String → Bool) (held line : String) (console : Console) :
    Option String × Console :=
  match Prompt.react isIncomplete held line with
  | .quit => (none, console)
  | .listNames => (some "", console.listNames)
  | .hold text => (some text, console)
  | .run snippet => (some "", console.execute snippet)

/-- Run what is still held at the end, so that its error is shown. -/
def finish (held : String) (console : Console) : Console :=
  if held.isEmpty then console else console.execute held

/-- Talk until the lines end, a line ends the conversation, or a line cannot be
read. -/
def converse (isIncomplete : String → Bool) (isInteractive : Bool) :
    (held : String) → List (Except ReadError String) → Console → Option ReadError × Console
  | held, [], console => (none, (console.ask isInteractive held).finish held)
  | held, .error error :: _, console => (some error, console.ask isInteractive held)
  | held, .ok line :: rest, console =>
      match (console.ask isInteractive held).takeLine isIncomplete held line with
      | (some held, console) => converse isIncomplete isInteractive held rest console
      | (none, console) => (none, console)

/-- Talk about an input; texts that stop in the middle of a statement are held. -/
def repl (isInteractive : Bool) (input : Bytes) (console : Console)
    (isIncomplete : String → Bool := Syntax.isIncomplete) : Option ReadError × Console :=
  converse isIncomplete isInteractive "" (Prompt.lines input) console

/-- End the session and show the messages of its finalizers. -/
def close (console : Console) : Console :=
  let { session, transcript } := console
  let outcome := session.close
  { session := outcome.session, transcript := transcript.writeAll outcome.messages }

end Console

end LuaSession
