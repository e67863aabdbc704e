import LuaSession.CommandLine.Similarity

/-!
# Arguments of the command line

The console takes a file with settings and script files. Arguments are read in
order, and the first one that does not fit is the error.
-/

namespace LuaSession.CommandLine

/-- What the arguments ask for. -/
structure Plan where
  config : Option String := none
  files : Array String := #[]
  deriving DecidableEq, Repr, Inhabited

/-- Why the arguments do not fit, or that help is wanted. -/
inductive UsageError where
  | help
  /-- There is no such argument; `alike` is one that may have been meant, `used`
  are those read before, and `escapable` when it could be meant as a file. -/
  | unexpected (argument : String) (alike : Option String) (used : List String)
      (escapable : Bool)
  | missingValue (argument : String)
  | repeated
  | needless (value argument : String) (used : List String)
  deriving DecidableEq, Repr

/-- The name of the program. -/
def programName : String := "script-console"

/-- How the option for the settings is shown. -/
def configUsage : String := "--config <CONFIG>"

/-- How the files are shown when there have to be some. -/
def filesUsage : String := "<FILES>..."

/-- How the files are shown. -/
def optionalFiles : String := "[FILES]..."

/-- The usage of the program, with the arguments that were used. -/
def usageLine (used : List String) : String :=
  let arguments := if used.isEmpty then ["[OPTIONS]", optionalFiles] else used
  "Usage: " ++ " ".intercalate (programName :: arguments)

/-- The text of `--help`. -/
def helpText : String :=
  "\n".intercalate [
    "Run Lua snippets against one persistent session",
    "",
    usageLine [],
    "",
    "Arguments:",
    "  [FILES]...  Script files executed in order before reading stdin",
    "",
    "Options:",
    "  -c, --config <CONFIG>  KDL config file with an `engine` node",
    "  -h, --help             Print help",
    "" ]

namespace UsageError

/-- The paragraphs of an error. -/
def paragraphs : UsageError → List String
  | .help => []
  | .unexpected argument alike used escapable =>
      let tip := match alike with
        | some alike => [s!"  tip: a similar argument exists: '{alike}'"]
        | none =>
            if escapable then [s!"  tip: to pass '{argument}' as a value, use '-- {argument}'"]
            else []
      s!"error: unexpected argument '{argument}' found" :: tip ++ [usageLine used]
  | .missingValue argument =>
      [s!"error: a value is required for '{argument}' but none was supplied"]
  | .repeated =>
      [s!"error: the argument '{configUsage}' cannot be used multiple times", usageLine []]
  | .needless value argument used =>
      [s!"error: unexpected value '{value}' for '{argument}' found; no more were expected",
        usageLine used]

/-- The text of an error. -/
def message (error : UsageError) : String :=
  "\n\n".intercalate (error.paragraphs ++ ["For more information, try '--help'.\n"])

end UsageError

namespace Plan

/-- The arguments that were used. -/
def used (plan : Plan) : List String :=
  (if plan.config.isSome then [configUsage] else []) ++
    (if plan.files.isEmpty then [] else [filesUsage])

/-- Take the file with the settings. -/
def setConfig (plan : Plan) (value : String) : Except UsageError Plan :=
  if plan.config.isSome then .error .repeated
  else if value.isEmpty then .error (.missingValue configUsage)
  else .ok { plan with config := some value }

/-- Take a script file. -/
def addFile (plan : Plan) (value : String) : Except UsageError Plan :=
  if value.isEmpty then .error (.missingValue optionalFiles)
  else .ok { plan with files := plan.files.push value }

end Plan

/-- What an argument that begins with a dash is. -/
inductive Flag where
  /-- The file with the settings; its value when it stands in the argument. -/
  | config (value : Option String)
  | help
  | failed (error : UsageError)

/-- The long names. -/
def longNames : List String := ["config", "help"]

/-- The long name that may have been meant. -/
def alikeName? (name : String) : Option String :=
  let found := longNames.filter (isAlike name)
  let better (a b : String) : String :=
    let (n, d) := similarity name a
    let (k, e) := similarity name b
    if k * d ≥ n * e then b else a
  match found with
  | [] => none
  | first :: rest => some (rest.foldl better first)

/-- What a long argument is, without its dashes. -/
def longFlag (plan : Plan) (text : List Char) : Flag :=
  let name := String.ofList (text.takeWhile (· != '='))
  let value : Option String := match text.dropWhile (· != '=') with
    | _ :: rest => some (String.ofList rest)
    | [] => none
  if name == "config" then .config value
  else if name == "help" then
    match value with
    | some value => .failed (.needless value "--help" plan.used)
    | none => .help
  else
    match alikeName? name with
    | some alike =>
        let plan := if alike == "config" then { plan with config := some "" } else plan
        let used := plan.used ++ (if alike == "help" then ["--help"] else [])
        .failed (.unexpected ("--" ++ name) (some ("--" ++ alike)) used true)
    | none => .failed (.unexpected ("--" ++ name) none plan.used true)

/-- What a short argument is, without its dash. -/
def shortFlag (text : List Char) : Flag :=
  match text with
  | 'h' :: _ => .help
  | 'c' :: [] => .config none
  | 'c' :: '=' :: rest => .config (some (String.ofList rest))
  | 'c' :: rest => .config (some (String.ofList rest))
  | c :: _ => .failed (.unexpected (String.ofList ['-', c]) none [] true)
  | [] => .failed (.unexpected "-" none [] true)

/-- Read arguments. An option waits for its value when `waiting` is set. -/
def readArguments (waiting : Bool) (plan : Plan) : List String → Except UsageError Plan
  | [] => if waiting then .error (.missingValue configUsage) else .ok plan
  | argument :: rest => do
      let give (flag : Flag) : Except UsageError Plan :=
        match flag with
        | .failed error => .error error
        | .help => if waiting then .error (.missingValue configUsage) else .error .help
        | .config value =>
            if waiting then .error (.missingValue configUsage)
            else
              match value with
              | some value => do readArguments false (← plan.setConfig value) rest
              | none => readArguments true plan rest
      match argument.toList with
      | ['-', '-'] =>
          let plan ← rest.foldlM Plan.addFile plan
          if waiting then .error (.missingValue configUsage) else return plan
      | '-' :: '-' :: text => give (longFlag plan text)
      | '-' :: c :: text => give (shortFlag (c :: text))
      | _ =>
          if waiting then readArguments false (← plan.setConfig argument) rest
          else readArguments false (← plan.addFile argument) rest

/-- What the arguments ask for. -/
def Plan.ofArguments (arguments : List String) : Except UsageError Plan :=
  readArguments false {} arguments

end LuaSession.CommandLine
