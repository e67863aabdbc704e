import LuaSession.Library.Packages
import LuaSession.Settings

/-!
# Opening the libraries

The tables that a new session starts with: the globals, a table for every
library, and the metatables of strings and files.
-/

namespace LuaSession.Library

open LuaSession.Script

namespace Opening

/-- The fields of a table. -/
abbrev Fields := List (String × Value)

/-- The basic functions that every session has. -/
def baseFields : Fields :=
  let functions : List (String × BaseFunction) :=
    [ ("assert", .assert), ("collectgarbage", .collectgarbage), ("dofile", .dofile),
      ("error", .error), ("getmetatable", .getmetatable), ("ipairs", .ipairs), ("load", .load),
      ("loadfile", .loadfile), ("next", .next), ("pairs", .pairs), ("pcall", .pcall),
      ("print", .print), ("rawequal", .rawequal), ("rawget", .rawget), ("rawlen", .rawlen),
      ("rawset", .rawset), ("select", .select), ("setmetatable", .setmetatable),
      ("tonumber", .tonumber), ("tostring", .tostring), ("type", .type), ("warn", .warn),
      ("xpcall", .xpcall) ]
  functions.map (fun (name, function) => (name, .builtin (.base function))) ++
    [("_VERSION", .ofString "Lua 5.4")]

/-- The functions on coroutines. -/
def coroutineFields : Fields :=
  let functions : List (String × CoroutineFunction) :=
    [ ("close", .close), ("create", .create), ("isyieldable", .isyieldable),
      ("resume", .resume), ("running", .running), ("status", .status), ("wrap", .wrap),
      ("yield", .yield) ]
  functions.map fun (name, function) => (name, .builtin (.coroutine function))

/-- The functions on tables. -/
def tableFields : Fields :=
  let functions : List (String × TableFunction) :=
    [ ("concat", .concat), ("insert", .insert), ("move", .move), ("pack", .pack),
      ("remove", .remove), ("sort", .sort), ("unpack", .unpack) ]
  functions.map fun (name, function) => (name, .builtin (.table function))

/-- The functions on strings. -/
def stringFields : Fields :=
  let functions : List (String × StringFunction) :=
    [ ("byte", .byte), ("char", .char), ("dump", .dump), ("find", .find), ("format", .format),
      ("gmatch", .gmatch), ("gsub", .gsub), ("len", .len), ("lower", .lower),
      ("match", .match), ("pack", .pack), ("packsize", .packsize), ("rep", .rep),
      ("reverse", .reverse), ("sub", .sub), ("unpack", .unpack), ("upper", .upper) ]
  functions.map fun (name, function) => (name, .builtin (.string function))

/-- The operators that read strings as numbers. -/
def stringOperators : Fields :=
  let operators : List (String × Option Arithmetic) :=
    [ ("__add", some .add), ("__sub", some .sub), ("__mul", some .mul), ("__mod", some .mod),
      ("__pow", some .pow), ("__div", some .div), ("__idiv", some .idiv), ("__unm", none) ]
  operators.map fun (name, operator) => (name, .builtin (.stringArithmetic operator))

/-- The mathematical functions and numbers. -/
def mathFields : Fields :=
  let functions : List (String × MathFunction) :=
    [ ("abs", .abs), ("acos", .acos), ("asin", .asin), ("atan", .atan), ("atan2", .atan2),
      ("ceil", .ceil), ("cos", .cos), ("cosh", .cosh), ("deg", .deg), ("exp", .exp),
      ("floor", .floor), ("fmod", .fmod), ("frexp", .frexp), ("ldexp", .ldexp), ("log", .log),
      ("log10", .log10), ("max", .max), ("min", .min), ("modf", .modf), ("pow", .pow),
      ("rad", .rad), ("random", .random), ("randomseed", .randomseed), ("sin", .sin),
      ("sinh", .sinh), ("sqrt", .sqrt), ("tan", .tan), ("tanh", .tanh),
      ("tointeger", .tointeger), ("type", .type), ("ult", .ult) ]
  functions.map (fun (name, function) => (name, .builtin (.math function))) ++
    [ ("pi", .float 0x400921FB54442D18), ("huge", .float 0x7FF0000000000000),
      ("maxinteger", .int Int64.maxValue), ("mininteger", .int Int64.minValue) ]

/-- A pattern for one character of a UTF-8 text. -/
def characterPattern : Bytes :=
  "[".toUTF8 ++ [0x00, 0x2D, 0x7F, 0xC2, 0x2D, 0xFD].toByteArray ++ "][".toUTF8 ++
    [0x80, 0x2D, 0xBF].toByteArray ++ "]*".toUTF8

/-- The functions on UTF-8 texts. -/
def utf8Fields : Fields :=
  let functions : List (String × Utf8Function) :=
    [ ("char", .char), ("codepoint", .codepoint), ("codes", .codes), ("len", .len),
      ("offset", .offset) ]
  functions.map (fun (name, function) => (name, .builtin (.utf8 function))) ++
    [("charpattern", .str characterPattern)]

/-- The functions on the operating system. -/
def systemFields : Fields :=
  let functions : List (String × SystemFunction) :=
    [ ("clock", .clock), ("date", .date), ("difftime", .difftime), ("execute", .execute),
      ("exit", .exit), ("getenv", .getenv), ("remove", .remove), ("rename", .rename),
      ("setlocale", .setlocale), ("time", .time), ("tmpname", .tmpname) ]
  functions.map fun (name, function) => (name, .builtin (.system function))

/-- The functions on files. -/
def fileFields : Fields :=
  let functions : List (String × FileFunction) :=
    [ ("close", .close), ("flush", .flush), ("input", .input), ("lines", .lines),
      ("open", .open), ("output", .output), ("popen", .popen), ("read", .read),
      ("tmpfile", .tmpfile), ("type", .type), ("write", .write) ]
  functions.map fun (name, function) => (name, .builtin (.file function))

/-- The methods of file handles. -/
def fileMethods : Fields :=
  let methods : List (String × FileMethod) :=
    [ ("close", .close), ("flush", .flush), ("lines", .lines), ("read", .read),
      ("seek", .seek), ("setvbuf", .setvbuf), ("write", .write) ]
  methods.map fun (name, method) => (name, .builtin (.fileMethod method))

/-- The metatable of file handles, but for the methods. -/
def fileEvents : Fields :=
  [ ("__name", .ofString "FILE*"), ("__gc", .builtin (.fileMethod .release)),
    ("__close", .builtin (.fileMethod .release)),
    ("__tostring", .builtin (.fileMethod .tostring)) ]

/-- A new table with fields. -/
def makeTable (fields : Fields) (s : Store) : Nat × Store :=
  s.newTable (fields.foldl (fun t (name, value) => t.setString name value) {})

/-- Put a field into a table. -/
def putField (ref : Nat) (name : String) (value : Value) (s : Store) : Store :=
  s.modifyTable ref fun t => t.setString name value

/-- Open a library under a name: as a global and as a loaded module. -/
def openLibrary (name : String) (fields : Fields) (s : Store) : Nat × Store :=
  let (ref, s) := makeTable fields s
  let s := putField s.registry.globals name (.table ref) s
  (ref, putField s.registry.loaded name (.table ref) s)

/-- The tables that have no library, and the metatable of strings. -/
def openBase (s : Store) : Store :=
  let (globals, s) := makeTable baseFields s
  let s := putField globals "_G" (.table globals) s
  let (loaded, s) := makeTable [("_G", .table globals)] s
  let (preload, s) := makeTable [] s
  { s with registry := { s.registry with globals, loaded, preload } }

/-- Open the library of strings, which also gives strings their methods. -/
def openStrings (s : Store) : Store :=
  let (strings, s) := openLibrary "string" stringFields s
  let (ref, s) := makeTable (stringOperators ++ [("__index", .table strings)]) s
  { s with registry := { s.registry with strings := ref } }

/-- Open the library of files with the handles of the standard streams. -/
def openFiles (s : Store) : Store :=
  let (methods, s) := makeTable fileMethods s
  let (files, s) := makeTable (fileEvents ++ [("__index", .table methods)]) s
  let standard (stream : Stream) (readable : Bool) (buffering : Buffering) : Resource :=
    .file { stream, readable, writable := !readable, buffering, standard := true }
  let (input, s) := s.newResource (standard .input true .whole)
  let (output, s) := s.newResource (standard .output false .whole)
  let (errors, s) := s.newResource (standard .errors false .none)
  let (_, s) := openLibrary "io"
    (fileFields ++
      [("stdin", .handle input), ("stdout", .handle output), ("stderr", .handle errors)]) s
  { s with registry := { s.registry with
      files
      standardInput := input
      standardOutput := output
      defaultInput := input
      defaultOutput := output } }

/-- Open the library of packages. -/
def openPackages (s : Store) : Store :=
  let search (function : PackageFunction) : Value := .builtin (.package function)
  let (searchers, s) := s.newTable
    (Table.ofArray #[search .searchPreload, search .searchScript, search .searchNative])
  let (ref, s) := openLibrary "package"
    [ ("loadlib", search .loadlib), ("searchpath", search .searchpath),
      ("preload", .table s.registry.preload), ("loaded", .table s.registry.loaded),
      ("searchers", .table searchers), ("path", .ofString Packages.standardPath),
      ("cpath", .ofString Packages.standardNativePath),
      ("config", .ofString Packages.configuration) ] s
  let s := putField s.registry.globals "require" (.builtin (.base .require)) s
  { s with registry := { s.registry with package := some ref } }

/-- Open the libraries that only compute. -/
def openCore (s : Store) : Store :=
  let s := openStrings (openBase s)
  [ ("coroutine", coroutineFields), ("table", tableFields), ("utf8", utf8Fields),
    ("math", mathFields) ].foldl
    (fun s (name, fields) => (openLibrary name fields s).2) s

end Opening

open Opening in
/-- Open a set of libraries. -/
def openLibraries (libraries : Libraries) (s : Store) : Store :=
  match libraries with
  | .core => openCore s
  | .safe => openPackages (openFiles (openLibrary "os" systemFields (openCore s)).2)

end LuaSession.Library
