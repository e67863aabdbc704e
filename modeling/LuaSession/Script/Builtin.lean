/-!
# Library functions

The names of the functions that the standard libraries consist of. They are
data: what a function does is said where its library is defined.
-/

namespace LuaSession.Script

/-- The functions every session has. -/
inductive BaseFunction where
  | assert | collectgarbage | dofile | error | getmetatable | ipairs | load | loadfile | next
  | pairs | pcall | print | rawequal | rawget | rawlen | rawset | require | select
  | setmetatable | tonumber | tostring | type | warn | xpcall
  /-- The iterator that `ipairs` hands out. -/
  | ipairsStep
  deriving DecidableEq, Repr, Hashable

/-- The functions on strings. -/
inductive StringFunction where
  | byte | char | dump | find | format | gmatch | gsub | len | lower | match | pack | packsize
  | rep | reverse | sub | unpack | upper
  deriving DecidableEq, Repr, Hashable

/-- The functions on tables. -/
inductive TableFunction where
  | concat | insert | move | pack | remove | sort | unpack
  deriving DecidableEq, Repr, Hashable

/-- The mathematical functions. -/
inductive MathFunction where
  | abs | acos | asin | atan | atan2 | ceil | cos | cosh | deg | exp | floor | fmod | frexp
  | ldexp | log | log10 | max | min | modf | pow | rad | random | randomseed | sin | sinh | sqrt
  | tan | tanh | tointeger | type | ult
  deriving DecidableEq, Repr, Hashable

/-- The functions on UTF-8 texts. -/
inductive Utf8Function where
  | char | codepoint | codes | len | offset
  /-- The iterators that `codes` hands out. -/
  | codesStep (lax : Bool)
  deriving DecidableEq, Repr, Hashable

/-- The functions on coroutines. -/
inductive CoroutineFunction where
  | close | create | isyieldable | resume | running | status | wrap | yield
  deriving DecidableEq, Repr, Hashable

/-- The functions on the operating system. -/
inductive SystemFunction where
  | clock | date | difftime | execute | exit | getenv | remove | rename | setlocale | time
  | tmpname
  deriving DecidableEq, Repr, Hashable

/-- The functions on files and default files. -/
inductive FileFunction where
  | close | flush | input | lines | open | output | popen | read | tmpfile | type | write
  deriving DecidableEq, Repr, Hashable

/-- The methods of file handles. -/
inductive FileMethod where
  | close | flush | lines | read | seek | setvbuf | write
  /-- What runs when a handle is collected or goes out of scope. -/
  | release
  | tostring
  deriving DecidableEq, Repr, Hashable

/-- The functions on packages. -/
inductive PackageFunction where
  | loadlib | searchpath
  /-- Looks a module up among the preloaded ones. -/
  | searchPreload
  /-- Looks for a script file of a module. -/
  | searchScript
  /-- Stands for the modules that are no scripts, which are never loaded. -/
  | searchNative
  deriving DecidableEq, Repr, Hashable

/-- The methods of the adapter that scripts write their output to, and what the
host does itself. -/
inductive AdapterMethod where
  | write | flush | setvbuf | close
  /-- Gives an error object's text. -/
  | failureText
  /-- Takes a field of a value, as the host does. -/
  | field
  deriving DecidableEq, Repr, Hashable

/-- The arithmetic operators. -/
inductive Arithmetic where
  | add | sub | mul | mod | pow | div | idiv
  deriving DecidableEq, Repr, Hashable

/-- A library function. -/
inductive Builtin where
  | base (function : BaseFunction)
  | string (function : StringFunction)
  /-- What an operator does on strings: it reads them as numbers. `none` is
  negation. -/
  | stringArithmetic (operator : Option Arithmetic)
  | table (function : TableFunction)
  | math (function : MathFunction)
  | utf8 (function : Utf8Function)
  | coroutine (function : CoroutineFunction)
  | system (function : SystemFunction)
  | file (function : FileFunction)
  | fileMethod (method : FileMethod)
  | package (function : PackageFunction)
  | adapter (method : AdapterMethod)
  deriving DecidableEq, Repr, Hashable

end LuaSession.Script
