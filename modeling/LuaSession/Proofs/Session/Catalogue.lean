import LuaSession.Proofs.Session.Assigning
import LuaSession.Proofs.Text.Broken
import LuaSession.Proofs.Text.Order

/-!
# The names that are listed

A session lists one text for each name that the scope has. The list and the question
whether a name is bound go together as long as the names are texts: a script can bind
byte strings that are none, and these are listed under texts that others may have too.
-/

namespace LuaSession

open LuaSession.Script LuaSession.Library

namespace Session

variable {session : Session}

end Session

/-! ## A session in which a script has bound bytes -/

namespace Numbering

def source : String := "b = 1 _ENV['\\xff'] = 1 a = 1 _ENV['\\xfe'] = 1"

/-- Two of them are no texts. -/
def names : List Bytes := ["b".toUTF8, ⟨#[0xFF]⟩, "a".toUTF8, ⟨#[0xFE]⟩]

theorem read_source :
    Syntax.readScript "snippet".toUTF8 0 source.toUTF8 = .ok (script names) := by
  have read : (Syntax.readScript "snippet".toUTF8 0 source.toUTF8).toOption.bind numbered? =
      some names := by
    decide +kernel
  cases result : Syntax.readScript "snippet".toUTF8 0 source.toUTF8 with
  | error trouble =>
      rw [result] at read
      cases read
  | ok code =>
      rw [result] at read
      rw [eq_script read]

end Numbering

namespace Session

variable {session : Session}

/-- A name is listed if and only if it is bound, and at most once. -/
def Agrees (session : Session) (name : String) : Prop :=
  (name ∈ session.names ↔ session.contains name = true) ∧ session.names.count name ≤ 1

variable {name : String}

end Session

end LuaSession
