/-!
Why a text is not JSON, and what a reader leaves of a text. A cut text could still be
completed; a malformed one could not.
-/

namespace MeshRouting.Json

inductive Fault
  | malformed
  | truncated
  deriving DecidableEq

/-- A rest of the text `cs`, which may be all of it. -/
abbrev Rest (cs : List Char) := { rest : List Char // rest.length ≤ cs.length }

/-- A rest of the text `cs` after at least one character, so that reading on ends. -/
abbrev Shorter (cs : List Char) := { rest : List Char // rest.length < cs.length }

namespace Rest

def all (cs : List Char) : Rest cs := ⟨cs, Nat.le_refl _⟩

def behind (c : Char) {cs : List Char} (rest : Rest cs) : Shorter (c :: cs) :=
  ⟨rest.val, Nat.lt_succ_of_le rest.property⟩

end Rest

namespace Shorter

def toRest {cs : List Char} (rest : Shorter cs) : Rest cs := ⟨rest.val, Nat.le_of_lt rest.property⟩

def behind (c : Char) {cs : List Char} (rest : Shorter cs) : Shorter (c :: cs) :=
  ⟨rest.val, Nat.lt_succ_of_lt rest.property⟩

/-- A rest of a rest. -/
def trans {cs : List Char} (rest : Shorter cs) (left : Rest rest.val) : Shorter cs :=
  ⟨left.val, Nat.lt_of_le_of_lt left.property rest.property⟩

end Shorter

end MeshRouting.Json
