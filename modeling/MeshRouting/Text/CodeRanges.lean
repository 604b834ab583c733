/-!
Sets of characters given by ranges of code points.
-/

namespace MeshRouting

/-- Ascending, disjoint ranges, both ends included. -/
abbrev CodeRanges := List (Nat × Nat)

namespace CodeRanges

def contains (ranges : CodeRanges) (c : Char) : Bool :=
  ranges.any fun (first, last) => first ≤ c.toNat && c.toNat ≤ last

end CodeRanges

end MeshRouting
