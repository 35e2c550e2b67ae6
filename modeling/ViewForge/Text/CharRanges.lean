/-!
# Ranges of code points

A Unicode property is stored as the list of closed ranges of code points that have it.
-/

namespace ViewForge.Text

/-- A list of closed ranges of code points. -/
abbrev CharRanges := List (Nat × Nat)

/-- Whether a character lies in one of the ranges. -/
def CharRanges.has (ranges : CharRanges) (c : Char) : Bool :=
  ranges.any fun (first, last) => first ≤ c.toNat && c.toNat ≤ last

end ViewForge.Text
