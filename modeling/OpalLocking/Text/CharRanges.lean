/-
Tables of characters: ascending ranges of code points, as standards list them.
-/

namespace OpalLocking.Text

/-- Ranges of code points, each with its first and its last one. -/
abbrev CharRanges := Array (Nat × Nat)

/-- Whether a character is in one of some ranges. -/
def CharRanges.contain (ranges : CharRanges) (c : Char) : Bool :=
  ranges.any fun (first, last) => first ≤ c.toNat && c.toNat ≤ last

end OpalLocking.Text
