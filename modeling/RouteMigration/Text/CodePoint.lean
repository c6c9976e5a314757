/-!
# Code point tables

A class of characters from the Unicode Character Database (version 14) is a list of closed ranges
of code points in increasing order. Each table is in a module of its own.
-/

namespace RouteMigration.Text

/-- `c` lies in one of the closed ranges. -/
def inRanges (ranges : List (Nat × Nat)) (c : Char) : Bool :=
  ranges.any fun (low, high) => low ≤ c.toNat && c.toNat ≤ high

end RouteMigration.Text
