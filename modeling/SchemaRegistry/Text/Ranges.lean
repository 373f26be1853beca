/-!
# Sets of code points

A set of code points is a list of closed ranges. Membership is a plain search, so a fact about a table
is settled by evaluating it.
-/

namespace SchemaRegistry.Text

/-- Closed ranges of code points. -/
abbrev Ranges := List (Nat × Nat)

/-- `c` lies in one of the ranges. -/
def Ranges.contains (table : Ranges) (c : Char) : Bool :=
  table.any fun range => range.1 ≤ c.toNat && c.toNat ≤ range.2

end SchemaRegistry.Text
