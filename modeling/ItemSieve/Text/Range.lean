/-!
# Sets of code points

A Unicode property is kept as an ascending list of closed ranges of code points; `inRanges` looks a
character up in it.
-/

namespace ItemSieve.Text

/-- The code points from the first to the second component, both included. -/
abbrev CodeRange := Nat × Nat

/-- The first range that does not end below the code point decides, the list being ascending. -/
def inRanges (ranges : List CodeRange) (c : Char) : Bool :=
  match ranges.find? fun r => c.toNat ≤ r.2 with
  | some r => r.1 ≤ c.toNat
  | none => false

end ItemSieve.Text
