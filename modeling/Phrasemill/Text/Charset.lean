/-!
# Sets of characters

A property of characters that a standard gives as a table is kept as the closed ranges of code
points that have it, in rising order. The tables themselves stand in `Text.Cased` and
`Text.Printable`; all that is asked of them is membership.
-/

namespace Phrasemill

structure Charset where
  ranges : List (Nat × Nat)

namespace Charset

def contains (s : Charset) (c : Char) : Bool :=
  s.ranges.any fun r => decide (r.1 ≤ c.toNat ∧ c.toNat ≤ r.2)

end Charset

end Phrasemill
