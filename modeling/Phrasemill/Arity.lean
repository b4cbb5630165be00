/-!
# Arities

How many operands a builtin accepts.
-/

namespace Phrasemill

inductive Arity where
  | exactly (n : Nat)
  | atLeast (n : Nat)
  deriving DecidableEq, Repr

namespace Arity

def accepts : Arity → (n : Nat) → Bool
  | exactly m, n => n == m
  | atLeast m, n => m ≤ n

def describe : Arity → String
  | exactly n => "exactly " ++ toString n
  | atLeast n => "at least " ++ toString n

end Arity

end Phrasemill
