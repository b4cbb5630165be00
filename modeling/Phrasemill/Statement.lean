import Phrasemill.Expr

/-!
# Statements

A program is a sequence of rule definitions and print statements, run in order.
-/

namespace Phrasemill

inductive Statement where
  | define (name : String) (value : Expr) (line : Nat)
  | print (count : Nat) (expr : Expr) (line : Nat)

abbrev Program := List Statement

namespace Statement

/-- The line of a statement, that of its first token. -/
def line : Statement → Nat
  | define _ _ line | print _ _ line => line

/-- The count of a print statement: an integer that is not negative. -/
def count? (n : Int64) : Option Nat :=
  if 0 ≤ n.toInt then some n.toInt.toNat else none

end Statement

end Phrasemill
