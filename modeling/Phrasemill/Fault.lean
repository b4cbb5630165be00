import Phrasemill.Arity
import Phrasemill.Category

/-!
# Faults of generation

What can go wrong while values are generated. A fault names its cause and the line of the
construct that raised it; `Fault.message` is the only place where the cause is put into words.
-/

namespace Phrasemill

inductive Fault where
  | ruleNotFound (name : String) (line : Nat)
  | unknownFunction (name : String) (line : Nat)
  | arityMismatch (name : String) (expected : Arity) (found : Nat) (line : Nat)
  /-- The method belongs to a category that the value does not support. -/
  | invalidOperand (method : String) (expected found : Category) (line : Nat)
  | poolExhausted (line : Nat)
  /-- More values are asked for at once than are left. -/
  | poolInsufficient (requested remaining : Nat) (line : Nat)
  /-- The rule is reached again while it is being expanded. -/
  | cyclicRule (name : String) (line : Nat)
  | emptyRange (low high : Int64) (line : Nat)
  | emptyChoice (line : Nat)
  deriving DecidableEq

namespace Fault

/-- The line of the construct that raised the fault. -/
def line : Fault → Nat
  | ruleNotFound _ line | unknownFunction _ line | arityMismatch _ _ _ line
  | invalidOperand _ _ _ line | poolExhausted line | poolInsufficient _ _ line
  | cyclicRule _ line | emptyRange _ _ line | emptyChoice line => line

/-- Whether the fault comes from running out of unique candidates. -/
def isShortage : Fault → Bool
  | poolExhausted _ | poolInsufficient _ _ _ => true
  | _ => false

/-- The cause in words, without its line. -/
def cause : Fault → String
  | ruleNotFound name _ => s!"No such rule found '{name}'."
  | unknownFunction name _ => s!"Unknown function '{name}'."
  | arityMismatch name expected found _ =>
    s!"'{name}' expects {expected.describe} argument(s), but {found} were given."
  | invalidOperand method expected found _ =>
    s!"Method '{method}' can not be used on a {found.word} value, "
      ++ s!"it requires a {expected.word} value."
  | poolExhausted _ => "No more unique values to generate."
  | poolInsufficient requested remaining _ =>
    s!"Requested {requested} unique values, but only {remaining} remain."
  | cyclicRule name _ => s!"Rule '{name}' refers to itself."
  | emptyRange low high _ => s!"The range [{low.toInt}, {high.toInt}] is empty."
  | emptyChoice _ => "Cannot choose from an empty list."

def message (f : Fault) : String :=
  s!"Error on line {f.line}: {f.cause}"

end Fault

end Phrasemill
