import Phrasemill.Token

/-!
# Faults of a grammar text

What can be wrong with a text before anything is generated. As with faults of generation, a fault
names its cause and its line, and `SyntaxFault.message` alone puts it into words.
-/

namespace Phrasemill

/-- What the grammar allows where something else was found. -/
inductive Expectation where
  | parenAfterMethod (name : String)
  | equalsAfterRule (name : String)
  | parenAfterPrint
  | commaAfterCount
  | parenAfterPrinted
  /-- A comma, or the token that closes the list. -/
  | separator (closing : Token)
  | methodName
  deriving DecidableEq

inductive Surprise where
  | characters (text : String)
  | expression (found : Token)
  | statement (found : Token)
  /-- Another token than the only ones allowed. -/
  | insteadOf (expected : Expectation) (found : Token)
  deriving DecidableEq

inductive SyntaxFault where
  | unexpected (surprise : Surprise) (line : Nat)
  | endOfInput (line : Nat)
  | unterminatedText (line : Nat)
  /-- The count of a print statement is no integer, or a negative one. -/
  | printCount (found : Token) (line : Nat)
  | literalTooLarge (line : Nat)
  deriving DecidableEq

namespace Expectation

def describe : Expectation → String
  | parenAfterMethod name => s!"Expected '(' after method name '{name}'"
  | equalsAfterRule name => s!"Expected '=' after rule name '{name}'"
  | parenAfterPrint => "Expected '(' after print"
  | commaAfterCount => "Expected ',' after the count given to print"
  | parenAfterPrinted => "Expected ')' at the end of print"
  | separator closing => s!"Expected ',' or {closing.shown}"
  | methodName => "Expected identifier"

end Expectation

namespace Surprise

def describe : Surprise → String
  | characters text => text
  | expression found => found.shown
  | statement found => s!"Invalid start of statement {found.shown}"
  | insteadOf expected found => s!"{expected.describe}, found {found.shown}"

end Surprise

namespace SyntaxFault

/-- The line the fault is reported on; an input that ends where a statement or an expression should
begin has none, which is written as line 0. -/
def line : SyntaxFault → Nat
  | unexpected _ line | endOfInput line | unterminatedText line | printCount _ line
  | literalTooLarge line => line

/-- A refused count: an integer as its digits, anything else as the token it is. -/
def describeCount : Token → String
  | .integer value => toString value.toInt
  | token => token.shown

/-- The cause in words, without its line. -/
def cause : SyntaxFault → String
  | unexpected surprise _ => s!"Unexpected token: {surprise.describe}."
  | endOfInput _ => "Unexpected end of input."
  | unterminatedText _ => "String not terminated properly."
  | printCount found _ =>
    s!"The count given to print must be a non-negative integer, found {describeCount found}."
  | literalTooLarge _ => "Literal is too large."

def message (f : SyntaxFault) : String :=
  s!"Error on line {f.line}: {f.cause}"

end SyntaxFault

end Phrasemill
