import Phrasemill.Expr.Parser
import Phrasemill.Statement
import Phrasemill.Token.Lexer

/-!
# Reading programs

A statement is a name, an equals sign and an expression, or `print` with a count and an expression
in parentheses. A program is read statement by statement until no token is left; the first fault, of
the tokens or of the statements, is the answer for the whole text.
-/

namespace Phrasemill

namespace Statement

/-- Reads the count of a print statement on `line`. -/
def parseCount (line : Nat) :
    (tokens : List LocatedToken) → Except SyntaxFault (Parsed Nat tokens.length)
  | [] => .error (.endOfInput line)
  | (found, countLine) :: rest =>
    match found.integer?.bind count? with
    | some count => .ok (.leaving count rest)
    | none => .error (.printCount found countLine)

/-- Reads what follows the word `print` on `line`. -/
def parsePrint (line : Nat) (tokens : List LocatedToken) :
    Except SyntaxFault (Parsed Statement tokens.length) := do
  let ⟨_, rest₁, lt₁⟩ ← expectToken .openParen .parenAfterPrint line tokens
  let ⟨count, rest₂, lt₂⟩ ← parseCount line rest₁
  let ⟨_, rest₃, lt₃⟩ ← expectToken .comma .commaAfterCount line rest₂
  let ⟨expr, rest₄, lt₄⟩ ← Expr.parse rest₃
  let closed ← expectToken .closeParen .parenAfterPrinted line rest₄
  return closed.map (fun _ => print count expr line)
    |>.after lt₄ |>.after lt₃ |>.after lt₂ |>.after lt₁

/-- Reads what follows the name of a rule on `line`. -/
def parseDefinition (name : String) (line : Nat) (tokens : List LocatedToken) :
    Except SyntaxFault (Parsed Statement tokens.length) := do
  let ⟨_, rest, lt⟩ ← expectToken .equals (.equalsAfterRule name) line tokens
  let value ← Expr.parse rest
  return value.map (define name · line) |>.after lt

def parse : (tokens : List LocatedToken) → Except SyntaxFault (Parsed Statement tokens.length)
  | [] => .error (.endOfInput 0)
  | (first, line) :: tokens =>
    if first = .print then do
      let statement ← parsePrint line tokens
      return statement.behind (first, line)
    else
      match first.name? with
      | some name => do
        let statement ← parseDefinition name line tokens
        return statement.behind (first, line)
      | none => .error (.unexpected (.statement first) line)

end Statement

namespace Program

def ofTokens (tokens : List LocatedToken) : Except SyntaxFault Program :=
  match tokens with
  | [] => .ok []
  | token :: tokens => do
    let ⟨statement, rest, _⟩ ← Statement.parse (token :: tokens)
    let statements ← ofTokens rest
    return statement :: statements
termination_by tokens.length
decreasing_by assumption

def parse (source : String) : Except SyntaxFault Program := do
  ofTokens (← Token.scan source)

end Program

end Phrasemill
