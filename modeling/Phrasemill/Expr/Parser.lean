import Phrasemill.Expr
import Phrasemill.SyntaxFault

/-!
# Reading expressions

Expressions are read from the front of a token list by their grammar:

* an expression is a primary expression and any number of method calls, each taking all that stands
  before it as its receiver;
* a primary expression is a literal, a list in brackets, a name, or a name and operands in
  parentheses;
* items are separated by commas, and a comma is always followed by an item.

A successful reading says what is left, which is always less than before, and that is why the
reading ends. Where the input ends too early the fault carries the line of the bracket, parenthesis
or dot that is still waiting, or no line where an expression should begin.
-/

namespace Phrasemill

namespace Token

/-- The value a token writes out, if it does. -/
def literal? : Token → Option Literal
  | integer value => some (.integer value)
  | text value => some (.text value)
  | _ => none

end Token

/-- Something read from the front of a token list, and the rest, shorter than `bound`. -/
@[ext]
structure Parsed (α : Type) (bound : Nat) where
  value : α
  rest : List LocatedToken
  shorter : rest.length < bound

namespace Parsed

variable {α β : Type} {m n : Nat}

/-- A value that leaves all tokens but one. -/
def leaving (value : α) (rest : List LocatedToken) : Parsed α (rest.length + 1) where
  value := value
  rest := rest
  shorter := Nat.lt_succ_self _

/-- The same tokens, read as another value. -/
def map (f : α → β) (p : Parsed α n) : Parsed β n where
  value := f p.value
  rest := p.rest
  shorter := p.shorter

/-- The same reading, measured by a longer list. -/
def within (p : Parsed α m) (le : m ≤ n) : Parsed α n where
  value := p.value
  rest := p.rest
  shorter := Nat.lt_of_lt_of_le p.shorter le

/-- The same reading behind one more token. -/
def behind {tokens : List LocatedToken} (p : Parsed α tokens.length) (token : LocatedToken) :
    Parsed α (token :: tokens).length :=
  p.within (Nat.le_succ _)

/-- The same reading behind tokens read before it. -/
def after (p : Parsed α m) (lt : m < n) : Parsed α n := p.within (Nat.le_of_lt lt)

@[simp] theorem value_leaving (value : α) (rest : List LocatedToken) :
    (leaving value rest).value = value := rfl

@[simp] theorem rest_leaving (value : α) (rest : List LocatedToken) :
    (leaving value rest).rest = rest := rfl

@[simp] theorem value_map (f : α → β) (p : Parsed α n) : (p.map f).value = f p.value := rfl

@[simp] theorem rest_map (f : α → β) (p : Parsed α n) : (p.map f).rest = p.rest := rfl

@[simp] theorem value_within (p : Parsed α m) (le : m ≤ n) : (p.within le).value = p.value := rfl

@[simp] theorem rest_within (p : Parsed α m) (le : m ≤ n) : (p.within le).rest = p.rest := rfl

@[simp] theorem value_behind {tokens : List LocatedToken} (p : Parsed α tokens.length)
    (token : LocatedToken) : (p.behind token).value = p.value := rfl

@[simp] theorem rest_behind {tokens : List LocatedToken} (p : Parsed α tokens.length)
    (token : LocatedToken) : (p.behind token).rest = p.rest := rfl

@[simp] theorem value_after (p : Parsed α m) (lt : m < n) : (p.after lt).value = p.value := rfl

@[simp] theorem rest_after (p : Parsed α m) (lt : m < n) : (p.after lt).rest = p.rest := rfl

end Parsed

/-- Reads the one token that is allowed. `line` is the line of what it belongs to. -/
def expectToken (token : Token) (expected : Expectation) (line : Nat) :
    (tokens : List LocatedToken) → Except SyntaxFault (Parsed Unit tokens.length)
  | [] => .error (.endOfInput line)
  | (found, foundLine) :: rest =>
    if found = token then .ok (.leaving () rest)
    else .error (.unexpected (.insteadOf expected found) foundLine)

/-- Reads the name of a method after a dot on `line`. -/
def expectName (line : Nat) :
    (tokens : List LocatedToken) → Except SyntaxFault (Parsed String tokens.length)
  | [] => .error (.endOfInput line)
  | (found, foundLine) :: rest =>
    match found.name? with
    | some name => .ok (.leaving name rest)
    | none => .error (.unexpected (.insteadOf .methodName found) foundLine)

namespace Expr

mutual

def parse (tokens : List LocatedToken) : Except SyntaxFault (Parsed Expr tokens.length) := do
  let ⟨first, rest, lt⟩ ← parsePrimary tokens
  let expr ← parseMethods first rest
  return expr.within lt
termination_by (tokens.length, 1)

/-- Reads a literal, a list, a reference or a call. -/
def parsePrimary :
    (tokens : List LocatedToken) → Except SyntaxFault (Parsed Expr tokens.length)
  | [] => .error (.endOfInput 0)
  | (token, line) :: rest =>
    if token = .openBracket then do
      let elements ← parseItems .closeBracket line rest
      return elements.map (list · line) |>.behind (token, line)
    else
      match token.name?, token.literal? with
      | some name, _ => parseNamed name line rest
      | none, some value => .ok (.leaving (literal value line) rest)
      | none, none => .error (.unexpected (.expression token) line)
termination_by tokens => (tokens.length, 0)

/-- Reads what follows a name on `line`: the operands of a call, or nothing after a reference. -/
def parseNamed (name : String) (line : Nat) :
    (tokens : List LocatedToken) → Except SyntaxFault (Parsed Expr (tokens.length + 1))
  | [] => .ok (.leaving (reference name line) [])
  | (token, tokenLine) :: rest =>
    if token = .openParen then do
      let arguments ← parseItems .closeParen line rest
      return arguments.map (call name · line) |>.behind (token, tokenLine) |>.within (Nat.le_succ _)
    else .ok (.leaving (reference name line) ((token, tokenLine) :: rest))
termination_by tokens => (tokens.length, 0)

/-- Reads the method calls that follow an expression. -/
def parseMethods (receiver : Expr) :
    (tokens : List LocatedToken) → Except SyntaxFault (Parsed Expr (tokens.length + 1))
  | [] => .ok (.leaving receiver [])
  | (token, line) :: rest =>
    if token = .dot then do
      let ⟨name, rest₁, lt₁⟩ ← expectName line rest
      let ⟨_, rest₂, lt₂⟩ ← expectToken .openParen (.parenAfterMethod name) line rest₁
      let ⟨arguments, rest₃, lt₃⟩ ← parseItems .closeParen line rest₂
      have lt : rest₃.length < rest.length := Nat.lt_trans lt₃ (Nat.lt_trans lt₂ lt₁)
      let expr ← parseMethods (method receiver name arguments line) rest₃
      return expr.within (Nat.le_succ_of_le (Nat.le_succ_of_le lt))
    else .ok (.leaving receiver ((token, line) :: rest))
termination_by tokens => (tokens.length, 0)

/-- Reads items up to the closing token, after the opening one on `line`. -/
def parseItems (closing : Token) (line : Nat) :
    (tokens : List LocatedToken) → Except SyntaxFault (Parsed (List Expr) tokens.length)
  | [] => parseMoreItems closing line []
  | (token, tokenLine) :: rest =>
    if token = closing then .ok (.leaving [] rest)
    else parseMoreItems closing line ((token, tokenLine) :: rest)
termination_by tokens => (tokens.length, 3)

def parseMoreItems (closing : Token) (line : Nat) (tokens : List LocatedToken) :
    Except SyntaxFault (Parsed (List Expr) tokens.length) := do
  match ← parse tokens with
  | ⟨_, [], _⟩ => .error (.endOfInput line)
  | ⟨item, (token, tokenLine) :: rest, lt⟩ =>
    have lt := Nat.lt_of_succ_lt lt
    if token = .comma then
      let items ← parseMoreItems closing line rest
      return items.map (item :: ·) |>.after lt
    else if token = closing then return ⟨[item], rest, lt⟩
    else .error (.unexpected (.insteadOf (.separator closing) token) tokenLine)
termination_by (tokens.length, 2)

end

end Expr

end Phrasemill
