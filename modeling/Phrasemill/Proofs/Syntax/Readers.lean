import Mathlib
import Phrasemill.Statement.Parser

/-!
# What the readers read

One equation for each reader, as a function from tokens to what it has read and what is left. The
proofs that the rest is shorter, on which the readers recurse, do not occur in them, and nothing else
opens a reader.
-/

namespace Phrasemill

namespace Parsed

variable {α β : Type} {m n : Nat}

def toPair (p : Parsed α n) : α × List LocatedToken := (p.value, p.rest)

/-- What a reader has come to, whatever its rest is measured by. -/
def reading (r : Except SyntaxFault (Parsed α n)) : Except SyntaxFault (α × List LocatedToken) :=
  r.map toPair

@[simp] theorem reading_ok (p : Parsed α n) : reading (.ok p) = .ok (p.value, p.rest) := rfl

@[simp] theorem reading_pure (p : Parsed α n) :
    reading (pure p : Except SyntaxFault (Parsed α n)) = .ok (p.value, p.rest) := rfl

@[simp] theorem reading_error (fault : SyntaxFault) :
    reading (.error fault : Except SyntaxFault (Parsed α n)) = .error fault := rfl

theorem reading_bind {r : Except SyntaxFault (Parsed α m)}
    {f : Parsed α m → Except SyntaxFault (Parsed β n)}
    {g : α × List LocatedToken → Except SyntaxFault (β × List LocatedToken)}
    (h : ∀ p, reading (f p) = g (p.value, p.rest)) : reading (r >>= f) = reading r >>= g := by
  cases r with
  | error fault => rfl
  | ok p => exact h p

end Parsed

open Parsed

theorem reading_expectToken (token : Token) (expected : Expectation) (line : Nat)
    (tokens : List LocatedToken) :
    reading (expectToken token expected line tokens) =
      match tokens with
      | [] => .error (.endOfInput line)
      | (found, foundLine) :: rest =>
        if found = token then .ok ((), rest)
        else .error (.unexpected (.insteadOf expected found) foundLine) := by
  cases tokens with
  | nil => rfl
  | cons first rest =>
    rw [expectToken]
    dsimp only
    split
    · rfl
    · rfl

theorem reading_expectName (line : Nat) (tokens : List LocatedToken) :
    reading (expectName line tokens) =
      match tokens with
      | [] => .error (.endOfInput line)
      | (found, foundLine) :: rest =>
        match found.name? with
        | some name => .ok (name, rest)
        | none => .error (.unexpected (.insteadOf .methodName found) foundLine) := by
  cases tokens with
  | nil => rfl
  | cons first rest =>
    rw [expectName]
    dsimp only
    cases first.1.name? with
    | some name => rfl
    | none => rfl

namespace Expr

theorem reading_parse (tokens : List LocatedToken) :
    reading (parse tokens) = (do
      let (first, rest) ← reading (parsePrimary tokens)
      reading (parseMethods first rest)) := by
  rw [parse]
  refine reading_bind fun read => ?_
  obtain ⟨first, rest, lt⟩ := read
  dsimp only
  cases parseMethods first rest with
  | error fault => rfl
  | ok p => rfl

theorem reading_parsePrimary (tokens : List LocatedToken) :
    reading (parsePrimary tokens) =
      match tokens with
      | [] => .error (.endOfInput 0)
      | (token, line) :: rest =>
        if token = .openBracket then do
          let (elements, rest) ← reading (parseItems .closeBracket line rest)
          return (list elements line, rest)
        else
          match token.name?, token.literal? with
          | some name, _ => reading (parseNamed name line rest)
          | none, some value => .ok (literal value line, rest)
          | none, none => .error (.unexpected (.expression token) line) := by
  cases tokens with
  | nil => rw [parsePrimary]; rfl
  | cons first rest =>
    obtain ⟨token, line⟩ := first
    rw [parsePrimary]
    dsimp only
    split
    · exact reading_bind fun p => rfl
    · cases token.name? with
      | some name => rfl
      | none =>
        cases token.literal? with
        | some value => rfl
        | none => rfl

theorem reading_parseNamed (name : String) (line : Nat) (tokens : List LocatedToken) :
    reading (parseNamed name line tokens) =
      match tokens with
      | [] => .ok (reference name line, [])
      | (token, tokenLine) :: rest =>
        if token = .openParen then do
          let (arguments, rest) ← reading (parseItems .closeParen line rest)
          return (call name arguments line, rest)
        else .ok (reference name line, (token, tokenLine) :: rest) := by
  cases tokens with
  | nil => rw [parseNamed]; rfl
  | cons first rest =>
    obtain ⟨token, tokenLine⟩ := first
    rw [parseNamed]
    dsimp only
    split
    · exact reading_bind fun p => rfl
    · rfl

theorem reading_parseMethods (receiver : Expr) (tokens : List LocatedToken) :
    reading (parseMethods receiver tokens) =
      match tokens with
      | [] => .ok (receiver, [])
      | (token, line) :: rest =>
        if token = .dot then do
          let (name, rest) ← reading (expectName line rest)
          let (_, rest) ← reading (expectToken .openParen (.parenAfterMethod name) line rest)
          let (arguments, rest) ← reading (parseItems .closeParen line rest)
          reading (parseMethods (method receiver name arguments line) rest)
        else .ok (receiver, (token, line) :: rest) := by
  cases tokens with
  | nil => rw [parseMethods]; rfl
  | cons first rest =>
    obtain ⟨token, line⟩ := first
    rw [parseMethods]
    dsimp only
    split
    · refine reading_bind fun named => ?_
      obtain ⟨name, rest₁, lt₁⟩ := named
      refine reading_bind fun paren => ?_
      obtain ⟨_, rest₂, lt₂⟩ := paren
      refine reading_bind fun items => ?_
      obtain ⟨arguments, rest₃, lt₃⟩ := items
      dsimp only
      cases parseMethods (method receiver name arguments line) rest₃ with
      | error fault => rfl
      | ok p => rfl
    · rfl

theorem reading_parseItems (closing : Token) (line : Nat) (tokens : List LocatedToken) :
    reading (parseItems closing line tokens) =
      match tokens with
      | [] => reading (parseMoreItems closing line [])
      | (token, tokenLine) :: rest =>
        if token = closing then .ok ([], rest)
        else reading (parseMoreItems closing line ((token, tokenLine) :: rest)) := by
  cases tokens with
  | nil => rw [parseItems]
  | cons first rest =>
    obtain ⟨token, tokenLine⟩ := first
    rw [parseItems]
    dsimp only
    split
    · rfl
    · rfl

theorem reading_parseMoreItems (closing : Token) (line : Nat) (tokens : List LocatedToken) :
    reading (parseMoreItems closing line tokens) = (do
      match ← reading (parse tokens) with
      | (_, []) => .error (.endOfInput line)
      | (item, (token, tokenLine) :: rest) =>
        if token = .comma then
          let (items, rest) ← reading (parseMoreItems closing line rest)
          return (item :: items, rest)
        else if token = closing then return ([item], rest)
        else .error (.unexpected (.insteadOf (.separator closing) token) tokenLine)) := by
  rw [parseMoreItems]
  refine reading_bind fun read => ?_
  obtain ⟨item, rest, lt⟩ := read
  cases rest with
  | nil => rfl
  | cons first rest =>
    obtain ⟨token, tokenLine⟩ := first
    dsimp only
    split
    · exact reading_bind fun p => rfl
    · split
      · rfl
      · rfl

end Expr

namespace Statement

theorem reading_parseCount (line : Nat) (tokens : List LocatedToken) :
    reading (parseCount line tokens) =
      match tokens with
      | [] => .error (.endOfInput line)
      | (found, countLine) :: rest =>
        match found.integer?.bind count? with
        | some count => .ok (count, rest)
        | none => .error (.printCount found countLine) := by
  cases tokens with
  | nil => rfl
  | cons first rest =>
    rw [parseCount]
    dsimp only
    cases first.1.integer?.bind count? with
    | some count => rfl
    | none => rfl

theorem reading_parsePrint (line : Nat) (tokens : List LocatedToken) :
    reading (parsePrint line tokens) = (do
      let (_, rest) ← reading (expectToken .openParen .parenAfterPrint line tokens)
      let (count, rest) ← reading (parseCount line rest)
      let (_, rest) ← reading (expectToken .comma .commaAfterCount line rest)
      let (expr, rest) ← reading (Expr.parse rest)
      let (_, rest) ← reading (expectToken .closeParen .parenAfterPrinted line rest)
      return (print count expr line, rest)) := by
  rw [parsePrint]
  refine reading_bind fun _ => ?_
  refine reading_bind fun _ => ?_
  refine reading_bind fun _ => ?_
  refine reading_bind fun _ => ?_
  exact reading_bind fun p => rfl

theorem reading_parseDefinition (name : String) (line : Nat) (tokens : List LocatedToken) :
    reading (parseDefinition name line tokens) = (do
      let (_, rest) ← reading (expectToken .equals (.equalsAfterRule name) line tokens)
      let (value, rest) ← reading (Expr.parse rest)
      return (define name value line, rest)) := by
  rw [parseDefinition]
  refine reading_bind fun _ => ?_
  exact reading_bind fun p => rfl

theorem reading_parse (tokens : List LocatedToken) :
    reading (parse tokens) =
      match tokens with
      | [] => .error (.endOfInput 0)
      | (first, line) :: rest =>
        if first = .print then reading (parsePrint line rest)
        else
          match first.name? with
          | some name => reading (parseDefinition name line rest)
          | none => .error (.unexpected (.statement first) line) := by
  cases tokens with
  | nil => rfl
  | cons token rest =>
    obtain ⟨first, line⟩ := token
    rw [parse]
    dsimp only
    split
    · cases parsePrint line rest with
      | error fault => rfl
      | ok p => rfl
    · cases first.name? with
      | none => rfl
      | some name =>
        dsimp only
        cases parseDefinition name line rest with
        | error fault => rfl
        | ok p => rfl

end Statement

theorem Program.ofTokens_cons (token : LocatedToken) (tokens : List LocatedToken) :
    ofTokens (token :: tokens) = (do
      let (statement, rest) ← reading (Statement.parse (token :: tokens))
      let statements ← ofTokens rest
      return statement :: statements) := by
  rw [ofTokens]
  cases Statement.parse (token :: tokens) with
  | error fault => rfl
  | ok p => rfl

end Phrasemill
