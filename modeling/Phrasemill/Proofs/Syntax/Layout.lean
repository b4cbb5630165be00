import Mathlib
import Phrasemill.Statement
import Phrasemill.Token

/-!
# How programs are written

The tokens an expression, a statement or a program is written with. A token by which a node is named
has to stand on the line of the node; all other tokens, the punctuation, the names of methods and the
counts, may stand on any line. A layout is therefore a list of tokens, some with a line, and says
token for token which lists of located tokens spell it.

Not everything has a layout. Rules that are resolved are never written down, and neither is a count
that is no integer of 64 bits (`Expr.Written`, `Statement.Written`).
-/

namespace Phrasemill

/-- A token that is to be written, with its line if it is bound to one. -/
abbrev Piece := Token × Option Nat

namespace Piece

def FitsAt (piece : Piece) (token : LocatedToken) : Prop :=
  token.1 = piece.1 ∧ ∀ line ∈ piece.2, token.2 = line

end Piece

def Literal.token : Literal → Token
  | integer value => .integer value
  | text value => .text value

/-- The layouts of several items with commas between them, up to the closing token. -/
def enclosed (closing : Token) (items : List (List Piece)) : List Piece :=
  (items.intersperse [(.comma, none)]).flatten ++ [(closing, none)]

namespace Expr

/-- The expression has no resolved rule in it. -/
inductive Written : Expr → Prop
  | literal (value : Literal) (line : Nat) : Written (.literal value line)
  | reference (name : String) (line : Nat) : Written (.reference name line)
  | list {elements : List Expr} (parts : ∀ e ∈ elements, Written e) (line : Nat) :
      Written (.list elements line)
  | call (name : String) {arguments : List Expr} (parts : ∀ e ∈ arguments, Written e)
      (line : Nat) : Written (.call name arguments line)
  | method {receiver : Expr} (object : Written receiver) (name : String) {arguments : List Expr}
      (parts : ∀ e ∈ arguments, Written e) (line : Nat) :
      Written (.method receiver name arguments line)

mutual

/-- The tokens of an expression. A list is named by its bracket, a call by its name and a call of a
method by its dot. -/
def layout : Expr → List Piece
  | literal value line => [(value.token, some line)]
  | reference name line | rule name _ line => [(.name name, some line)]
  | list elements line =>
    (.openBracket, some line) :: enclosed .closeBracket (layouts elements)
  | call name arguments line =>
    (.name name, some line) :: (.openParen, none) :: enclosed .closeParen (layouts arguments)
  | method receiver name arguments line =>
    receiver.layout ++ (.dot, some line) :: (.name name, none) :: (.openParen, none) ::
      enclosed .closeParen (layouts arguments)

def layouts : List Expr → List (List Piece)
  | [] => []
  | e :: es => e.layout :: layouts es

end

end Expr

namespace Statement

/-- The largest count that can be written down. -/
def maxCount : Nat := Int64.maxValue.toInt.toNat

def Written : Statement → Prop
  | define _ value _ => value.Written
  | print count e _ => count ≤ maxCount ∧ e.Written

def layout : Statement → List Piece
  | define name value line => (.name name, some line) :: (.equals, none) :: value.layout
  | print count e line =>
    (.print, some line) :: (.openParen, none) :: (.integer (Int64.ofNat count), none) ::
      (.comma, none) :: e.layout ++ [(.closeParen, none)]

end Statement

namespace Program

def layout (p : Program) : List Piece := p.flatMap Statement.layout

/-- The tokens spell the program: they are its layout, token for token. -/
def WrittenAs (p : Program) (tokens : List LocatedToken) : Prop :=
  (∀ statement ∈ p, statement.Written) ∧ List.Forall₂ Piece.FitsAt p.layout tokens

end Program

/-! ### Spelling from the front -/

/-- The tokens begin with what is laid out, and `rest` comes behind it. -/
def Spells (pieces : List Piece) (tokens rest : List LocatedToken) : Prop :=
  ∃ used, tokens = used ++ rest ∧ List.Forall₂ Piece.FitsAt pieces used

@[simp] theorem spells_nil {tokens rest : List LocatedToken} :
    Spells [] tokens rest ↔ tokens = rest := by
  constructor
  · rintro ⟨used, rfl, fits⟩
    cases fits
    rfl
  · rintro rfl
    exact ⟨[], rfl, .nil⟩

theorem spells_cons {piece : Piece} {pieces : List Piece} {tokens rest : List LocatedToken} :
    Spells (piece :: pieces) tokens rest ↔
      ∃ token more, tokens = token :: more ∧ piece.FitsAt token ∧ Spells pieces more rest := by
  constructor
  · rintro ⟨used, rfl, fits⟩
    cases fits with
    | cons here fits => exact ⟨_, _, rfl, here, _, rfl, fits⟩
  · rintro ⟨token, more, rfl, here, used, rfl, fits⟩
    exact ⟨token :: used, rfl, .cons here fits⟩

theorem spells_append {pieces more : List Piece} {tokens rest : List LocatedToken} :
    Spells (pieces ++ more) tokens rest ↔
      ∃ middle, Spells pieces tokens middle ∧ Spells more middle rest := by
  induction pieces generalizing tokens with
  | nil => simp
  | cons piece pieces ih =>
    simp only [List.cons_append, spells_cons, ih]
    constructor
    · rintro ⟨token, behind, rfl, here, middle, first, second⟩
      exact ⟨middle, ⟨token, behind, rfl, here, first⟩, second⟩
    · rintro ⟨middle, ⟨token, behind, rfl, here, first⟩, second⟩
      exact ⟨token, behind, rfl, here, middle, first, second⟩

/-- A token that is bound to a line. -/
@[simp] theorem spells_bound {token : Token} {line : Nat} {pieces : List Piece}
    {tokens rest : List LocatedToken} :
    Spells ((token, some line) :: pieces) tokens rest ↔
      ∃ more, tokens = (token, line) :: more ∧ Spells pieces more rest := by
  rw [spells_cons]
  constructor
  · rintro ⟨token, more, rfl, ⟨rfl, at_line⟩, spelled⟩
    cases at_line line rfl
    exact ⟨more, rfl, spelled⟩
  · rintro ⟨more, rfl, spelled⟩
    refine ⟨_, more, rfl, ⟨rfl, fun own bound => ?_⟩, spelled⟩
    exact Option.some.inj bound

/-- A token that may stand on any line. -/
@[simp] theorem spells_free {token : Token} {pieces : List Piece}
    {tokens rest : List LocatedToken} :
    Spells ((token, none) :: pieces) tokens rest ↔
      ∃ line more, tokens = (token, line) :: more ∧ Spells pieces more rest := by
  rw [spells_cons]
  constructor
  · rintro ⟨⟨_, line⟩, more, rfl, ⟨rfl, -⟩, spelled⟩
    exact ⟨line, more, rfl, spelled⟩
  · rintro ⟨line, more, rfl, spelled⟩
    exact ⟨_, more, rfl, ⟨rfl, by simp⟩, spelled⟩

theorem spells_iff_forall₂ {pieces : List Piece} {tokens : List LocatedToken} :
    Spells pieces tokens [] ↔ List.Forall₂ Piece.FitsAt pieces tokens := by
  constructor
  · rintro ⟨used, rfl, fits⟩
    rwa [List.append_nil]
  · intro fits
    exact ⟨tokens, (List.append_nil tokens).symm, fits⟩

theorem enclosed_nil (closing : Token) : enclosed closing [] = [(closing, none)] := rfl

theorem enclosed_singleton (closing : Token) (item : List Piece) :
    enclosed closing [item] = item ++ [(closing, none)] := by
  rw [enclosed, List.intersperse_singleton, List.flatten_singleton]

theorem enclosed_cons_cons (closing : Token) (item next : List Piece) (items : List (List Piece)) :
    enclosed closing (item :: next :: items) =
      item ++ (.comma, none) :: enclosed closing (next :: items) := by
  rw [enclosed, List.intersperse_cons_cons, List.flatten_cons, List.flatten_cons, List.append_assoc]
  rfl

end Phrasemill
