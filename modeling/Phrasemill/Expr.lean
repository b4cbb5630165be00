import Phrasemill.Value

/-!
# Expressions

What a rule expands to and what a print statement asks for. Every node carries the line of the token
it is named by; a call of a method carries the line of its dot.
-/

namespace Phrasemill

inductive Expr where
  | literal (value : Literal) (line : Nat)
  /-- A name: a category object, or a rule that is looked up when it is needed. -/
  | reference (name : String) (line : Nat)
  | list (elements : List Expr) (line : Nat)
  | call (name : String) (arguments : List Expr) (line : Nat)
  | method (receiver : Expr) (name : String) (arguments : List Expr) (line : Nat)
  /-- A reference whose rule is already known. It is never written down, only made when a grammar
  resolves references; the line is that of the reference. -/
  | rule (name : String) (body : Expr) (line : Nat)

namespace Expr

instance : Inhabited Expr := ⟨literal (.text "") 0⟩

def line : Expr → Nat
  | literal _ line | reference _ line | list _ line | call _ _ line | method _ _ _ line
  | rule _ _ line => line

def isLiteral : Expr → Bool
  | literal _ _ => true
  | _ => false

end Expr

end Phrasemill
