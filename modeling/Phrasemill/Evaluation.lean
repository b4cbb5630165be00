import Phrasemill.Builtin.Call
import Phrasemill.Grammar

/-!
# Evaluation

Evaluating an expression for `count` repetitions gives a batch of `count` values. The rules that are
being expanded are kept as a stack, innermost first: its top is part of the key under which unique
candidates are drawn, and a rule that is looked up while it is on the stack would be expanded for
ever. Rules that were resolved beforehand are entered without that check.

Evaluation ends because with every nested step either fewer rules are left to be entered or the
expression gets smaller while the rules do not get more.
-/

namespace Phrasemill

namespace Expr

/-- How a receiver selects a method and what it adds to the operands: a category object stands for
its category alone, any other value is the first operand. A batch without values and without a
constant counts as numeric. -/
def receiverRole (object : Batch) : Category × List Batch :=
  match object.representative? with
  | some (.category category) => (category, [])
  | some value => (value.toCategory, [object])
  | none => (.numeric, [object])

mutual

/-- Evaluates an expression while the rules `active` are being expanded. -/
def evaluate (g : Grammar) (count : Nat) (active : List String) : Expr → Generator Batch
  | literal constant _ => return .constant constant.toValue count
  | reference name line =>
    match Category.ofName? name with
    | some category => return .constant (.category category) count
    | none =>
      match found : g.find? name with
      | none => throw (.ruleNotFound name line)
      | some body =>
        if fresh : name ∈ active then throw (.cyclicRule name line)
        else
          have := Grammar.unentered_cons_lt (Grammar.mem_names_of_find? found) fresh
          evaluate g count (name :: active) body
  | rule name body _ => evaluate g count (name :: active) body
  | list elements _ => do
    let columns ← evaluateAll g count active elements
    return Batch.lists columns count
  | call name arguments line => do
    let b ← Generator.check (Builtin.resolveName name line)
    Generator.check (b.checkArity arguments.length line)
    let columns ← evaluateAll g count active arguments
    b.apply ⟨active.head?, line⟩ columns count
  | method receiver name arguments line => do
    let object ← evaluate g count active receiver
    let (category, first) := receiverRole object
    let b ← Generator.check (Builtin.resolveMethod category name line)
    Generator.check (b.checkArity (first.length + arguments.length) line)
    let columns ← evaluateAll g count active arguments
    b.apply ⟨active.head?, line⟩ (first ++ columns) count
termination_by e => (g.unentered active, sizeOf e)
decreasing_by
  · exact Prod.Lex.left _ _ this
  · exact Prod.Lex.right' _ (g.unentered_cons_le name active) (by decreasing_tactic)
  all_goals exact Prod.Lex.right _ (by decreasing_tactic)

def evaluateAll (g : Grammar) (count : Nat) (active : List String) :
    List Expr → Generator (List Batch)
  | [] => return []
  | e :: es => do
    let column ← evaluate g count active e
    let columns ← evaluateAll g count active es
    return column :: columns
termination_by es => (g.unentered active, sizeOf es)

end

end Expr

end Phrasemill
