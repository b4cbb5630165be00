import Phrasemill.Builtin
import Phrasemill.Expr

/-!
# Grammars

A grammar is the table of the rules defined so far. A rule is stored resolved: references to rules
that exist already are replaced by their bodies, and calls of text functions on literals by the
literal they give. So a rule keeps the definitions that were current when it was defined; references
to rules that did not exist yet stay names and are looked up when they are needed.

The category objects are never rules, even if rules of their names are defined.
-/

namespace Phrasemill

/-- The rules defined so far, one for each name. -/
structure Grammar where
  rules : List (String × Expr)

namespace Grammar

def empty : Grammar := ⟨[]⟩

instance : EmptyCollection Grammar := ⟨empty⟩

def find? (g : Grammar) (name : String) : Option Expr := g.rules.lookup name

def contains (g : Grammar) (name : String) : Bool := (g.find? name).isSome

def names (g : Grammar) : List String := g.rules.map Prod.fst

def size (g : Grammar) : Nat := g.rules.length

def isEmpty (g : Grammar) : Bool := g.rules.isEmpty

/-! ### Folding calls of literals -/

def literalValues? : List Expr → Option (List Value)
  | [] => some []
  | .literal value _ :: exprs => (literalValues? exprs).map (value.toValue :: ·)
  | _ :: _ => none

/-- The literal that a builtin gives for literals after the operands `first`. -/
def foldOperands? (b : Builtin) (first : List Value) (arguments : List Expr) (line : Nat) :
    Option Expr := do
  let values ← literalValues? arguments
  let value ← b.fold? (first ++ values)
  let constant ← value.toLiteral?
  return .literal constant line

/-- The literal that a call gives, if it is known without evaluation. Calls that would fault are
left for the evaluation to report. -/
def foldCall? (name : String) (arguments : List Expr) (line : Nat) : Option Expr := do
  let b ← Builtin.named? name
  foldOperands? b [] arguments line

/-- The literal that a call of a method gives, if it is known without evaluation. A category object
only says where to look for the method; a literal receiver is the first operand. -/
def foldMethod? (receiver : Expr) (name : String) (arguments : List Expr) (line : Nat) :
    Option Expr :=
  match receiver with
  | .reference object _ => do
    let category ← Category.ofName? object
    let b ← Builtin.method? category name
    foldOperands? b [] arguments line
  | .literal constant _ => do
    let b ← Builtin.method? constant.toValue.toCategory name
    foldOperands? b [constant.toValue] arguments line
  | _ => none

/-! ### Resolving references -/

/-- What a reference on `line` stands for in this grammar. -/
def resolveName (g : Grammar) (name : String) (line : Nat) : Expr :=
  match Category.ofName? name, g.find? name with
  | none, some (.literal constant _) => .literal constant line
  | none, some body => .rule name body line
  | _, _ => .reference name line

mutual

/-- Replaces references to rules and folds what becomes constant by that. -/
def resolve (g : Grammar) : Expr → Expr
  | .literal constant line => .literal constant line
  | .rule name body line => .rule name body line
  | .reference name line => g.resolveName name line
  | .list elements line => .list (g.resolveAll elements) line
  | .call name arguments line =>
    let arguments := g.resolveAll arguments
    (foldCall? name arguments line).getD (.call name arguments line)
  | .method receiver name arguments line =>
    let receiver := g.resolve receiver
    let arguments := g.resolveAll arguments
    (foldMethod? receiver name arguments line).getD (.method receiver name arguments line)

def resolveAll (g : Grammar) : List Expr → List Expr
  | [] => []
  | e :: es => g.resolve e :: g.resolveAll es

end

theorem resolveAll_eq_map (g : Grammar) (es : List Expr) : g.resolveAll es = es.map g.resolve := by
  induction es with
  | nil => rfl
  | cons e es ih => rw [resolveAll, ih, List.map_cons]

def put (g : Grammar) (name : String) (body : Expr) : Grammar :=
  if g.contains name then ⟨g.rules.map fun r => if r.1 = name then (name, body) else r⟩
  else ⟨g.rules ++ [(name, body)]⟩

/-- Defines a rule, in place of an earlier one of its name. Rules that took up the earlier body keep
it. -/
def define (g : Grammar) (name : String) (body : Expr) : Grammar := g.put name (g.resolve body)

/-! ### Rules yet to be entered -/

/-- How many rules are not among the active ones. -/
def unentered (g : Grammar) (active : List String) : Nat := g.names.countP (· ∉ active)

theorem mem_names_of_find? {g : Grammar} {name : String} {body : Expr}
    (h : g.find? name = some body) : name ∈ g.names := by
  obtain ⟨rules⟩ := g
  simp only [find?, names] at *
  induction rules with
  | nil => simp at h
  | cons r rules ih =>
    obtain ⟨n, b⟩ := r
    rw [List.lookup_cons] at h
    split at h
    · next e => simp [eq_of_beq e]
    · simp [ih h]

theorem countP_cons_le (names active : List String) (name : String) :
    names.countP (· ∉ name :: active) ≤ names.countP (· ∉ active) :=
  List.countP_mono_left fun x _ h => by simp_all

theorem unentered_cons_le (g : Grammar) (name : String) (active : List String) :
    g.unentered (name :: active) ≤ g.unentered active := countP_cons_le ..

/-- Entering a rule for the first time leaves fewer of them. -/
theorem unentered_cons_lt {g : Grammar} {name : String} {active : List String}
    (defined : name ∈ g.names) (fresh : name ∉ active) :
    g.unentered (name :: active) < g.unentered active := by
  unfold unentered
  revert defined
  induction g.names with
  | nil => simp
  | cons n names ih =>
    intro h
    have le := countP_cons_le names active name
    by_cases e : n = name
    · subst e
      rw [List.countP_cons_of_neg (by simp), List.countP_cons_of_pos (by simpa using fresh)]
      exact Nat.lt_succ_of_le le
    · have := ih (by simpa [Ne.symm e] using h)
      by_cases m : n ∈ active <;> simp_all

end Grammar

end Phrasemill
