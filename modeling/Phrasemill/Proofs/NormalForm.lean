import Mathlib
import Phrasemill.Proofs.Resolution

/-!
# Resolved expressions are normal forms

An expression is resolved from its operands upwards, so what is decided at a call is decided on
operands that stay as they are. Two things follow from that. Nothing is left to do at any part of what
comes out (`Grammar.isNormal_resolve`), because the part at a place comes from the part at the same
place before (`Grammar.part?_resolve`). And where nothing is left to do, resolving changes nothing
(`Grammar.resolve_eq_self_iff`), so a second time is without effect (`Grammar.normal_of_resolve`).

The bodies of rules that were taken up are not looked into, neither here nor by resolving.
-/

namespace Phrasemill

namespace Expr

/-! ### Places -/

/-- What an expression is made of, the receiver of a method first. -/
def operands : Expr → List Expr
  | literal _ _ | reference _ _ | rule _ _ _ => []
  | list elements _ => elements
  | call _ arguments _ => arguments
  | method receiver _ arguments _ => receiver :: arguments

/-- The part of an expression at a place, which says what operand to go to at each step. -/
def part? : Expr → (place : List Nat) → Option Expr
  | e, [] => some e
  | e, i :: place => e.operands[i]?.bind fun operand => operand.part? place

theorem part?_cons_eq_some_iff {e part : Expr} {i : Nat} {place : List Nat} :
    e.part? (i :: place) = some part ↔
      ∃ operand, e.operands[i]? = some operand ∧ operand.part? place = some part := by
  rw [part?, Option.bind_eq_some_iff]

end Expr

namespace Grammar

/-- At the expression itself there is no reference to resolve and no call to fold. -/
def Settled (g : Grammar) : Expr → Prop
  | .reference name _ => g.contains name = true → ∃ object : Category, name = object.objectName
  | .call name arguments line => foldCall? name arguments line = none
  | .method receiver name arguments line => foldMethod? receiver name arguments line = none
  | _ => True

/-- There is nothing to resolve and nothing to fold, at no place of the expression. -/
def IsNormal (g : Grammar) (e : Expr) : Prop :=
  ∀ place part, e.part? place = some part → g.Settled part

variable {g : Grammar} {e : Expr}

theorem IsNormal.settled (h : g.IsNormal e) : g.Settled e := h [] e rfl

theorem IsNormal.operand (h : g.IsNormal e) {operand : Expr} (mem : operand ∈ e.operands) :
    g.IsNormal operand := by
  obtain ⟨i, at_i⟩ := List.mem_iff_getElem?.1 mem
  intro place part found
  exact h (i :: place) part (Expr.part?_cons_eq_some_iff.2 ⟨operand, at_i, found⟩)

/-! ### What a part comes from -/

/-- A reference stays, or its rule is taken up: as a literal if that is what the rule is. -/
theorem resolveName_cases (g : Grammar) (name : String) (line : Nat) :
    (g.resolveName name line = .reference name line ∧ g.Settled (.reference name line)) ∨
      ∃ body, g.find? name = some body ∧
        ((∃ constant, g.resolveName name line = .literal constant line) ∨
          (g.resolveName name line = .rule name body line ∧ body.isLiteral = false)) := by
  cases named : Category.ofName? name with
  | some object =>
    left
    exact ⟨resolveName_of_category named line, fun _ => ⟨object, Category.ofName?_eq_some.1 named⟩⟩
  | none =>
    cases found : g.find? name with
    | none =>
      left
      refine ⟨resolveName_of_find?_eq_none found line, fun defined => ?_⟩
      simp [contains, found] at defined
    | some body =>
      right
      refine ⟨body, rfl, ?_⟩
      rw [resolveName, named, found]
      cases body with
      | literal constant _ => exact .inl ⟨constant, rfl⟩
      | _ => exact .inr ⟨rfl, rfl⟩

/-- Folding a call gives a literal, or there is nothing to fold. -/
theorem resolve_call_cases (g : Grammar) (name : String) (arguments : List Expr) (line : Nat) :
    (∃ constant, g.resolve (.call name arguments line) = .literal constant line) ∨
      (g.resolve (.call name arguments line) = .call name (arguments.map g.resolve) line ∧
        foldCall? name (arguments.map g.resolve) line = none) := by
  rw [resolve, resolveAll_eq_map]
  cases folded : foldCall? name (arguments.map g.resolve) line with
  | none => exact .inr ⟨Option.getD_none, rfl⟩
  | some e =>
    obtain ⟨constant, rfl⟩ := foldCall?_eq_literal folded
    exact .inl ⟨constant, Option.getD_some⟩

theorem resolve_method_cases (g : Grammar) (receiver : Expr) (name : String)
    (arguments : List Expr) (line : Nat) :
    (∃ constant, g.resolve (.method receiver name arguments line) = .literal constant line) ∨
      (g.resolve (.method receiver name arguments line) =
          .method (g.resolve receiver) name (arguments.map g.resolve) line ∧
        foldMethod? (g.resolve receiver) name (arguments.map g.resolve) line = none) := by
  rw [resolve, resolveAll_eq_map]
  cases folded : foldMethod? (g.resolve receiver) name (arguments.map g.resolve) line with
  | none => exact .inr ⟨Option.getD_none, rfl⟩
  | some e =>
    obtain ⟨constant, rfl⟩ := foldMethod?_eq_literal folded
    exact .inl ⟨constant, Option.getD_some⟩

/-- An expression is resolved to a literal, or operand by operand. -/
theorem operands_resolve (g : Grammar) (e : Expr) :
    (g.resolve e).operands = [] ∨ (g.resolve e).operands = e.operands.map g.resolve := by
  cases e with
  | literal constant line => exact .inl rfl
  | rule name body line => exact .inl rfl
  | reference name line =>
    left
    rw [resolve]
    obtain ⟨stays, -⟩ | ⟨body, -, ⟨constant, taken⟩ | ⟨taken, -⟩⟩ := g.resolveName_cases name line
    · rw [stays, Expr.operands]
    · rw [taken, Expr.operands]
    · rw [taken, Expr.operands]
  | list elements line =>
    right
    rw [resolve, resolveAll_eq_map, Expr.operands, Expr.operands]
  | call name arguments line =>
    obtain ⟨constant, folds⟩ | ⟨stays, -⟩ := g.resolve_call_cases name arguments line
    · exact .inl (by rw [folds, Expr.operands])
    · exact .inr (by rw [stays, Expr.operands, Expr.operands])
  | method receiver name arguments line =>
    obtain ⟨constant, folds⟩ | ⟨stays, -⟩ := g.resolve_method_cases receiver name arguments line
    · exact .inl (by rw [folds, Expr.operands])
    · exact .inr (by rw [stays, Expr.operands, Expr.operands, List.map_cons])

/-- What stands at a place when an expression is resolved is what stood there, resolved. -/
theorem part?_resolve {place : List Nat} {part : Expr} (h : (g.resolve e).part? place = some part) :
    ∃ before, e.part? place = some before ∧ part = g.resolve before := by
  induction place generalizing e with
  | nil => exact ⟨e, rfl, (Option.some.inj h).symm⟩
  | cons i place ih =>
    obtain ⟨operand, at_i, found⟩ := Expr.part?_cons_eq_some_iff.1 h
    obtain nothing | each := g.operands_resolve e
    · simp [nothing] at at_i
    · rw [each, List.getElem?_map, Option.map_eq_some_iff] at at_i
      obtain ⟨operand, at_i, rfl⟩ := at_i
      obtain ⟨before, stood, rfl⟩ := ih found
      exact ⟨before, Expr.part?_cons_eq_some_iff.2 ⟨operand, at_i, stood⟩, rfl⟩

/-! ### Nothing is left to do -/

theorem settled_resolve (g : Grammar) (e : Expr) : g.Settled (g.resolve e) := by
  cases e with
  | literal constant line => trivial
  | rule name body line => trivial
  | list elements line => trivial
  | reference name line =>
    rw [resolve]
    obtain ⟨stays, settled⟩ | ⟨body, -, ⟨constant, taken⟩ | ⟨taken, -⟩⟩ :=
      g.resolveName_cases name line
    · rwa [stays]
    · rw [taken]
      trivial
    · rw [taken]
      trivial
  | call name arguments line =>
    obtain ⟨constant, folds⟩ | ⟨stays, nothing⟩ := g.resolve_call_cases name arguments line
    · rw [folds]
      trivial
    · rw [stays]
      exact nothing
  | method receiver name arguments line =>
    obtain ⟨constant, folds⟩ | ⟨stays, nothing⟩ := g.resolve_method_cases receiver name arguments line
    · rw [folds]
      trivial
    · rw [stays]
      exact nothing

theorem isNormal_resolve (g : Grammar) (e : Expr) : g.IsNormal (g.resolve e) := by
  intro place part found
  obtain ⟨before, -, rfl⟩ := part?_resolve found
  exact g.settled_resolve before

/-- A rule comes out of a rule that was taken up already or out of a reference to it. -/
theorem eq_rule_or_reference {name : String} {body : Expr} {line : Nat}
    (h : g.resolve e = .rule name body line) :
    e = .rule name body line ∨
      (e = .reference name line ∧ g.find? name = some body ∧ body.isLiteral = false) := by
  cases e with
  | literal constant line => cases h
  | rule name body line => exact .inl h
  | list elements line => cases h
  | reference name line =>
    right
    rw [resolve] at h
    obtain ⟨stays, -⟩ | ⟨body, found, ⟨constant, taken⟩ | ⟨taken, no_literal⟩⟩ :=
      g.resolveName_cases name line
    · cases stays.symm.trans h
    · cases taken.symm.trans h
    · cases taken.symm.trans h
      exact ⟨rfl, found, no_literal⟩
  | call name arguments line =>
    obtain ⟨constant, folds⟩ | ⟨stays, -⟩ := g.resolve_call_cases name arguments line
    · cases folds.symm.trans h
    · cases stays.symm.trans h
  | method receiver name arguments line =>
    obtain ⟨constant, folds⟩ | ⟨stays, -⟩ := g.resolve_method_cases receiver name arguments line
    · cases folds.symm.trans h
    · cases stays.symm.trans h

/-! ### Nothing changes -/

theorem resolveName_of_settled {name : String} {line : Nat}
    (settled : g.Settled (.reference name line)) : g.resolveName name line = .reference name line := by
  obtain ⟨stays, -⟩ | ⟨body, found, -⟩ := g.resolveName_cases name line
  · exact stays
  · have defined : g.contains name = true := by rw [contains, found, Option.isSome_some]
    obtain ⟨object, rfl⟩ := settled defined
    exact resolveName_of_category object.ofName?_objectName line

theorem map_resolve_eq_self {es : List Expr} (same : ∀ e ∈ es, g.resolve e = e) :
    es.map g.resolve = es := by
  rw [List.map_congr_left same, List.map_id']

theorem resolve_of_isNormal (normal : g.IsNormal e) : g.resolve e = e := by
  -- Only the operands matter here, so the rules that are active may be any.
  generalize [] = active
  induction active, e using Expr.evaluate_induction g with
  | literal active constant line => rw [resolve]
  | rule active name body line ih => rw [resolve]
  | reference active name line ih => rw [resolve, resolveName_of_settled normal.settled]
  | list active elements line ih =>
    have same : elements.map g.resolve = elements :=
      map_resolve_eq_self fun e mem => ih e mem (normal.operand mem)
    rw [resolve, resolveAll_eq_map, same]
  | call active name arguments line ih =>
    have same : arguments.map g.resolve = arguments :=
      map_resolve_eq_self fun e mem => ih e mem (normal.operand mem)
    have nothing : foldCall? name arguments line = none := normal.settled
    simp only [resolve, resolveAll_eq_map, same, nothing, Option.getD_none]
  | method active receiver name arguments line ih_receiver ih =>
    have same_receiver := ih_receiver (normal.operand List.mem_cons_self)
    have same : arguments.map g.resolve = arguments :=
      map_resolve_eq_self fun e mem => ih e mem (normal.operand (List.mem_cons_of_mem receiver mem))
    have nothing : foldMethod? receiver name arguments line = none := normal.settled
    simp only [resolve, resolveAll_eq_map, same_receiver, same, nothing, Option.getD_none]

/-- The normal forms are what resolving does not change. -/
theorem resolve_eq_self_iff : g.resolve e = e ↔ g.IsNormal e := by
  constructor
  · intro same
    rw [← same]
    exact g.isNormal_resolve e
  · exact resolve_of_isNormal

/-- A resolved expression is a normal form. Nowhere in it is a reference to a rule, the category
objects apart, or a call that could be folded. A rule in it stood there before or is taken up in place
of a reference: then it has the body that the grammar has for it, which is no literal. Resolving it
again changes nothing. -/
theorem normal_of_resolve (g : Grammar) (e : Expr) :
    g.IsNormal (g.resolve e) ∧
      (∀ place name body line, (g.resolve e).part? place = some (.rule name body line) →
        e.part? place = some (.rule name body line) ∨
          (e.part? place = some (.reference name line) ∧ g.find? name = some body ∧
            body.isLiteral = false)) ∧
      g.resolve (g.resolve e) = g.resolve e := by
  refine ⟨g.isNormal_resolve e, fun place name body line found => ?_,
    resolve_eq_self_iff.2 (g.isNormal_resolve e)⟩
  obtain ⟨before, stood, comes⟩ := part?_resolve found
  rw [stood]
  obtain rfl | ⟨rfl, current, no_literal⟩ := eq_rule_or_reference comes.symm
  · exact .inl rfl
  · exact .inr ⟨rfl, current, no_literal⟩

end Grammar

end Phrasemill
