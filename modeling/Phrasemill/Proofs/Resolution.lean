import Mathlib
import Phrasemill.Proofs.Folding

/-!
# Resolving keeps what an expression means

Resolving puts bodies of rules in the place of their names. Evaluation enters such a body without the
check for cycles that a name goes through when it is looked up, and a body that is a literal is put
there bare, so that its rule is not entered at all. Neither can be told as long as the rules that are
taken up could have been entered where they stand (`evaluate_resolve_of_enterable`). That is so for
every expression when no rule is active, whatever the rules are and wherever else they are taken up
(`evaluate_resolved`); and it is so in every grammar when there are no rules to take up.
-/

namespace Phrasemill

namespace Grammar

/-! ### What a name is resolved to -/

theorem resolveName_of_find?_eq_none {g : Grammar} {name : String} (absent : g.find? name = none)
    (line : Nat) : g.resolveName name line = .reference name line := by
  rw [resolveName, absent]
  split
  · next eq => cases eq
  · next eq => cases eq
  · rfl

theorem resolveName_of_category {g : Grammar} {name : String} {category : Category}
    (named : Category.ofName? name = some category) (line : Nat) :
    g.resolveName name line = .reference name line := by
  rw [resolveName, named]

/-- A rule that is taken up is entered, or has nothing in it that could tell. -/
theorem evaluate_resolveName {g : Grammar} {name : String} {body : Expr}
    (unnamed : Category.ofName? name = none) (found : g.find? name = some body) (h : Grammar)
    (count : Nat) (active : List String) (line : Nat) :
    (g.resolveName name line).evaluate h count active = body.evaluate h count (name :: active) := by
  rw [resolveName, unnamed, found]
  cases body with
  | literal value at_line => rw [Expr.evaluate, Expr.evaluate]
  | _ => exact Expr.evaluate_rule h count active name _ line

theorem length_resolveAll (g : Grammar) (arguments : List Expr) :
    (g.resolveAll arguments).length = arguments.length := by
  rw [resolveAll_eq_map, List.length_map]

/-! ### What is met in a resolved expression -/

theorem foldCall?_eq_literal {name : String} {arguments : List Expr} {line : Nat} {e : Expr}
    (h : foldCall? name arguments line = some e) : ∃ constant, e = .literal constant line := by
  obtain ⟨b, -, folds⟩ := Option.bind_eq_some_iff.1 h
  obtain ⟨values, constant, -, -, literal⟩ := foldOperands?_eq_some folds
  exact ⟨constant, literal⟩

theorem foldMethod?_eq_literal {receiver : Expr} {name : String} {arguments : List Expr}
    {line : Nat} {e : Expr} (h : foldMethod? receiver name arguments line = some e) :
    ∃ constant, e = .literal constant line := by
  obtain ⟨object, first, b, -, category, -, -, folds⟩ := foldMethod?_eq_some ∅ 0 [] h
  obtain ⟨values, constant, -, -, literal⟩ := foldOperands?_eq_some folds
  exact ⟨constant, literal⟩

/-- A property of expressions that holds of literals and lists and, of calls, whatever their operands
are. -/
structure OfKinds (P : Expr → Prop) : Prop where
  literal : ∀ constant line, P (.literal constant line)
  list : ∀ elements line, P (.list elements line)
  call : ∀ name arguments others line, P (.call name arguments line) → P (.call name others line)
  method : ∀ receiver other name arguments others line,
    P (.method receiver name arguments line) → P (.method other name others line)

section Everywhere

variable {taken g : Grammar} {P : Expr → Prop}

theorem everywhere_getD (kinds : OfKinds P) {folded : Option Expr} {line : Nat}
    (literal : ∀ e, folded = some e → ∃ constant, e = .literal constant line) {e : Expr}
    (h : e.Everywhere g P) : (folded.getD e).Everywhere g P := by
  cases folded with
  | none => exact h
  | some e =>
    obtain ⟨constant, rfl⟩ := literal e rfl
    exact Expr.everywhere_literal (kinds.literal constant line)

variable (kinds : OfKinds P)
  (rule : ∀ name body line, taken.find? name = some body → P (.rule name body line))
  (body : ∀ name body line, Category.ofName? name = none → taken.find? name = some body →
    (Expr.reference name line).Everywhere g P → body.Everywhere g P)

include kinds rule body

theorem everywhere_resolveName {name : String} {line : Nat}
    (h : (Expr.reference name line).Everywhere g P) :
    (taken.resolveName name line).Everywhere g P := by
  cases unnamed : Category.ofName? name with
  | some category =>
    rw [resolveName_of_category unnamed]
    exact h
  | none =>
    cases found : taken.find? name with
    | none =>
      rw [resolveName_of_find?_eq_none found]
      exact h
    | some b =>
      have inside := body name b line unnamed found h
      have entered := rule name b line found
      rw [resolveName, unnamed, found]
      cases b with
      | literal constant at_line => exact Expr.everywhere_literal (kinds.literal constant line)
      | _ => exact Expr.everywhere_rule entered inside

/-- What holds of an expression and of the bodies that it takes up holds of what it is resolved to. -/
theorem everywhere_resolve {e : Expr} (h : e.Everywhere g P) : (taken.resolve e).Everywhere g P := by
  have resolved {es : List Expr} (each : ∀ e ∈ es, (taken.resolve e).Everywhere g P) :
      ∀ e ∈ taken.resolveAll es, e.Everywhere g P := by
    rw [resolveAll_eq_map]
    exact List.forall_mem_map.2 each
  generalize [] = active
  induction active, e using Expr.evaluate_induction g with
  | literal active constant line => exact h
  | reference active name line => exact everywhere_resolveName kinds rule body h
  | list active elements line ih =>
    refine Expr.everywhere_list (kinds.list _ _) (resolved fun e mem => ?_)
    exact ih e mem (h.part (.element mem line))
  | call active name arguments line ih =>
    refine everywhere_getD kinds (fun e => foldCall?_eq_literal) ?_
    refine Expr.everywhere_call (kinds.call _ _ _ _ h.self) (resolved fun e mem => ?_)
    exact ih e mem (h.part (.argument mem name line))
  | method active receiver name arguments line ih_receiver ih =>
    refine everywhere_getD kinds (fun e => foldMethod?_eq_literal) ?_
    refine Expr.everywhere_method (kinds.method _ _ _ _ _ _ h.self) ?_
      (resolved fun e mem => ?_)
    · exact ih_receiver (h.part (.receiver receiver name arguments line))
    · exact ih e mem (h.part (.operand mem receiver name line))
  | rule active name body line => exact h

end Everywhere

/-! ### Resolving an expression -/

/-- The rules of a grammar are rules of another one, too, and none of them is active. -/
def Enterable (taken g : Grammar) (active : List String) : Prop :=
  ∀ name body, taken.find? name = some body → g.find? name = some body ∧ name ∉ active

theorem enterable_empty (g : Grammar) (active : List String) : Enterable ∅ g active := by
  intro name body found
  cases found

theorem enterable_self (g : Grammar) : Enterable g g [] :=
  fun _ _ found => ⟨found, List.not_mem_nil⟩

mutual

/-- An expression evaluates alike whether its rules are taken up or looked up. -/
theorem evaluate_resolve_of_enterable {taken g : Grammar} {active : List String}
    (enterable : Enterable taken g active) (count : Nat) (e : Expr) :
    (taken.resolve e).evaluate g count active = e.evaluate g count active := by
  cases e with
  | literal value line => rfl
  | reference name line =>
    rw [resolve]
    cases named : Category.ofName? name with
    | some category => rw [resolveName_of_category named]
    | none =>
      cases found : taken.find? name with
      | none => rw [resolveName_of_find?_eq_none found]
      | some body =>
        obtain ⟨looked_up, fresh⟩ := enterable name body found
        rw [evaluate_resolveName named found, Expr.evaluate_reference g count active named, looked_up]
        dsimp only
        rw [if_neg fresh]
  | rule name body line => rfl
  | list elements line =>
    rw [resolve, Expr.evaluate, Expr.evaluate,
      evaluateAll_resolveAll_of_enterable enterable count elements]
  | call name arguments line =>
    rw [resolve, evaluate_getD_foldCall?, Expr.evaluate, Expr.evaluate, length_resolveAll,
      evaluateAll_resolveAll_of_enterable enterable count arguments]
  | method receiver name arguments line =>
    rw [resolve, evaluate_getD_foldMethod?, Expr.evaluate, Expr.evaluate,
      evaluate_resolve_of_enterable enterable count receiver, length_resolveAll,
      evaluateAll_resolveAll_of_enterable enterable count arguments]

theorem evaluateAll_resolveAll_of_enterable {taken g : Grammar} {active : List String}
    (enterable : Enterable taken g active) (count : Nat) (es : List Expr) :
    Expr.evaluateAll g count active (taken.resolveAll es) = Expr.evaluateAll g count active es := by
  cases es with
  | nil => rfl
  | cons e es =>
    rw [resolveAll, Expr.evaluateAll, Expr.evaluateAll, evaluate_resolve_of_enterable enterable count e,
      evaluateAll_resolveAll_of_enterable enterable count es]

end

/-- An expression that is evaluated while no rule is active evaluates to the same before and after it
is resolved: to the same batch or the same fault, with the same randomness and the same draws. -/
theorem evaluate_resolved (g : Grammar) (e : Expr) (count : Nat) (s : RandomSource) (p : Pool) :
    ((g.resolve e).evaluate g count []).outcome s p = (e.evaluate g count []).outcome s p := by
  rw [evaluate_resolve_of_enterable (enterable_self g)]

end Grammar

end Phrasemill
