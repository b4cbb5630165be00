import Mathlib
import Phrasemill.Proofs.Evaluation

/-!
# Folding keeps what an expression means

A call of a text function on literals gives one and the same batch whenever it is evaluated: it can
neither fault nor take randomness nor draw. The literal that `foldCall?` or `foldMethod?` puts in
its place therefore evaluates to what the call evaluates to, as a whole generator, in every grammar,
under every stack of active rules and for every number of repetitions.
-/

namespace Phrasemill

namespace Builtin

theorem accepts_of_fold? {b : Builtin} {operands : List Value} {value : Value}
    (h : b.fold? operands = some value) : b.arity.accepts operands.length = true := by
  by_contra refused
  unfold fold? at h
  rw [if_neg refused] at h
  cases h

theorem batchValue_of_fold? {b : Builtin} {operands : List Value} {value : Value}
    (h : b.fold? operands = some value) (site : CallSite) (count : Nat) :
    b.batchValue site operands count = pure (.constant value count) := by
  have accepted := accepts_of_fold? h
  unfold fold? at h
  rw [if_pos accepted] at h
  cases b with
  | append =>
    rw [← Option.some.inj h]
    rfl
  | lower =>
    have single : operands.length = 1 := by simpa [arity, Arity.accepts] using accepted
    obtain ⟨operand, rfl⟩ := List.length_eq_one_iff.1 single
    rw [← Option.some.inj h]
    rfl
  | oneOf => cases h
  | oneOfUnique => cases h
  | between => cases h
  | upto => cases h

theorem callBatch_of_fold? {b : Builtin} {operands : List Value} {value : Value}
    (h : b.fold? operands = some value) (site : CallSite) (count : Nat) :
    b.callBatch site operands count = pure (.constant value count) := by
  rw [callBatch, checkArity_of_accepts (accepts_of_fold? h), Generator.check_ok, pure_bind,
    batchValue_of_fold? h]

end Builtin

/-! ### Calls that are folded -/

namespace Grammar

variable (g : Grammar) (count : Nat) (active : List String)

theorem forall₂_of_literalValues? {arguments : List Expr} {values : List Value}
    (h : literalValues? arguments = some values) :
    List.Forall₂ (fun e v => e.evaluate g count active = pure (.constant v count)) arguments values
      := by
  induction arguments generalizing values with
  | nil =>
    rw [← Option.some.inj h]
    exact .nil
  | cons e arguments ih =>
    cases e with
    | literal value line =>
      obtain ⟨rest, rest_eq, rfl⟩ := Option.map_eq_some_iff.1 h
      exact .cons (by rw [Expr.evaluate]) (ih rest_eq)
    | _ => cases h

theorem foldOperands?_eq_some {b : Builtin} {first : List Value} {arguments : List Expr}
    {line : Nat} {e : Expr} (h : foldOperands? b first arguments line = some e) :
    ∃ values constant, literalValues? arguments = some values ∧
      b.fold? (first ++ values) = some constant.toValue ∧ e = .literal constant line := by
  obtain ⟨values, values_eq, h⟩ := Option.bind_eq_some_iff.1 h
  obtain ⟨value, value_eq, h⟩ := Option.bind_eq_some_iff.1 h
  obtain ⟨constant, constant_eq, h⟩ := Option.bind_eq_some_iff.1 h
  rw [← Value.toValue_of_toLiteral? constant_eq] at value_eq
  exact ⟨values, constant, values_eq, value_eq, (Option.some.inj h).symm⟩

theorem foldMethod?_eq_some {receiver : Expr} {name : String} {arguments : List Expr} {line : Nat}
    {e : Expr} (h : foldMethod? receiver name arguments line = some e) :
    ∃ object first b, receiver.evaluate g count active = pure object ∧
      ∃ category, Expr.receiverRole object = (category, Batch.constants first count) ∧
        Builtin.method? category name = some b ∧ foldOperands? b first arguments line = some e := by
  cases receiver with
  | reference object at_line =>
    obtain ⟨category, named, h⟩ := Option.bind_eq_some_iff.1 h
    obtain ⟨b, found, h⟩ := Option.bind_eq_some_iff.1 h
    exact ⟨_, [], b, Expr.evaluate_category g count active named at_line, category, rfl, found, h⟩
  | literal constant at_line =>
    obtain ⟨b, found, h⟩ := Option.bind_eq_some_iff.1 h
    refine ⟨.constant constant.toValue count, [constant.toValue], b, ?_, _, ?_, found, h⟩
    · rw [Expr.evaluate]
    · cases constant with
      | integer value => rfl
      | text value => rfl
  | _ => cases h

/-- A call that is folded evaluates as the literal it is folded to. -/
theorem evaluate_getD_foldCall? (name : String) (arguments : List Expr) (line : Nat) :
    ((foldCall? name arguments line).getD (.call name arguments line)).evaluate g count active =
      (Expr.call name arguments line).evaluate g count active := by
  cases folded : foldCall? name arguments line with
  | none => rfl
  | some e =>
    obtain ⟨b, found, folds⟩ := Option.bind_eq_some_iff.1 folded
    obtain ⟨values, constant, values_eq, value_eq, rfl⟩ := foldOperands?_eq_some folds
    rw [List.nil_append] at value_eq
    have operands := forall₂_of_literalValues? g count active values_eq
    have accepted : b.arity.accepts arguments.length = true := by
      rw [operands.length_eq]
      exact Builtin.accepts_of_fold? value_eq
    rw [Option.getD_some, Expr.evaluate, Expr.evaluate_call g count active found
      (Expr.evaluateAll_eq_pure g count active operands) accepted, Builtin.apply_constants,
      Builtin.callBatch_of_fold? value_eq]

/-- A call of a method that is folded evaluates as the literal it is folded to. -/
theorem evaluate_getD_foldMethod? (receiver : Expr) (name : String) (arguments : List Expr)
    (line : Nat) :
    ((foldMethod? receiver name arguments line).getD (.method receiver name arguments line)).evaluate
        g count active =
      (Expr.method receiver name arguments line).evaluate g count active := by
  cases folded : foldMethod? receiver name arguments line with
  | none => rfl
  | some e =>
    obtain ⟨object, first, b, receiver_eq, category, role, found, folds⟩ :=
      foldMethod?_eq_some g count active folded
    obtain ⟨values, constant, values_eq, value_eq, rfl⟩ := foldOperands?_eq_some folds
    have operands := forall₂_of_literalValues? g count active values_eq
    have accepted :
        b.arity.accepts ((Batch.constants first count).length + arguments.length) = true := by
      rw [Batch.length_constants, operands.length_eq, ← List.length_append]
      exact Builtin.accepts_of_fold? value_eq
    rw [Option.getD_some, Expr.evaluate, Expr.evaluate_method g count active receiver_eq role found
      (Expr.evaluateAll_eq_pure g count active operands) accepted, ← Batch.constants_append,
      Builtin.apply_constants, Builtin.callBatch_of_fold? value_eq]

end Grammar

end Phrasemill
