import Mathlib
import Phrasemill.Proofs.Evaluation
import Phrasemill.Proofs.Pool.Entries
import Phrasemill.Proofs.Pool.Serving

/-!
# Draws for a whole batch

A call of unique candidates for `count` repetitions asks the pool once, for that many of its key. It
is granted if so many are left, which are then gone; otherwise it is refused for want of candidates
and nothing is taken.
-/

namespace Phrasemill

namespace Builtin

variable (site : CallSite) (operands : List Value) (count : Nat) (s : RandomSource)

def batchRequest : Pool.Request where
  key := poolKey site operands
  demand := if count = 1 then .one else .many count
  line := site.line
  source := s

theorem amount_batchRequest : (batchRequest site operands count s).demand.amount = count := by
  rw [batchRequest]
  dsimp only
  split
  · next single => exact single.symm
  · rfl

theorem outcome_unique (p : Pool) :
    (oneOfUnique.batchValue site operands count).outcome s p =
      ⟨(p.answer (batchRequest site operands count s)).1.outcome.map fun values =>
          .varying (if count = 1 then #[values.getD 0 default] else values),
        (p.answer (batchRequest site operands count s)).1.source,
        (p.answer (batchRequest site operands count s)).2⟩ := by
  rw [batchValue, batchRequest]
  by_cases single : count = 1
  · simp only [if_pos single, rowValue, Generator.drawOne, Generator.outcome_bind,
      Generator.outcome_draw]
    cases (p.answer ⟨poolKey site operands, .one, site.line, s⟩).1.outcome with
    | ok values => rfl
    | error fault => rfl
  · simp only [if_neg single, Generator.outcome_bind, Generator.outcome_draw]
    cases (p.answer ⟨poolKey site operands, .many count, site.line, s⟩).1.outcome with
    | ok values => rfl
    | error fault => rfl

variable {site operands count} {p : Pool}

theorem outcome_unique_of_enough (enough : count ≤ (p.left (poolKey site operands)).size) :
    ∃ values left after,
      (oneOfUnique.batchValue site operands count).outcome s p =
          ⟨.ok (.varying values), left, after⟩ ∧
        (after.left (poolKey site operands)).size + count =
          (p.left (poolKey site operands)).size := by
  have fits : (batchRequest site operands count s).demand.amount ≤
      (p.left (batchRequest site operands count s).key).size := by
    rw [amount_batchRequest]
    exact enough
  obtain ⟨values, left, granted, -⟩ := Pool.serve_granted fits
  have taken := Pool.size_serve_of_granted fits
  rw [amount_batchRequest] at taken
  rw [outcome_unique, Pool.answer_fst, granted]
  refine ⟨_, left, _, rfl, ?_⟩
  rw [Pool.left_answer, if_pos (by rfl)]
  exact taken

theorem outcome_unique_of_lacking (lacking : (p.left (poolKey site operands)).size < count) :
    ∃ fault after, fault.isShortage = true ∧
      (oneOfUnique.batchValue site operands count).outcome s p = ⟨.error fault, s, after⟩ ∧
        ∀ k, after.left k = p.left k := by
  have short : (p.left (batchRequest site operands count s).key).size <
      (batchRequest site operands count s).demand.amount := by
    rw [amount_batchRequest]
    exact lacking
  obtain ⟨fault, shortage, refused⟩ := Pool.serve_refused short
  rw [outcome_unique, Pool.answer_fst, refused]
  refine ⟨fault, _, shortage, rfl, fun k => ?_⟩
  rw [Pool.left_answer, refused]
  split
  · next same => rw [same]
  · rfl

end Builtin

namespace Expr

/-- A call of unique candidates among constants draws for the whole batch. -/
theorem evaluate_unique (g : Grammar) (count : Nat) (active : List String)
    {arguments : List Expr} {values : List Value}
    (operands : evaluateAll g count active arguments = pure (Batch.constants values count))
    (some_argument : 0 < arguments.length) (some_value : 0 < values.length) (line : Nat) :
    evaluate g count active (.call "one_of_unique" arguments line) =
      Builtin.oneOfUnique.batchValue ⟨active.head?, line⟩ values count := by
  have accepted (n : Nat) (pos : 0 < n) : Builtin.oneOfUnique.arity.accepts n = true :=
    decide_eq_true pos
  rw [evaluate_call g count active rfl operands (accepted _ some_argument),
    Builtin.apply_constants, Builtin.callBatch,
    Builtin.checkArity_of_accepts (accepted _ some_value), Generator.check_ok, pure_bind]

theorem evaluate_unique_literals (g : Grammar) (count : Nat) (active : List String)
    (constants : List Literal) (line : Nat) :
    evaluate g count active
        (.call "one_of_unique" [.list (constants.map (.literal · line)) line] line) =
      Builtin.oneOfUnique.batchValue ⟨active.head?, line⟩ [.list (constants.map Literal.toValue)]
        count := by
  have elements : evaluateAll g count active (constants.map (.literal · line)) =
      pure (Batch.constants (constants.map Literal.toValue) count) := by
    refine evaluateAll_eq_pure g count active ?_
    rw [List.forall₂_map_left_iff, List.forall₂_map_right_iff, List.forall₂_same]
    exact fun constant _ => evaluate_literal g count active constant line
  have operands := evaluateAll_eq_pure g count active
    (.cons (evaluate_list g count active elements line) .nil)
  exact evaluate_unique g count active operands Nat.one_pos Nat.one_pos line

end Expr

end Phrasemill
