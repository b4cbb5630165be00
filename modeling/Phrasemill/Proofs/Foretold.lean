import Mathlib
import Phrasemill.Proofs.Language
import Phrasemill.Proofs.Steady

/-!
# What is constant beforehand

Whether an expression comes to a constant batch need not be found out by evaluating it. For a clean
expression it can be told from the expression, the rules and the stack of active rules alone, and with
it the value that is repeated: `Expr.exists_foretells`. Two evaluations therefore never differ in it,
whatever the number of repetitions, the randomness and the pool are in either of them.

At a category object this would fail. Whether a receiver is taken for one depends on its first value,
which may be random or missing, and with it which operands there are.
-/

namespace Phrasemill

/-! ### Batches -/

namespace Batch

/-- The value that the batch repeats, if it is constant. -/
def constant? : Batch → Option Value
  | constant value _ => some value
  | varying _ => none

theorem isSome_constant? (b : Batch) : b.constant?.isSome = b.isConstant := by
  cases b <;> rfl

theorem mapM_constant? (columns : List Batch) :
    (columns.map constant?).mapM id =
      if allConstant columns then some (representatives columns) else none := by
  induction columns with
  | nil => rfl
  | cons column columns ih =>
    rw [List.map_cons, List.mapM_cons, ih]
    cases column with
    | constant value n =>
      by_cases all : allConstant columns = true
      · rw [if_pos all, if_pos (by simpa [allConstant, isConstant] using all)]
        rfl
      · rw [if_neg all, if_neg (by simpa [allConstant, isConstant] using all)]
        rfl
    | varying values => simp [constant?, allConstant, isConstant]

theorem constant?_lists (columns : List Batch) (count : Nat) :
    (lists columns count).constant? = ((columns.map constant?).mapM id).map .list := by
  rw [mapM_constant?, lists]
  split
  · rfl
  · rfl

end Batch

/-! ### Calls -/

namespace Builtin

open Generator

theorem methodName_injective : Function.Injective methodName := by
  intro b b' same
  have found := method?_methodName (Category.supports_numeric b.owner)
  rw [same, method?_methodName (Category.supports_numeric b'.owner)] at found
  exact (Option.some.inj found).symm

/-- A name is the method of one builtin at most, whatever it is called on. -/
theorem exists_only_method (name : String) :
    ∃ b, ∀ category line b', resolveMethod category name line = .ok b' → b' = b := by
  by_cases used : ∃ b : Builtin, b.methodName = name
  · obtain ⟨b, rfl⟩ := used
    exact ⟨b, fun category line b' resolved =>
      methodName_injective (methodName_of_resolveMethod resolved)⟩
  · exact ⟨.append, fun category line b' resolved =>
      absurd ⟨b', methodName_of_resolveMethod resolved⟩ used⟩

/-- The value that a call repeats, if its operands are known to be constant and need no more than
that. -/
def foretold? (b : Builtin) (known : List (Option Value)) : Option Value :=
  (known.mapM id).bind b.fold?

theorem accepts_of_checkArity {b : Builtin} {found line : Nat} {u : Unit}
    (h : b.checkArity found line = .ok u) : b.arity.accepts found = true := by
  by_contra refused
  rw [checkArity, if_neg refused] at h
  cases h

theorem yields_constant_sampled (draw : RandomSource → Value × RandomSource) (count : Nat) :
    (sampled draw count).Yields fun batch => batch.constant? = none :=
  (yields_true _).bind fun _ _ => yields_pure rfl

theorem yields_constant_callBatch (b : Builtin) (site : CallSite) (operands : List Value)
    (count : Nat) :
    (b.callBatch site operands count).Yields fun batch => batch.constant? = b.fold? operands := by
  refine (yields_check fun _ checked => accepts_of_checkArity checked).bind fun _ accepted => ?_
  cases folds : b.fold? operands with
  | some value =>
    rw [batchValue_of_fold? folds]
    exact yields_pure rfl
  | none =>
    have no_text : ¬ (b = .append ∨ b = .lower) := by
      intro text
      obtain ⟨value, folds'⟩ := Expr.exists_fold? text accepted
      rw [folds] at folds'
      cases folds'
    cases b with
    | append => simp at no_text
    | lower => simp at no_text
    | oneOf => exact (yields_true _).bind fun _ _ => yields_constant_sampled _ count
    | oneOfUnique =>
      rw [batchValue]
      split
      · exact (yields_true _).bind fun _ _ => yields_pure rfl
      · exact (yields_true _).bind fun _ _ => yields_pure rfl
    | between => exact (yields_true _).bind fun _ _ => yields_constant_sampled _ count
    | upto => exact (yields_true _).bind fun _ _ => yields_constant_sampled _ count

theorem yields_constant_apply (b : Builtin) (site : CallSite) (columns : List Batch) (count : Nat) :
    (b.apply site columns count).Yields
      fun batch => batch.constant? = b.foretold? (columns.map Batch.constant?) := by
  rw [foretold?, Batch.mapM_constant?, apply]
  split
  · exact b.yields_constant_callBatch site _ count
  · exact (yields_true _).bind fun values _ => yields_pure rfl

end Builtin

/-! ### Expressions -/

namespace Expr

open Generator

variable {g : Grammar} {active : List String}

/-- Inside the rules `active`, the expression repeats the value in every evaluation, or varies in every
evaluation. -/
def Foretells (g : Grammar) (active : List String) (e : Expr) (known : Option Value) : Prop :=
  ∀ count, (evaluate g count active e).Yields fun batch => batch.constant? = known

theorem yields_constant_evaluateAll {es : List Expr} {known : List (Option Value)}
    (h : List.Forall₂ (Foretells g active) es known) (count : Nat) :
    (evaluateAll g count active es).Yields fun columns => columns.map Batch.constant? = known := by
  induction h with
  | nil =>
    rw [evaluateAll]
    exact yields_pure rfl
  | cons here _ ih =>
    rw [evaluateAll]
    refine (here count).bind fun column first => ih.bind fun columns others => yields_pure ?_
    rw [List.map_cons, first, others]

/-- All that a call repeats is foretold by its operands and by the builtin, if only one can be
meant. -/
theorem yields_constant_called {resolved : Except Fault Builtin} {b : Builtin}
    (only : ∀ b', resolved = .ok b' → b' = b) (first : List Batch) {arguments : List Expr}
    {known : List (Option Value)} (h : List.Forall₂ (Foretells g active) arguments known)
    (count line : Nat) :
    (called g count active resolved first arguments line).Yields
      fun batch => batch.constant? = b.foretold? (first.map Batch.constant? ++ known) := by
  refine (yields_check only).bind fun b' same => ?_
  subst same
  refine (yields_true _).bind fun _ _ => ?_
  refine (yields_constant_evaluateAll h count).bind fun columns columns_known => ?_
  rw [← columns_known, ← List.map_append]
  exact b'.yields_constant_apply _ _ count

/-- A value of a clean expression can be passed on as an operand. -/
theorem yields_plain_evaluate {e : Expr} (clean : Clean g e) (count : Nat) :
    (evaluate g count active e).Yields (Batch.Consists Value.Plain count) :=
  (yields_evaluate clean).mono fun _ consists => consists.mono fun _ member => member.2

/-- It can be told beforehand whether a clean expression comes to a constant batch, and to which. -/
theorem exists_foretells (active : List String) {e : Expr} (clean : Clean g e) :
    ∃ known, Foretells g active e known := by
  induction active, e using evaluate_induction g with
  | literal active constant line =>
    refine ⟨some constant.toValue, fun count => ?_⟩
    rw [evaluate]
    exact yields_pure rfl
  | reference active name line ih =>
    have unnamed : Category.ofName? name = none :=
      Option.not_isSome_iff_eq_none.1 clean.here
    obtain ⟨-, fails⟩ | ⟨-, fails⟩ | ⟨body, found, fresh, enters⟩ :=
      evaluate_reference_cases g active unnamed line
    · simp only [Foretells, fails]
      exact ⟨none, fun _ => yields_throw _⟩
    · simp only [Foretells, fails]
      exact ⟨none, fun _ => yields_throw _⟩
    · simp only [Foretells, enters]
      exact ih body unnamed found fresh (clean.defined unnamed found)
  | list active elements line ih =>
    obtain ⟨known, foretold⟩ :=
      exists_forall₂_of_forall_mem fun e mem => ih e mem (clean.element e mem)
    refine ⟨(known.mapM id).map .list, fun count => ?_⟩
    rw [evaluate]
    refine (yields_constant_evaluateAll foretold count).bind fun columns columns_known => ?_
    rw [← columns_known, ← Batch.constant?_lists columns count]
    exact yields_pure rfl
  | call active name arguments line ih =>
    obtain ⟨known, foretold⟩ :=
      exists_forall₂_of_forall_mem fun e mem => ih e mem (clean.argument e mem)
    simp only [Foretells, evaluate_call_eq]
    cases resolved : Builtin.resolveName name line with
    | error fault => exact ⟨none, fun count => yields_throw fault⟩
    | ok b =>
      refine ⟨b.foretold? known, fun count => ?_⟩
      exact yields_constant_called (fun b' same => (Except.ok.inj same).symm) [] foretold count line
  | method active receiver name arguments line ih_receiver ih =>
    obtain ⟨known, foretold⟩ :=
      exists_forall₂_of_forall_mem fun e mem => ih e mem (clean.operand e mem)
    obtain ⟨b, only⟩ := Builtin.exists_only_method name
    simp only [Foretells, evaluate_method_eq]
    obtain ⟨object, category, at_line, rfl, named⟩ | clean_receiver := clean.receiver
    · refine ⟨b.foretold? known, fun count => ?_⟩
      rw [evaluate_category g count active named, pure_bind]
      exact yields_constant_called (only category line) [] foretold count line
    · obtain ⟨head, head_foretold⟩ := ih_receiver clean_receiver
      refine ⟨b.foretold? (head :: known), fun count => ?_⟩
      refine ((head_foretold count).and (yields_plain_evaluate clean_receiver count)).bind
        fun object kinds => ?_
      obtain ⟨head_known, plain⟩ := kinds
      obtain ⟨category, role⟩ := receiverRole_of_plain plain.holds
      rw [role, ← head_known]
      exact yields_constant_called (only category line) [object] foretold count line
  | rule active name body line ih =>
    simp only [Foretells, evaluate_rule]
    exact ih clean.captured

end Expr

end Phrasemill
