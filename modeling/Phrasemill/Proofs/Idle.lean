import Mathlib
import Phrasemill.Proofs.Foretold
import Phrasemill.Proofs.Forms

/-!
# No repetitions

An expression can be evaluated for no repetitions at all. Then there is no value that could be wrong:
if the expression has a result for any number of repetitions, it has one for none, whatever the
randomness and the pool are, and it takes nothing for it (`Expr.evaluate_zero`).

The two evaluations have little in common. A receiver that varies has no first value to choose its
methods by, and is taken for a number instead. This is right for every name that was a method of its
first value, since numbers have the methods of all builtins. The operands of a call that is made as a
batch are the same in both evaluations, as they can be foretold, and they are checked in both.
-/

namespace Phrasemill

variable {α β : Type}

theorem Pool.Faithful.congr {p q : Pool} (h : p.Faithful) (same : ∀ k, q.left k = p.left k) :
    q.Faithful := by
  intro k
  rw [same k]
  exact h k

theorem Batch.representatives_congr {columns columns' : List Batch}
    (same : columns.map constant? = columns'.map constant?) (all : allConstant columns = true) :
    allConstant columns' = true ∧ representatives columns' = representatives columns := by
  have both := mapM_constant? columns'
  rw [← same, mapM_constant?, if_pos all] at both
  split at both
  · next all' => exact ⟨all', (Option.some.inj both).symm⟩
  · cases both

/-! ### Generators that take nothing -/

namespace Generator

/-- Run by itself, the generator has a result with some randomness and some pool. -/
def Succeeds (m : Generator α) : Prop :=
  ∃ s p, p.Faithful ∧ ∃ a, (m.outcome s p).result = .ok a

/-- Run by itself, the generator has a result with any randomness and any pool, for which it takes no
randomness and no candidates. -/
def Idle (m : Generator α) : Prop :=
  ∀ s p, p.Faithful →
    ∃ a after, m.outcome s p = ⟨.ok a, s, after⟩ ∧ ∀ k, after.left k = p.left k

theorem faithful_outcome (m : Generator α) (s : RandomSource) {p : Pool} (faithful : p.Faithful) :
    (m.outcome s p).pool.Faithful :=
  ((m.yields_true s).run faithful).2

/-- Where a sequence has a result both parts have one. -/
theorem Succeeds.of_bind {P : α → Prop} {m : Generator α} {f : α → Generator β}
    (h : (m >>= f).Succeeds) (given : m.Yields P) : m.Succeeds ∧ ∃ a, P a ∧ (f a).Succeeds := by
  obtain ⟨s, p, faithful, b, result⟩ := h
  obtain ⟨a, first, second⟩ := result_bind_eq_ok_iff.1 result
  exact ⟨⟨s, p, faithful, a, first⟩, a, given.result faithful first, _, _,
    m.faithful_outcome s faithful, b, second⟩

theorem Succeeds.of_check {check : Except Fault α} {f : α → Generator β}
    (h : (Generator.check check >>= f).Succeeds) : ∃ a, check = .ok a ∧ (f a).Succeeds :=
  (h.of_bind (yields_check fun _ found => found)).2

theorem not_succeeds_throw (fault : Fault) : ¬ (throw fault : Generator α).Succeeds := by
  rintro ⟨s, p, -, a, result⟩
  cases result

theorem idle_pure (a : α) : (pure a : Generator α).Idle := fun _ p _ => ⟨a, p, rfl, fun _ => rfl⟩

theorem Idle.bind {P : α → Prop} {m : Generator α} (h : m.Idle) (given : m.Yields P)
    {f : α → Generator β} (next : ∀ a, P a → (f a).Idle) : (m >>= f).Idle := by
  intro s p faithful
  obtain ⟨a, between, first, kept⟩ := h s p faithful
  have kind : P a := given.result faithful (congrArg Outcome.result first)
  obtain ⟨b, after, second, kept'⟩ := next a kind s between (faithful.congr kept)
  refine ⟨b, after, ?_, fun k => (kept' k).trans (kept k)⟩
  rw [outcome_bind, first]
  exact second

/-- A check that is passed takes nothing. -/
theorem idle_check_bind {check : Except Fault α} (passed : (check.map fun _ => ()) = .ok ())
    {f : α → Generator β} (next : ∀ a, (f a).Idle) : (Generator.check check >>= f).Idle := by
  cases check with
  | ok a => exact next a
  | error fault => cases passed

end Generator

/-! ### Calls -/

namespace Builtin

open Generator

variable {b : Builtin} {site : CallSite} {operands : List Value}

/-- A call that has a result, for any number of repetitions, has proper operands. -/
theorem checkOperands_of_succeeds {count : Nat} (h : (b.callBatch site operands count).Succeeds) :
    b.checkOperands operands site.line = .ok () := by
  by_cases draws : b = .oneOfUnique
  · subst draws
    obtain ⟨_, accepted, -⟩ := h.of_check
    rw [checkOperands, accepted, ok_bind]
  · obtain ⟨s, p, -, batch, result⟩ := h
    cases checked : b.checkOperands operands site.line with
    | ok _ => rfl
    | error fault =>
      rw [(faultsAs_callBatch draws site operands count s p fault).2 checked] at result
      cases result

theorem idle_sampled (draw : RandomSource → Value × RandomSource) : (sampled draw 0).Idle :=
  idle_pure (Batch.varying #[])

/-- With proper operands nothing is taken for no repetitions, not even by a draw. -/
theorem idle_callBatch (checked : b.checkOperands operands site.line = .ok ()) :
    (b.callBatch site operands 0).Idle := by
  obtain ⟨_, arity, checked⟩ := bind_eq_ok_iff.1 checked
  have accepted := accepts_of_checkArity arity
  rw [callBatch]
  refine idle_check_bind (by rw [arity]; rfl) fun _ => ?_
  cases b with
  | append => exact idle_pure _
  | lower => exact idle_check_bind checked fun _ => idle_pure _
  | oneOf => exact idle_check_bind checked fun _ => idle_sampled _
  | oneOfUnique =>
    rw [← callBatch_unique accepted]
    intro s p _
    obtain ⟨after, outcome, entries⟩ :=
      outcome_callBatch_of_enough accepted (p := p) (Nat.zero_le _) s
    refine ⟨_, after, outcome, fun k => ?_⟩
    rw [Pool.left_of_find?_eq_ite (entries k)]
    split
    · next same => rw [same]; rfl
    · rfl
  | between => exact idle_check_bind checked fun _ => idle_sampled _
  | upto => exact idle_check_bind checked fun _ => idle_sampled _

/-- Columns that are constant in both evaluations hold the same values. Else there are no rows. -/
theorem idle_apply {columns columns' : List Batch} {count : Nat}
    (h : (b.apply site columns' count).Succeeds)
    (same : columns.map Batch.constant? = columns'.map Batch.constant?) :
    (b.apply site columns 0).Idle := by
  rw [apply]
  split
  · next all =>
    obtain ⟨all', values⟩ := Batch.representatives_congr same all
    rw [apply, if_pos all', values] at h
    exact idle_callBatch (checkOperands_of_succeeds h)
  · exact idle_pure (Batch.varying #[])

end Builtin

/-! ### Expressions -/

namespace Expr

open Generator

variable {g : Grammar} {active : List String} {count : Nat}

theorem idle_evaluateAll {es : List Expr}
    (h : ∀ e ∈ es, (evaluate g count active e).Succeeds → (evaluate g 0 active e).Idle)
    (succeeds : (evaluateAll g count active es).Succeeds) : (evaluateAll g 0 active es).Idle := by
  induction es with
  | nil =>
    rw [evaluateAll]
    exact idle_pure []
  | cons e es ih =>
    obtain ⟨here, others⟩ := List.forall_mem_cons.1 h
    rw [evaluateAll] at succeeds ⊢
    obtain ⟨first, _, -, succeeds⟩ := succeeds.of_bind (yields_true _)
    obtain ⟨rest, -⟩ := succeeds.of_bind (yields_true _)
    refine (here first).bind (yields_true _) fun column _ => ?_
    exact (ih others rest).bind (yields_true _) fun columns _ => idle_pure _

/-- A call that has a result takes nothing for no repetitions, if the same builtin is meant then and
the columns before its arguments repeat the same values. -/
theorem idle_called {resolved resolved' : Except Fault Builtin}
    (meant : ∀ b, resolved' = .ok b → resolved = .ok b) {first first' : List Batch}
    (same : first.map Batch.constant? = first'.map Batch.constant?) {arguments : List Expr}
    (clean : ∀ e ∈ arguments, Clean g e)
    (behind : ∀ e ∈ arguments, (evaluate g count active e).Succeeds → (evaluate g 0 active e).Idle)
    {line : Nat} (succeeds : (called g count active resolved' first' arguments line).Succeeds) :
    (called g 0 active resolved first arguments line).Idle := by
  obtain ⟨known, foretold⟩ :=
    exists_forall₂_of_forall_mem fun e mem => exists_foretells active (clean e mem)
  obtain ⟨b, resolves, succeeds⟩ := succeeds.of_check
  obtain ⟨_, arity, succeeds⟩ := succeeds.of_check
  obtain ⟨evaluated, columns', columns_known', applied⟩ :=
    succeeds.of_bind (yields_constant_evaluateAll foretold count)
  have accepted : b.arity.accepts (first.length + arguments.length) = true := by
    have length : first.length = first'.length := by simpa using congrArg List.length same
    rw [length]
    exact Builtin.accepts_of_checkArity arity
  rw [meant b resolves, called_of_accepts g 0 active accepted]
  refine (idle_evaluateAll behind evaluated).bind (yields_constant_evaluateAll foretold 0)
    fun columns columns_known => Builtin.idle_apply applied ?_
  rw [List.map_append, List.map_append, same, columns_known, columns_known']

/-- A receiver without values has all methods that it has with values. -/
theorem resolveMethod_of_empty {object object' : Batch} (empty : object.size = 0)
    (plain : object.Holds Value.Plain) (plain' : object'.Holds Value.Plain)
    (same : object.constant? = object'.constant?) {name : String} {line : Nat} {b : Builtin}
    (resolves : Builtin.resolveMethod (receiverRole object').1 name line = .ok b) :
    Builtin.resolveMethod (receiverRole object).1 name line = .ok b := by
  cases object with
  | constant value n =>
    cases object' with
    | constant value' n' =>
      cases same
      have category_eq :
          (receiverRole (.constant value n)).1 = (receiverRole (.constant value n')).1 := by
        cases value <;> rfl
      rw [category_eq]
      exact resolves
    | varying values => cases same
  | varying values =>
    obtain rfl : values = #[] := Array.eq_empty_of_size_eq_zero empty
    have role : receiverRole (.varying #[]) = (.numeric, [.varying #[]]) := rfl
    rw [role, ← Builtin.methodName_of_resolveMethod resolves]
    exact Builtin.resolveMethod_of_method?
      (Builtin.method?_methodName (Category.supports_numeric b.owner)) line

theorem idle_evaluate {e : Expr} (clean : Clean g e)
    (succeeds : (evaluate g count active e).Succeeds) : (evaluate g 0 active e).Idle := by
  induction active, e using evaluate_induction g with
  | literal active constant line =>
    rw [evaluate]
    exact idle_pure _
  | reference active name line ih =>
    have unnamed : Category.ofName? name = none := Option.not_isSome_iff_eq_none.1 clean.here
    obtain ⟨-, fails⟩ | ⟨-, fails⟩ | ⟨body, found, fresh, enters⟩ :=
      evaluate_reference_cases g active unnamed line
    · rw [fails] at succeeds
      exact absurd succeeds (not_succeeds_throw _)
    · rw [fails] at succeeds
      exact absurd succeeds (not_succeeds_throw _)
    · rw [enters] at succeeds ⊢
      exact ih body unnamed found fresh (clean.defined unnamed found) succeeds
  | list active elements line ih =>
    rw [evaluate] at succeeds ⊢
    obtain ⟨columns, -⟩ := succeeds.of_bind (yields_true _)
    refine (idle_evaluateAll (fun e mem => ih e mem (clean.element e mem)) columns).bind
      (yields_true _) fun columns _ => idle_pure _
  | call active name arguments line ih =>
    rw [evaluate_call_eq] at succeeds ⊢
    exact idle_called (fun b resolves => resolves) rfl clean.argument
      (fun e mem => ih e mem (clean.argument e mem)) succeeds
  | method active receiver name arguments line ih_receiver ih =>
    have behind := fun e mem => ih e mem (clean.operand e mem)
    rw [evaluate_method_eq] at succeeds ⊢
    obtain ⟨object, category, at_line, rfl, named⟩ | clean_receiver := clean.receiver
    · rw [evaluate_category g _ active named, pure_bind] at succeeds ⊢
      exact idle_called (fun b resolves => resolves) rfl clean.operand behind succeeds
    · obtain ⟨head, foretold⟩ := exists_foretells active clean_receiver
      have kinds (n : Nat) := (foretold n).and (yields_plain_evaluate clean_receiver n)
      obtain ⟨evaluated, object', ⟨head_known', consists'⟩, succeeds⟩ :=
        succeeds.of_bind (kinds count)
      refine (ih_receiver clean_receiver evaluated).bind (kinds 0) fun object kind => ?_
      obtain ⟨head_known, consists⟩ := kind
      have same : object.constant? = object'.constant? := head_known.trans head_known'.symm
      have same_first : [object].map Batch.constant? = [object'].map Batch.constant? := by
        simp [same]
      have meant (b : Builtin) :
          Builtin.resolveMethod (receiverRole object').1 name line = .ok b →
            Builtin.resolveMethod (receiverRole object).1 name line = .ok b :=
        resolveMethod_of_empty consists.size consists.holds consists'.holds same
      obtain ⟨category, role⟩ := receiverRole_of_plain consists.holds
      obtain ⟨category', role'⟩ := receiverRole_of_plain consists'.holds
      rw [role, role'] at meant
      rw [role'] at succeeds
      rw [role]
      exact idle_called meant same_first clean.operand behind succeeds
  | rule active name body line ih =>
    rw [evaluate_rule] at succeeds ⊢
    exact ih clean.captured succeeds

/-- A clean expression, evaluated inside some rules. Whether a result is a constant batch depends on
neither the number of repetitions nor the randomness nor what is left in the pool. And if there is a
result once, for any number of repetitions, then for none there always is one, which is empty and for
which neither randomness nor candidates are taken. -/
theorem evaluate_zero {e : Expr} (clean : Clean g e) :
    (∃ constant : Bool, ∀ n s p batch, p.Faithful →
        ((evaluate g n active e).outcome s p).result = .ok batch → batch.isConstant = constant) ∧
      ∀ n s p batch, p.Faithful → ((evaluate g n active e).outcome s p).result = .ok batch →
        ∀ s' p', p'.Faithful →
          ∃ empty after, (evaluate g 0 active e).outcome s' p' = ⟨.ok empty, s', after⟩ ∧
            empty.isEmpty = true ∧ ∀ k, after.left k = p'.left k := by
  constructor
  · obtain ⟨known, foretold⟩ := exists_foretells active clean
    refine ⟨known.isSome, fun n s p batch faithful result => ?_⟩
    rw [← batch.isSome_constant?, (foretold n).result faithful result]
  · intro n s p batch faithful result s' p' faithful'
    obtain ⟨empty, after, outcome, kept⟩ :=
      idle_evaluate clean ⟨s, p, faithful, batch, result⟩ s' p' faithful'
    have consists :=
      (yields_plain_evaluate clean 0).result faithful' (congrArg Outcome.result outcome)
    exact ⟨empty, after, outcome, beq_iff_eq.2 consists.size, kept⟩

/-- The only name there is has been drawn. No further one can be, but no further one is needed for no
repetitions. -/
theorem evaluate_zero_of_drawn :
    let e := Expr.call "one_of_unique" [.list ([.text "Ann"].map (.literal · 1)) 1] 1
    let drawn := (evaluate ∅ 1 [] e).outcome (.ofSeed 0) ∅
    Clean ∅ e ∧ (∃ batch, drawn.result = .ok batch) ∧
      (drawn.pool.left ⟨none, [.text "Ann"]⟩).size = 0 ∧
      ∃ empty after,
        (evaluate ∅ 0 [] e).outcome drawn.source drawn.pool = ⟨.ok empty, drawn.source, after⟩ ∧
          empty.isEmpty = true ∧ ∀ k, after.left k = drawn.pool.left k := by
  generalize RandomSource.ofSeed 0 = source
  intro e drawn
  have clean : Clean ∅ e := by
    refine ⟨id, everywhere_call (List.forall_mem_singleton.2 id) (List.forall_mem_singleton.2 ?_)⟩
    exact everywhere_list (List.forall_mem_singleton.2 id)
      (everywhere_literals (fun _ => trivial) [.text "Ann"])
  have one :
      ((∅ : Pool).left (Builtin.poolKey ⟨none, 1⟩ [.list [.text "Ann"]])).size = 1 := rfl
  obtain ⟨values, s, after, outcome, taken⟩ := Builtin.outcome_unique_of_enough source one.ge
  have drawn_eq : drawn = ⟨.ok (.varying values), s, after⟩ := by
    rw [← outcome]
    exact congrArg (fun m => m.outcome source ∅) (evaluate_unique_literals ∅ 1 [] [.text "Ann"] 1)
  have faithful : drawn.pool.Faithful := Generator.faithful_outcome _ source Pool.faithful_empty
  have result : drawn.result = .ok (.varying values) := congrArg Outcome.result drawn_eq
  have gone : (drawn.pool.left ⟨none, [.text "Ann"]⟩).size = 0 := by
    rw [drawn_eq]
    exact Nat.succ.inj (taken.trans one)
  obtain ⟨-, none_needed⟩ := evaluate_zero clean
  exact ⟨clean, ⟨_, result⟩, gone, none_needed 1 source ∅ _ Pool.faithful_empty result _ _ faithful⟩

end Expr

end Phrasemill
