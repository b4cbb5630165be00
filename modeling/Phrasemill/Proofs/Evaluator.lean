import Mathlib
import Phrasemill.Evaluator
import Phrasemill.Proofs.Evaluation
import Phrasemill.Proofs.Except

/-!
# The stack of an evaluator

An evaluator takes off its stack what it has put there, on every way out of an evaluation, also out of
one that faults deep inside. It therefore does what evaluation does that is told the active rules
(`Evaluator.evaluate_eq_perform`), and the stack it ends with is the one it began with. An evaluator
that began without rules is as good as a new one after any number of evaluations
(`Evaluator.active_kept`).
-/

namespace Phrasemill

section Dialogue

variable {σ α β : Type} (answer : σ → Pool.Request → Pool.Reply × σ)

theorem Dialogue.runFrom_bind (d : Dialogue α) (f : α → Dialogue β) (s : σ) :
    (d >>= f).runFrom answer s =
      (f (d.runFrom answer s).1).runFrom answer (d.runFrom answer s).2 := by
  induction d generalizing s with
  | finished a => rfl
  | ask request resume ih => exact ih _ _

/-- A pool that nobody else has a share in. -/
theorem Dialogue.runFrom_pool (d : Dialogue α) (p : Pool) : d.runFrom Pool.answer p = d.run p := by
  induction d generalizing p with
  | finished a => rfl
  | ask request resume ih => exact ih _ _

end Dialogue

namespace Evaluator

variable {σ α β : Type} (answer : σ → Pool.Request → Pool.Reply × σ)

theorem Done.andThen_congr {v : Evaluator σ} {next next' : α → (w : v.After) → w.Done β}
    (same : ∀ a w, next a w = next' a w) (d : v.Done α) : d.andThen next = d.andThen next' := by
  have next_eq : next = next' := by
    ext a w
    exact same a w
  rw [next_eq]

/-! ### Performing -/

@[simp] theorem perform_pure (a : α) (v : Evaluator σ) :
    v.perform answer (pure a : Generator α) = v.result a := rfl

@[simp] theorem perform_throw (f : Fault) (v : Evaluator σ) :
    v.perform answer (throw f : Generator α) = v.fault f := rfl

/-- A generator goes on only after a result, on the evaluator that is left. -/
theorem perform_bind (m : Generator α) (f : α → Generator β) (v : Evaluator σ) :
    v.perform answer (m >>= f) =
      (v.perform answer m).andThen fun a w => w.perform answer (f a) := by
  have dialogue_eq := Generator.dialogue_bind m f v.source
  unfold Generator.dialogue at dialogue_eq
  simp only [perform, dialogue_eq, Dialogue.runFrom_bind]
  generalize (StateT.run (ExceptT.run m) v.source).runFrom answer v.pool = r
  obtain ⟨⟨r, source⟩, pool⟩ := r
  cases r with
  | ok a => rfl
  | error f => rfl

/-- What is performed has nothing to do with the stack. -/
theorem leave_perform (m : Generator α) (name : String) (v : Evaluator σ) :
    ((v.enter name).perform answer m).leave = v.perform answer m := rfl

/-! ### Evaluating is performing an evaluation -/

section Evaluation

variable (g : Grammar) (count : Nat)

/-- What becomes of a reference that names no category. -/
theorem evaluate_reference {name : String} (h : Category.ofName? name = none) (line : Nat)
    (v : Evaluator σ) :
    evaluate answer g count (.reference name line) v =
      match g.find? name with
      | none => v.fault (.ruleNotFound name line)
      | some body =>
        if name ∈ v.active then v.fault (.cyclicRule name line)
        else (evaluate answer g count body (v.enter name)).leave := by
  rw [evaluate]
  split
  · next category named =>
    rw [h] at named
    cases named
  · split
    · next found => rw [found]
    · next body found =>
      conv_rhs => rw [found]
      rfl

/-- Where these rules are its stack, the evaluator does what evaluation does while they are active. -/
def Performs (active : List String) (e : Expr) : Prop :=
  ∀ v : Evaluator σ, v.active = active →
    evaluate answer g count e v = v.perform answer (e.evaluate g count active)

variable {g count} {active : List String} {v : Evaluator σ}

theorem entered_eq_perform {name : String} {body : Expr}
    (inside : Performs answer g count (name :: active) body) (on : v.active = active) :
    (evaluate answer g count body (v.enter name)).leave =
      v.perform answer (body.evaluate g count (name :: active)) := by
  have entered : (v.enter name).active = name :: active := by
    show name :: v.active = name :: active
    rw [on]
  rw [inside (v.enter name) entered, leave_perform]

theorem evaluateAll_eq_perform {es : List Expr}
    (each : ∀ e ∈ es, Performs answer g count active e) (on : v.active = active) :
    evaluateAll answer g count es v = v.perform answer (Expr.evaluateAll g count active es) := by
  induction es generalizing v with
  | nil => rw [evaluateAll, Expr.evaluateAll, perform_pure]
  | cons e es ih =>
    obtain ⟨first, others⟩ := List.forall_mem_cons.1 each
    rw [evaluateAll, Expr.evaluateAll, perform_bind, first v on]
    apply Done.andThen_congr
    intro column w
    rw [perform_bind, ih others (w.kept.trans on)]
    simp only [perform_pure]

theorem called_eq_callee (resolved : Except Fault Builtin) (first : List Batch)
    (arguments : List Expr) (line : Nat) :
    Expr.called g count active resolved first arguments line =
      Generator.check (callee resolved (first.length + arguments.length) line) >>= fun b =>
        Expr.evaluateAll g count active arguments >>= fun columns =>
          b.apply ⟨active.head?, line⟩ (first ++ columns) count := by
  rw [Expr.called, callee]
  cases resolved with
  | error f => rfl
  | ok b =>
    rw [ok_bind, Generator.check_ok, pure_bind]
    cases b.checkArity (first.length + arguments.length) line with
    | error f => rfl
    | ok accepted =>
      rw [ok_bind, Generator.check_ok, pure_bind]
      rfl

/-- What becomes of a call once its function is looked up. -/
theorem called_eq_perform {arguments : List Expr}
    (each : ∀ e ∈ arguments, Performs answer g count active e) (on : v.active = active)
    (resolved : Except Fault Builtin) (first : List Batch) (line : Nat) :
    (match callee resolved (first.length + arguments.length) line with
      | .error f => v.fault f
      | .ok b =>
        (evaluateAll answer g count arguments v).andThen fun columns w =>
          w.perform answer (b.apply ⟨w.active.head?, line⟩ (first ++ columns) count)) =
      v.perform answer (Expr.called g count active resolved first arguments line) := by
  rw [called_eq_callee]
  cases callee resolved (first.length + arguments.length) line with
  | error f => rfl
  | ok b =>
    rw [Generator.check_ok, pure_bind, perform_bind, ← evaluateAll_eq_perform answer each on]
    apply Done.andThen_congr
    intro columns w
    rw [w.kept, on]

/-- Each way of evaluating an expression takes off the stack what it has put there. -/
theorem performs (g : Grammar) (count : Nat) (active : List String) (e : Expr) :
    Performs answer g count active e := by
  induction active, e using Expr.evaluate_induction g with
  | literal active constant line =>
    intro v on
    rw [evaluate, Expr.evaluate, perform_pure]
  | reference active name line ih =>
    intro v on
    cases named : Category.ofName? name with
    | some category =>
      rw [evaluate, Expr.evaluate_category g count active named, perform_pure, named]
    | none =>
      rw [evaluate_reference answer g count named, Expr.evaluate_reference g count active named, on]
      cases found : g.find? name with
      | none => rw [perform_throw]
      | some body =>
        dsimp only
        by_cases entered : name ∈ active
        · rw [if_pos entered, if_pos entered, perform_throw]
        · rw [if_neg entered, if_neg entered]
          exact entered_eq_perform answer (ih body named found entered) on
  | list active elements line ih =>
    intro v on
    rw [evaluate, Expr.evaluate, perform_bind, evaluateAll_eq_perform answer ih on]
    simp only [perform_pure]
  | call active name arguments line ih =>
    intro v on
    rw [evaluate, Expr.evaluate_call_eq, ← called_eq_perform answer ih on, List.length_nil,
      Nat.zero_add]
    rfl
  | method active receiver name arguments line ih_receiver ih =>
    intro v on
    rw [evaluate, Expr.evaluate_method_eq, perform_bind, ih_receiver v on]
    apply Done.andThen_congr
    intro object w
    exact called_eq_perform answer ih (w.kept.trans on) _ _ line
  | rule active name body line ih =>
    intro v on
    rw [evaluate, Expr.evaluate_rule]
    exact entered_eq_perform answer ih on

/-- An evaluator does what evaluation does while the rules on its stack are active. -/
theorem evaluate_eq_perform (g : Grammar) (count : Nat) (e : Expr) (v : Evaluator σ) :
    evaluate answer g count e v = v.perform answer (e.evaluate g count v.active) :=
  performs answer g count v.active e v rfl

/-- On a pool of its own, a new evaluator has the outcome of an evaluation without active rules. -/
theorem evaluate_start (g : Grammar) (count : Nat) (e : Expr) (source : RandomSource) (p : Pool) :
    (evaluate Pool.answer g count e (start source p)).map id After.toEvaluator =
      let ⟨r, source, p⟩ := (e.evaluate g count []).outcome source p
      (r, start source p) := by
  rw [evaluate_eq_perform, start, perform, Dialogue.runFrom_pool, Generator.outcome]
  rfl

end Evaluation

/-! ### One evaluation after the other -/

section Each

variable (g : Grammar)

theorem active_evaluateEach (es : List (Expr × Nat)) (v : Evaluator σ) :
    (evaluateEach answer g es v).2.active = v.active := by
  induction es generalizing v with
  | nil => rfl
  | cons first es ih =>
    obtain ⟨e, count⟩ := first
    have left := ih (evaluate answer g count e v).2.toEvaluator
    exact left.trans (evaluate answer g count e v).2.kept

theorem evaluateEach_append (before after : List (Expr × Nat)) (v : Evaluator σ) :
    evaluateEach answer g (before ++ after) v =
      let (earlier, w) := evaluateEach answer g before v
      let (later, last) := evaluateEach answer g after w
      (earlier ++ later, last) := by
  induction before generalizing v with
  | nil => rfl
  | cons first before ih =>
    obtain ⟨e, count⟩ := first
    rw [List.cons_append, evaluateEach, evaluateEach]
    generalize evaluate answer g count e v = d
    obtain ⟨r, w⟩ := d
    dsimp only
    rw [ih]
    rfl

/-- An evaluation ends with the stack that it began with, whether it has a result or faults: what it has
done is what evaluation does while the rules on the stack are active. So in any sequence of evaluations
that begins without rules, each one comes out as on an evaluator that is new, but for the source and the
pool that are left by then. Whatever answers the draws may do so by the keys of all that it was asked, so
these are the same as well. -/
theorem active_kept :
    (∀ (v : Evaluator σ) (e : Expr) (count : Nat),
      (evaluate answer g count e v).2.active = v.active ∧
        evaluate answer g count e v = v.perform answer (e.evaluate g count v.active)) ∧
    ∀ (source : RandomSource) (pool : σ) (before : List (Expr × Nat)) (e : Expr) (count : Nat)
      (after : List (Expr × Nat)),
      let (earlier, v) := evaluateEach answer g before (start source pool)
      let (r, w) := evaluate answer g count e (start v.source v.pool)
      let (later, last) := evaluateEach answer g after (start w.source w.pool)
      evaluateEach answer g (before ++ (e, count) :: after) (start source pool) =
        (earlier ++ r :: later, last) := by
  constructor
  · intro v e count
    exact ⟨(evaluate answer g count e v).2.kept, evaluate_eq_perform answer g count e v⟩
  · intro source pool before e count after
    have empty := active_evaluateEach answer g before (start source pool)
    rw [evaluateEach_append]
    generalize evaluateEach answer g before (start source pool) = ended at empty ⊢
    obtain ⟨earlier, ⟨source', pool', active⟩⟩ := ended
    obtain rfl : active = [] := empty
    simp only [start, evaluateEach]
    generalize evaluate answer g count e ⟨source', pool', []⟩ = d
    obtain ⟨r, ⟨⟨source'', pool'', active⟩, kept⟩⟩ := d
    obtain rfl : active = [] := kept
    rfl

end Each

end Evaluator

end Phrasemill
