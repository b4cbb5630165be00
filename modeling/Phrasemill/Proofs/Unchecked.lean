import Mathlib
import Phrasemill.Proofs.Footprint
import Phrasemill.Proofs.Quiet
import Phrasemill.Proofs.Termination

/-!
# Evaluation without the check for cycles

Without the check evaluation need not end, so it is looked at under every bound. An evaluation that
completes has completed all that it needs, each part within a smaller bound. So what is needed for
itself completes within no bound (`Expr.not_completes_of_cycle`), though it may fault before it gets to
the bound, in a later round than the first one. Without randomness every round is like the first one,
and there is no bound at which evaluation is not given up (`Expr.gives_up_of_cyclicRule`). With
randomness a later round can only fault where evaluation can, as long as it draws nothing from the pool
(`Expr.meets_evaluate`).
-/

namespace Phrasemill

namespace Generator

variable {α β γ : Type}

/-- From some source and some pool on the computation has a result and is not given up. -/
def Completes (m : OptionT Generator α) : Prop :=
  ∃ s p a, (m.run.outcome s p).result = .ok (some a)

theorem Completes.bind {m : OptionT Generator α} {f : α → OptionT Generator β}
    (h : Completes (m >>= f)) : Completes m ∧ ∃ a, Completes (f a) := by
  obtain ⟨s, p, b, result⟩ := h
  rw [OptionT.run_bind, Option.elimM, result_bind_eq_ok_iff] at result
  obtain ⟨first, first_eq, result⟩ := result
  cases first with
  | none => cases result
  | some a => exact ⟨⟨s, p, a, first_eq⟩, a, _, _, b, result⟩

theorem not_completes_failure : ¬ Completes (failure : OptionT Generator α) := by
  rintro ⟨s, p, a, result⟩
  cases result

theorem Completes.mapM {f : γ → OptionT Generator α} {cs : List γ} (h : Completes (cs.mapM f)) :
    ∀ c ∈ cs, Completes (f c) := by
  induction cs with
  | nil => exact List.forall_mem_nil _
  | cons c cs ih =>
    rw [List.mapM_cons] at h
    obtain ⟨here, results, rest⟩ := h.bind
    exact List.forall_mem_cons.2 ⟨here, ih rest.bind.1⟩

theorem pure_ne_throw (a : α) (fault : Fault) : (pure a : Generator α) ≠ throw fault := by
  intro same
  cases congrArg (fun m : Generator α => (m.outcome (.ofSeed 0) ∅).result) same

theorem throw_inj {fault fault' : Fault}
    (same : (throw fault : Generator α) = throw fault') : fault = fault' := by
  have results := congrArg (fun m : Generator α => (m.outcome (.ofSeed 0) ∅).result) same
  exact Except.error.inj results

/-- Whatever rules are active, the second computation does what the first one does, unless it is given
up. Where the first one faults it is free, but not if the fault blames this rule for a cycle. -/
inductive Follows (blamed : String) (known : α → Prop) :
    Generator α → (List String → OptionT Generator α) → Prop
  | unfinished (m : Generator α) : Follows blamed known m fun _ => failure
  | known {a : α} (h : known a) : Follows blamed known (pure a) fun _ => pure a
  | faulted {fault : Fault} (other : ∀ line, fault ≠ .cyclicRule blamed line)
      (u : List String → OptionT Generator α) : Follows blamed known (throw fault) u

variable {blamed : String} {known : α → Prop} {m : Generator α}
  {u : List String → OptionT Generator α}

theorem Follows.reindex (h : Follows blamed known m u) (f : List String → List String) :
    Follows blamed known m fun active => u (f active) := by
  cases h with
  | unfinished => exact .unfinished m
  | known here => exact .known here
  | faulted other => exact .faulted other _

theorem Follows.bind (h : Follows blamed known m u) {known' : β → Prop} {f : α → Generator β}
    {f' : List String → α → OptionT Generator β}
    (next : ∀ a, known a → Follows blamed known' (f a) fun active => f' active a) :
    Follows blamed known' (m >>= f) fun active => u active >>= f' active := by
  cases h with
  | unfinished => exact .unfinished _
  | known here =>
    simp only [pure_bind]
    exact next _ here
  | faulted other => 
    rw [throw_bind]
    exact .faulted other _

theorem Follows.given_up {line : Nat} (h : Follows blamed known m u)
    (raised : m = throw (.cyclicRule blamed line)) (active : List String) : u active = failure := by
  cases h with
  | unfinished => rfl
  | known => exact absurd raised (pure_ne_throw _ _)
  | faulted other => exact absurd (throw_inj raised) (other line)

/-- From every source and every pool on, the second computation is given up, or both have the same
result and leave the same, or the first one faults without blaming one of these rules for a cycle. -/
def Meets (blamed : String → Prop) (m : Generator α) (u : OptionT Generator α) : Prop :=
  ∀ s p, (u.run.outcome s p).result = .ok none ∨
    (∃ a s' p', m.outcome s p = ⟨.ok a, s', p'⟩ ∧ u.run.outcome s p = ⟨.ok (some a), s', p'⟩) ∨
    ∃ fault, (m.outcome s p).result = .error fault ∧
      ∀ name line, blamed name → fault ≠ .cyclicRule name line

theorem meets_pure {blamed : String → Prop} (a : α) : Meets blamed (pure a) (pure a) :=
  fun s p => .inr (.inl ⟨a, s, p, rfl, rfl⟩)

theorem meets_throw {blamed : String → Prop} {fault : Fault}
    (other : ∀ name line, blamed name → fault ≠ .cyclicRule name line) (u : OptionT Generator α) :
    Meets blamed (throw fault) u :=
  fun _ _ => .inr (.inr ⟨fault, rfl, other⟩)

theorem meets_lift {blamed : String → Prop} {m : Generator α}
    (raises : m.Raises fun fault => ∀ name line, fault ≠ .cyclicRule name line) :
    Meets blamed m (OptionT.lift m) := by
  intro s p
  have lifted : (OptionT.lift m).run.outcome s p = (m >>= fun a => pure (some a)).outcome s p := rfl
  rw [outcome_bind] at lifted
  cases left : m.outcome s p with
  | mk result s' p' =>
    rw [left] at lifted
    cases result with
    | ok a => exact .inr (.inl ⟨a, s', p', rfl, lifted⟩)
    | error fault =>
      refine .inr (.inr ⟨fault, rfl, fun name line _ => ?_⟩)
      exact raises s p fault (congrArg Outcome.result left) name line

theorem Meets.bind {blamed : String → Prop} {m : Generator α} {u : OptionT Generator α}
    (h : Meets blamed m u) {f : α → Generator β} {f' : α → OptionT Generator β}
    (next : ∀ a, Meets blamed (f a) (f' a)) : Meets blamed (m >>= f) (u >>= f') := by
  intro s p
  rw [OptionT.run_bind, Option.elimM, outcome_bind, outcome_bind]
  obtain given_up | ⟨a, s', p', here, unchecked⟩ | ⟨fault, raised, other⟩ := h s p
  · left
    cases left : u.run.outcome s p with
    | mk result s' p' =>
      rw [left] at given_up
      cases given_up
      rfl
  · rw [here, unchecked]
    exact next a s' p'
  · right
    right
    cases left : m.outcome s p with
    | mk result s' p' =>
      rw [left] at raised
      cases raised
      exact ⟨fault, rfl, other⟩

end Generator

namespace Expr

open Generator

/-- The second expression is evaluated for the first one, however deep in it. -/
abbrev Reaches (g : Grammar) : Expr → Expr → Prop := Relation.ReflTransGen (Part g)

/-! ### Whatever is needed completes -/

section Unchecked

variable {g : Grammar} {count : Nat} {active : List String} {e part : Expr}

theorem completes_operand {self : List String → Expr → OptionT Generator Batch}
    {resolved : Except Fault Builtin} {first : List Batch} {arguments : List Expr} {line : Nat}
    (h : Completes (calledStep count self active resolved first arguments line))
    (mem : e ∈ arguments) : Completes (self active e) := by
  obtain ⟨-, b, checked⟩ := h.bind
  obtain ⟨-, _, applied⟩ := checked.bind
  exact applied.bind.1.mapM e mem

/-- Whatever an evaluation without the check needs has been evaluated when it completes. -/
theorem completes_part {self : List String → Expr → OptionT Generator Batch}
    (h : Completes (evaluateStep false g count self active e)) (is_part : Part g e part) :
    ∃ active', Completes (self active' part) := by
  cases is_part with
  | element mem line => exact ⟨active, h.bind.1.mapM part mem⟩
  | argument mem name line => exact ⟨active, completes_operand h mem⟩
  | receiver receiver name arguments line => exact ⟨active, h.bind.1⟩
  | operand mem receiver name line =>
    obtain ⟨-, object, called⟩ := h.bind
    exact ⟨active, completes_operand called mem⟩
  | captured name body line => exact ⟨name :: active, h⟩
  | @defined name body unnamed found line =>
    rw [evaluateStep, unnamed, found] at h
    dsimp only at h
    rw [if_neg fun both => Bool.false_ne_true both.1] at h
    exact ⟨name :: active, h⟩

theorem completes_within_part {bound : Nat}
    (h : Completes (evaluateWithin false g count bound active e)) (is_part : Part g e part) :
    ∃ bound' < bound, ∃ active', Completes (evaluateWithin false g count bound' active' part) := by
  cases bound with
  | zero => exact absurd h not_completes_failure
  | succ bound =>
    obtain ⟨active', completes⟩ := completes_part h is_part
    exact ⟨bound, Nat.lt_succ_self bound, active', completes⟩

theorem completes_within_reached {bound : Nat}
    (h : Completes (evaluateWithin false g count bound active e)) (reached : Reaches g e part) :
    ∃ bound' ≤ bound, ∃ active', Completes (evaluateWithin false g count bound' active' part) := by
  induction reached with
  | refl => exact ⟨bound, le_refl bound, active, h⟩
  | tail _ is_part ih =>
    obtain ⟨middle, le, active', completes⟩ := ih
    obtain ⟨bound', lt, rest⟩ := completes_within_part completes is_part
    exact ⟨bound', lt.le.trans le, rest⟩

/-- What is evaluated for itself is never done. -/
theorem not_completes_of_cycle {first : Expr} (is_part : Part g e first) (back : Reaches g first e)
    (bound : Nat) (active : List String) :
    ¬ Completes (evaluateWithin false g count bound active e) := by
  induction bound using Nat.strong_induction_on generalizing active with
  | _ bound ih =>
    intro h
    obtain ⟨middle, lt, active', completes⟩ := completes_within_part h is_part
    obtain ⟨bound', le, active'', again⟩ := completes_within_reached completes back
    exact ih bound' (le.trans_lt lt) active'' again

end Unchecked

/-! ### Without randomness -/

section Still

variable {g : Grammar} {count bound : Nat} {active : List String} {e : Expr} {blamed : String}

/-- Without randomness, a fault is all that there is to an evaluation that ends in it. -/
theorem evaluate_eq_throw (free : RandomnessFree g e) {s : RandomSource} {p : Pool} {fault : Fault}
    (raised : ((evaluate g count active e).outcome s p).result = .error fault) :
    evaluate g count active e = throw fault := by
  obtain ⟨value, -, gives⟩ | ⟨fault', -, faults⟩ := settles_of_randomnessFree active free
  · have here : evaluate g count active e = pure _ := gives count
    rw [here] at raised
    cases raised
  · have here : evaluate g count active e = throw fault' := faults count
    rw [here] at raised ⊢
    cases raised
    rfl

theorem follows_mapM {self : List String → Expr → OptionT Generator Batch} {es : List Expr}
    (h : ∀ e ∈ es, Follows blamed (fun batch => ∃ value, batch = Batch.constant value count)
      (evaluate g count active e) fun active => self active e) :
    Follows blamed
      (fun columns => ∃ values, values.length = es.length ∧ columns = Batch.constants values count)
      (evaluateAll g count active es) fun active => es.mapM (self active) := by
  induction es with
  | nil =>
    simp only [evaluateAll, List.mapM_nil]
    exact .known ⟨[], rfl, rfl⟩
  | cons e es ih =>
    obtain ⟨here, others⟩ := List.forall_mem_cons.1 h
    simp only [evaluateAll, List.mapM_cons]
    refine here.bind ?_
    rintro _ ⟨value, rfl⟩
    refine (ih others).bind ?_
    rintro _ ⟨values, length, rfl⟩
    exact .known ⟨value :: values, congrArg (· + 1) length, rfl⟩

theorem follows_called {self : List String → Expr → OptionT Generator Batch} {b : Builtin}
    (text : b = .append ∨ b = .lower) (first : List Value) {arguments : List Expr}
    (h : ∀ e ∈ arguments, Follows blamed (fun batch => ∃ value, batch = Batch.constant value count)
      (evaluate g count active e) fun active => self active e) (line : Nat) :
    Follows blamed (fun batch => ∃ value, batch = Batch.constant value count)
      (called g count active (.ok b) (Batch.constants first count) arguments line) fun active =>
        calledStep count self active (.ok b) (Batch.constants first count) arguments line := by
  simp only [called, calledStep, check_ok, OptionT.lift_pure, pure_bind, Batch.length_constants]
  by_cases accepted : b.arity.accepts (first.length + arguments.length) = true
  · simp only [Builtin.checkArity_of_accepts accepted, check_ok, OptionT.lift_pure, pure_bind]
    refine (follows_mapM h).bind ?_
    rintro _ ⟨values, length, rfl⟩
    rw [← length, ← List.length_append] at accepted
    obtain ⟨value, folds⟩ := exists_fold? text accepted
    simp only [← Batch.constants_append, Builtin.apply_constants, Builtin.callBatch_of_fold? folds]
    exact .known ⟨value, rfl⟩
  · rw [Builtin.checkArity, if_neg accepted, check_error, throw_bind]
    refine .faulted (fun line => ?_) _
    exact Fault.noConfusion

/-- Without randomness, evaluation that does not check for cycles goes on like evaluation. It does not
get past a rule whose body it never gets to the end of. -/
theorem follows_evaluate {body : Expr} (found : g.find? blamed = some body) (free : RandomnessFree g e)
    (endless : ∀ bound' < bound, ∀ active, evaluateWithin false g count bound' active body = failure) :
    Follows blamed (fun batch => ∃ value, batch = Batch.constant value count)
      (evaluate g count active e) fun active => evaluateWithin false g count bound active e := by
  induction bound generalizing active e with
  | zero => exact .unfinished _
  | succ bound ih =>
    have below {part : Expr} (active' : List String) (is_part : Part g e part) :=
      @ih active' part (free.part is_part) fun bound' lt => endless bound' (Nat.lt_succ_of_lt lt)
    cases e with
    | literal constant line =>
      rw [evaluate]
      exact .known ⟨_, rfl⟩
    | reference name line =>
      simp only [evaluateWithin, evaluateStep]
      cases unnamed : Category.ofName? name with
      | some category =>
        rw [evaluate_category g count active unnamed]
        exact .known ⟨_, rfl⟩
      | none =>
        rw [evaluate_reference g count active unnamed]
        cases defined : g.find? name with
        | none => exact .faulted (fun _ => Fault.noConfusion) _
        | some inside =>
          simp only [Bool.false_eq_true, false_and, if_false]
          split
          · by_cases same : name = blamed
            · subst same
              cases found.symm.trans defined
              simp only [endless bound (Nat.lt_succ_self bound)]
              exact .unfinished _
            · refine .faulted (fun at_line is_cyclic => ?_) _
              cases is_cyclic
              exact same rfl
          · exact (below (name :: active) (.defined unnamed defined line)).reindex (name :: ·)
    | list elements line =>
      rw [evaluate]
      refine (follows_mapM fun e mem => below active (.element mem line)).bind ?_
      rintro _ ⟨values, -, rfl⟩
      rw [Batch.lists_constants]
      exact .known ⟨_, rfl⟩
    | call name arguments line =>
      obtain ⟨b, found_here, text⟩ := named?_of_text free.self
      simp only [evaluateWithin, evaluateStep, evaluate_call_eq,
        Builtin.resolveName_of_named? found_here]
      exact follows_called text [] (fun e mem => below active (.argument mem name line)) line
    | method receiver name arguments line =>
      rw [evaluate_method_eq]
      refine (below active (.receiver receiver name arguments line)).bind ?_
      rintro _ ⟨value, rfl⟩
      obtain ⟨b, found_here, text⟩ := method?_of_text free.self value.toCategory
      simp only [receiverRole_constant, Builtin.resolveMethod_of_method? found_here]
      exact follows_called text _ (fun e mem => below active (.operand mem receiver name line)) line
    | rule name body line =>
      rw [evaluate_rule]
      exact (below (name :: active) (.captured name body line)).reindex (name :: ·)

/-- Without randomness, evaluation that does not check for cycles never gets to the end of what
evaluation blames a rule for, if that rule has a body for which evaluation blames it as well. -/
theorem gives_up_of_cyclicRule {body : Expr} {line : Nat} {inside : List String}
    (found : g.find? blamed = some body) (free_body : RandomnessFree g body)
    (again : evaluate g count inside body = throw (.cyclicRule blamed line))
    (free : RandomnessFree g e) (raised : evaluate g count active e = throw (.cyclicRule blamed line))
    (bound : Nat) (active' : List String) :
    evaluateWithin false g count bound active' e = failure := by
  have endless (bound : Nat) :
      ∀ active, evaluateWithin false g count bound active body = failure := by
    induction bound using Nat.strong_induction_on with
    | _ bound ih => exact (follows_evaluate found free_body ih).given_up again
  exact (follows_evaluate found free fun bound' _ => endless bound').given_up raised active'

end Still

/-! ### With randomness -/

section Random

variable {g : Grammar} {count bound : Nat} {inside active : List String} {blamed : String → Prop}

theorem meets_mapM {self : List String → Expr → OptionT Generator Batch} {es : List Expr}
    (h : ∀ e ∈ es, Meets blamed (evaluate g count inside e) (self active e)) :
    Meets blamed (evaluateAll g count inside es) (es.mapM (self active)) := by
  induction es with
  | nil =>
    rw [evaluateAll, List.mapM_nil]
    exact meets_pure []
  | cons e es ih =>
    obtain ⟨here, others⟩ := List.forall_mem_cons.1 h
    rw [evaluateAll, List.mapM_cons]
    exact here.bind fun _ => (ih others).bind fun _ => meets_pure _

/-- A call that is no draw does the same whatever rules are active, so both meet if its operands do. -/
theorem meets_called {self : List String → Expr → OptionT Generator Batch}
    {resolved : Except Fault Builtin} (lookup : OfCall resolved)
    (other : ∀ b, resolved = .ok b → b ≠ .oneOfUnique) (first : List Batch) {arguments : List Expr}
    (h : ∀ e ∈ arguments, Meets blamed (evaluate g count inside e) (self active e)) (line : Nat) :
    Meets blamed (called g count inside resolved first arguments line)
      (calledStep count self active resolved first arguments line) := by
  have checked {α : Type} {check : Except Fault α} (of_call : OfCall check) :
      Meets blamed (Generator.check check) (OptionT.lift (Generator.check check)) :=
    meets_lift (raises_check fun fault faults => Fault.ne_cyclicRule_of_isOfCall (of_call fault faults))
  cases resolved with
  | error fault =>
    rw [called, check_error, throw_bind]
    exact meets_throw (fun name line _ => Fault.ne_cyclicRule_of_isOfCall (lookup fault rfl) name line) _
  | ok b =>
    rw [called, calledStep, check_ok, OptionT.lift_pure, pure_bind, pure_bind]
    refine (checked (Builtin.ofCall_checkArity _ _ _)).bind fun _ => ?_
    refine (meets_mapM h).bind fun columns => ?_
    rw [Builtin.apply_congr_rule (other b rfl) inside.head? active.head?]
    exact meets_lift (Builtin.raises_apply (fun _ => Fault.ne_cyclicRule_of_isOfCall)
      (fun _ => Fault.ne_cyclicRule_of_isShortage) b _ _ count)

/-- Where nothing is drawn from the pool, evaluation that does not check for cycles meets evaluation,
if it does not get past the rules that evaluation may blame. -/
theorem meets_evaluate {e : Expr} (silent : DrawsNothing g e)
    (endless : ∀ name body, blamed name → g.find? name = some body → ∀ bound' < bound, ∀ active s p,
      ((evaluateWithin false g count bound' active body).run.outcome s p).result = .ok none) :
    Meets blamed (evaluate g count inside e) (evaluateWithin false g count bound active e) := by
  induction bound generalizing inside active e with
  | zero => exact fun _ _ => .inl rfl
  | succ bound ih =>
    have below {part : Expr} (inside' active' : List String) (is_part : Part g e part) :
        Meets blamed (evaluate g count inside' part)
          (evaluateWithin false g count bound active' part) :=
      ih (silent.part is_part) fun name body is_blamed found bound' lt =>
        endless name body is_blamed found bound' (Nat.lt_succ_of_lt lt)
    cases e with
    | literal constant line =>
      rw [evaluate]
      exact meets_pure _
    | reference name line =>
      simp only [evaluateWithin, evaluateStep]
      cases unnamed : Category.ofName? name with
      | some category =>
        rw [evaluate_category g count inside unnamed]
        exact meets_pure _
      | none =>
        rw [evaluate_reference g count inside unnamed]
        cases found : g.find? name with
        | none => exact meets_throw (fun _ _ _ => Fault.noConfusion) _
        | some body =>
          simp only [Bool.false_eq_true, false_and, if_false]
          split
          · by_cases is_blamed : blamed name
            · have given_up := endless name body is_blamed found bound (Nat.lt_succ_self bound)
              exact fun s p => .inl (given_up (name :: active) s p)
            · refine meets_throw (fun other _ other_blamed same => is_blamed ?_) _
              cases same
              exact other_blamed
          · exact below (name :: inside) (name :: active) (.defined unnamed found line)
    | list elements line =>
      rw [evaluate]
      refine (meets_mapM fun e mem => below inside active (.element mem line)).bind fun columns => ?_
      exact meets_pure _
    | call name arguments line =>
      rw [evaluate_call_eq]
      refine meets_called (Builtin.ofCall_resolveName name line) (fun b resolved => ?_) []
        (fun e mem => below inside active (.argument mem name line)) line
      rintro rfl
      exact silent.self (Builtin.name_of_resolveName resolved).symm
    | method receiver name arguments line =>
      rw [evaluate_method_eq]
      refine (below inside active (.receiver receiver name arguments line)).bind fun object => ?_
      refine meets_called (Builtin.ofCall_resolveMethod _ name line) (fun b resolved => ?_) _
        (fun e mem => below inside active (.operand mem receiver name line)) line
      rintro rfl
      exact silent.self (Builtin.methodName_of_resolveMethod resolved).symm
    | rule name body line =>
      rw [evaluate_rule]
      exact below (name :: inside) (name :: active) (.captured name body line)

end Random
end Expr

end Phrasemill
