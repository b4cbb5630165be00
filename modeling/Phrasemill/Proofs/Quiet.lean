import Mathlib
import Phrasemill.Proofs.Faults

/-!
# Generators that leave the pool alone

A generator is quiet if it never asks the pool for anything: from a random source on it is over at
once, with a result or with a fault that is no shortage. So it makes no difference to a quiet
generator what the pool holds, nor to the pool that it runs (`Quiet.same_outcome`). Every function
but one is quiet, whatever its operands, and so is every expression that reaches no call of that one
(`Expr.quiet_evaluate`).
-/

namespace Phrasemill

variable {α β : Type}

/-! ### Checks -/

/-- If the check faults, it is not for want of candidates. -/
def NeverShort (check : Except Fault α) : Prop :=
  ∀ fault, check = .error fault → fault.isShortage = false

theorem neverShort_ok (a : α) : NeverShort (.ok a) := by
  intro fault h
  cases h

theorem neverShort_error {fault : Fault} (other : fault.isShortage = false) :
    NeverShort (.error fault : Except Fault α) := by
  intro fault' h
  cases h
  exact other

/-- What blames a call does not blame the pool. -/
theorem OfCall.neverShort {check : Except Fault α} (h : OfCall check) : NeverShort check := by
  intro fault faults
  have blames := h fault faults
  cases fault with
  | poolExhausted line => cases blames
  | poolInsufficient requested remaining line => cases blames
  | _ => rfl

/-! ### Quiet generators -/

namespace Generator

/-- The generator asks the pool for nothing and never runs short of candidates. -/
def Quiet (m : Generator α) : Prop :=
  ∀ s, ∃ result left, m.dialogue s = .finished (result, left) ∧ NeverShort result

theorem Quiet.bind {m : Generator α} (h : m.Quiet) {f : α → Generator β}
    (next : ∀ a, (f a).Quiet) : (m >>= f).Quiet := by
  intro s
  obtain ⟨result, left, finished, never⟩ := h s
  rw [dialogue_bind, finished, Dialogue.finished_bind]
  cases result with
  | ok a => exact next a left
  | error fault => exact ⟨.error fault, left, rfl, neverShort_error (never fault rfl)⟩

theorem quiet_pure (a : α) : (pure a : Generator α).Quiet :=
  fun s => ⟨.ok a, s, rfl, neverShort_ok a⟩

theorem quiet_throw {fault : Fault} (other : fault.isShortage = false) :
    (throw fault : Generator α).Quiet :=
  fun s => ⟨.error fault, s, rfl, neverShort_error other⟩

theorem quiet_check {check : Except Fault α} (never : NeverShort check) :
    (Generator.check check).Quiet :=
  fun s => ⟨check, s, rfl, never⟩

theorem quiet_random (draw : RandomSource → α × RandomSource) : (random draw).Quiet :=
  fun s => ⟨.ok (draw s).1, (draw s).2, rfl, neverShort_ok _⟩

theorem quiet_mapM {γ : Type} {f : γ → Generator β} (h : ∀ c, (f c).Quiet) (cs : List γ) :
    (cs.mapM f).Quiet := by
  induction cs with
  | nil => exact quiet_pure []
  | cons c cs ih =>
    rw [List.mapM_cons]
    exact (h c).bind fun _ => ih.bind fun _ => quiet_pure _

/-- A quiet generator does the same with every pool and leaves it as it is. -/
theorem Quiet.same_outcome {m : Generator α} (h : m.Quiet) (s : RandomSource) (p : Pool) :
    m.outcome s p = ⟨(m.outcome s ∅).result, (m.outcome s ∅).source, p⟩ := by
  obtain ⟨result, left, is_over, -⟩ := h s
  rw [outcome_eq, outcome_eq, is_over]
  rfl

theorem Quiet.dialogue_eq {m : Generator α} (h : m.Quiet) (s : RandomSource) :
    m.dialogue s = .finished ((m.outcome s ∅).result, (m.outcome s ∅).source) := by
  obtain ⟨result, left, is_over, -⟩ := h s
  rw [outcome_eq, is_over]
  rfl

theorem Quiet.neverShort {m : Generator α} (h : m.Quiet) (s : RandomSource) (p : Pool) :
    NeverShort (m.outcome s p).result := by
  obtain ⟨result, left, is_over, never⟩ := h s
  rw [outcome_eq, is_over]
  exact never

end Generator

/-! ### Calls -/

namespace Builtin

open Generator

theorem quiet_sampled (draw : RandomSource → Value × RandomSource) (count : Nat) :
    (sampled draw count).Quiet :=
  (quiet_random _).bind fun _ => quiet_pure _

variable {b : Builtin} (other : b ≠ .oneOfUnique)

include other

theorem quiet_rowValue (site : CallSite) (operands : List Value) :
    (b.rowValue site operands).Quiet := by
  cases b with
  | append => exact quiet_pure _
  | lower => exact (quiet_check (ofCall_exactly _ _ _ _).neverShort).bind fun _ => quiet_pure _
  | oneOf =>
    exact (quiet_check (ofCall_choices _ _).neverShort).bind fun _ =>
      (quiet_random _).bind fun _ => quiet_pure _
  | oneOfUnique => exact absurd rfl other
  | between =>
    exact (quiet_check (ofCall_betweenRange _ _).neverShort).bind fun _ =>
      (quiet_random _).bind fun _ => quiet_pure _
  | upto =>
    exact (quiet_check (ofCall_uptoRange _ _).neverShort).bind fun _ =>
      (quiet_random _).bind fun _ => quiet_pure _

theorem quiet_callRow (site : CallSite) (operands : List Value) :
    (b.callRow site operands).Quiet :=
  (quiet_check (ofCall_checkArity _ _ _).neverShort).bind fun _ => quiet_rowValue other site operands

theorem quiet_batchValue (site : CallSite) (operands : List Value) (count : Nat) :
    (b.batchValue site operands count).Quiet := by
  cases b with
  | append => exact quiet_pure _
  | lower => exact (quiet_check (ofCall_exactly _ _ _ _).neverShort).bind fun _ => quiet_pure _
  | oneOf => exact (quiet_check (ofCall_choices _ _).neverShort).bind fun _ => quiet_sampled _ count
  | oneOfUnique => exact absurd rfl other
  | between => exact (quiet_check (ofCall_betweenRange _ _).neverShort).bind fun _ => quiet_sampled _ count
  | upto => exact (quiet_check (ofCall_uptoRange _ _).neverShort).bind fun _ => quiet_sampled _ count

/-- All functions but one leave the pool alone, whatever their operands. -/
theorem quiet_apply (site : CallSite) (columns : List Batch) (count : Nat) :
    (b.apply site columns count).Quiet := by
  unfold apply
  split
  · exact (quiet_check (ofCall_checkArity _ _ _).neverShort).bind fun _ =>
      quiet_batchValue other site _ count
  · refine (quiet_mapM (fun i => ?_) _).bind fun _ => quiet_pure _
    exact (quiet_callRow other site _).bind fun _ => quiet_pure _

/-- Of all that is done by a call only a draw asks which rule it stands in. -/
theorem apply_congr_rule (rule rule' : Option String) (line : Nat) (columns : List Batch)
    (count : Nat) : b.apply ⟨rule, line⟩ columns count = b.apply ⟨rule', line⟩ columns count := by
  cases b with
  | oneOfUnique => exact absurd rfl other
  | append | lower | oneOf | between | upto => rfl

end Builtin

/-! ### Expressions -/

namespace Expr

/-- The expression is not itself a draw of unique candidates. -/
def NoDraw : Expr → Prop
  | call name _ _ => name ≠ Builtin.oneOfUnique.name
  | method _ name _ _ => name ≠ Builtin.oneOfUnique.methodName
  | _ => True

instance : DecidablePred NoDraw
  | call _ _ _ | method _ _ _ _ => inferInstanceAs (Decidable (_ ≠ _))
  | literal _ _ | reference _ _ | list _ _ | rule _ _ _ => .isTrue trivial

/-- Neither the expression nor any rule that is reached from it draws unique candidates. -/
def DrawsNothing (g : Grammar) (e : Expr) : Prop := Everywhere g NoDraw e

section

open Generator

variable {g : Grammar} {count : Nat} {active : List String}

theorem quiet_evaluateAll {es : List Expr} (h : ∀ e ∈ es, (evaluate g count active e).Quiet) :
    (evaluateAll g count active es).Quiet := by
  induction es with
  | nil =>
    rw [evaluateAll]
    exact quiet_pure []
  | cons e es ih =>
    obtain ⟨here, others⟩ := List.forall_mem_cons.1 h
    rw [evaluateAll]
    exact here.bind fun _ => (ih others).bind fun _ => quiet_pure _

/-- A call that is not a draw adds nothing to what its arguments do. -/
theorem quiet_called {resolved : Except Fault Builtin} (never : NeverShort resolved)
    (other : ∀ b, resolved = .ok b → b ≠ .oneOfUnique) {arguments : List Expr}
    (operands : (evaluateAll g count active arguments).Quiet) (first : List Batch) (line : Nat) :
    (called g count active resolved first arguments line).Quiet := by
  cases resolved with
  | error fault => exact quiet_throw (never fault rfl)
  | ok b =>
    rw [called, check_ok, pure_bind]
    refine (quiet_check (Builtin.ofCall_checkArity _ _ _).neverShort).bind fun _ => ?_
    exact operands.bind fun columns => Builtin.quiet_apply (other b rfl) _ _ count

/-- An expression that reaches no draw leaves the pool alone. -/
theorem quiet_evaluate {e : Expr} (h : DrawsNothing g e) : (evaluate g count active e).Quiet := by
  induction active, e using evaluate_induction g with
  | literal active constant line =>
    rw [evaluate]
    exact quiet_pure _
  | reference active name line ih =>
    cases named : Category.ofName? name with
    | some category =>
      rw [evaluate_category g count active named]
      exact quiet_pure _
    | none =>
      obtain ⟨-, fails⟩ | ⟨-, fails⟩ | ⟨body, found, fresh, enters⟩ :=
        evaluate_reference_cases g active named line
      · rw [fails]
        exact quiet_throw rfl
      · rw [fails]
        exact quiet_throw rfl
      · rw [enters]
        exact ih body named found fresh (h.part (.defined named found line))
  | list active elements line ih =>
    rw [evaluate]
    refine (quiet_evaluateAll fun e mem => ih e mem (h.part (.element mem line))).bind fun _ => ?_
    exact quiet_pure _
  | call active name arguments line ih =>
    rw [evaluate_call_eq]
    refine quiet_called (Builtin.ofCall_resolveName name line).neverShort (fun b resolved => ?_)
      (quiet_evaluateAll fun e mem => ih e mem (h.part (.argument mem name line))) [] line
    rintro rfl
    exact h.self (Builtin.name_of_resolveName resolved).symm
  | method active receiver name arguments line ih_receiver ih =>
    rw [evaluate_method_eq]
    refine (ih_receiver (h.part (.receiver receiver name arguments line))).bind fun object => ?_
    refine quiet_called (Builtin.ofCall_resolveMethod _ name line).neverShort (fun b resolved => ?_)
      (quiet_evaluateAll fun e mem => ih e mem (h.part (.operand mem receiver name line))) _ line
    rintro rfl
    exact h.self (Builtin.methodName_of_resolveMethod resolved).symm
  | rule active name body line ih =>
    rw [evaluate_rule]
    exact ih (h.part (.captured name body line))

end

end Expr

end Phrasemill
