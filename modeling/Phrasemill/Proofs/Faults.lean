import Mathlib
import Phrasemill.Proofs.Evaluation
import Phrasemill.Proofs.Pool.Entries
import Phrasemill.Proofs.Pool.Serving

/-!
# Which faults a call raises

A call faults because of its function, the number of its operands or their values (`OfCall`), or, if
it draws, because candidates are short. So what a fault says of rules, that one is not defined or that
one leads back to itself, it does not have from a call (`Builtin.raises_apply`): it comes from a
reference, whichever calls stand around it.
-/

namespace Phrasemill

variable {α β : Type}

/-- The fault blames a call by itself: its function, the number of its operands or their values. -/
def Fault.isOfCall : Fault → Bool
  | unknownFunction _ _ | arityMismatch _ _ _ _ | invalidOperand _ _ _ _ | emptyRange _ _ _
  | emptyChoice _ => true
  | ruleNotFound _ _ | poolExhausted _ | poolInsufficient _ _ _ | cyclicRule _ _ => false

theorem Fault.ne_cyclicRule_of_isOfCall {fault : Fault} (of_call : fault.isOfCall = true)
    (name : String) (line : Nat) : fault ≠ .cyclicRule name line := by
  rintro rfl
  cases of_call

theorem Fault.ne_cyclicRule_of_isShortage {fault : Fault} (shortage : fault.isShortage = true)
    (name : String) (line : Nat) : fault ≠ .cyclicRule name line := by
  rintro rfl
  cases shortage

/-! ### Checks -/

/-- If the check faults, it blames the call. -/
def OfCall (check : Except Fault α) : Prop := ∀ fault, check = .error fault → fault.isOfCall = true

theorem ofCall_ok (a : α) : OfCall (.ok a) := by
  intro fault h
  cases h

theorem ofCall_error {fault : Fault} (blames : fault.isOfCall = true) :
    OfCall (.error fault : Except Fault α) := by
  intro fault' h
  cases h
  exact blames

theorem OfCall.bind {check : Except Fault α} (h : OfCall check) {next : α → Except Fault β}
    (next_of_call : ∀ a, OfCall (next a)) : OfCall (check >>= next) := by
  cases check with
  | ok a => exact next_of_call a
  | error fault => exact ofCall_error (h fault rfl)

namespace Builtin

theorem ofCall_resolveName (name : String) (line : Nat) : OfCall (resolveName name line) := by
  unfold resolveName
  split
  · exact ofCall_ok _
  · exact ofCall_error rfl

theorem ofCall_resolveMethod (category : Category) (name : String) (line : Nat) :
    OfCall (resolveMethod category name line) := by
  unfold resolveMethod
  split
  · exact ofCall_ok _
  · split
    · exact ofCall_error rfl
    · exact ofCall_error rfl

theorem ofCall_checkArity (b : Builtin) (found line : Nat) : OfCall (b.checkArity found line) := by
  unfold checkArity
  split
  · exact ofCall_ok _
  · exact ofCall_error rfl

theorem ofCall_exactly (b : Builtin) (n : Nat) (operands : List Value) (line : Nat) :
    OfCall (b.exactly n operands line) := by
  unfold exactly
  split
  · exact ofCall_ok _
  · exact ofCall_error rfl

theorem ofCall_choices (operands : List Value) (line : Nat) : OfCall (choices operands line) := by
  unfold choices
  dsimp only
  split
  · exact ofCall_ok _
  · exact ofCall_error rfl

theorem ofCall_asInteger (method : String) (line : Nat) (value : Value) :
    OfCall (value.asInteger method line) := by
  cases value with
  | integer value => exact ofCall_ok _
  | text value => exact ofCall_error rfl
  | list items => exact ofCall_error rfl
  | category category => exact ofCall_error rfl

theorem ofCall_range (low high : Int64) (line : Nat) : OfCall (range low high line) := by
  unfold range
  split
  · exact ofCall_error rfl
  · exact ofCall_ok _

theorem ofCall_betweenRange (operands : List Value) (line : Nat) :
    OfCall (betweenRange operands line) :=
  (ofCall_exactly between 2 operands line).bind fun _ =>
    (ofCall_asInteger _ line _).bind fun _ =>
      (ofCall_asInteger _ line _).bind fun _ => ofCall_range _ _ line

theorem ofCall_uptoRange (operands : List Value) (line : Nat) : OfCall (uptoRange operands line) :=
  (ofCall_exactly upto 1 operands line).bind fun _ =>
    (ofCall_asInteger _ line _).bind fun _ => ofCall_range _ _ line

end Builtin

/-! ### Generators -/

namespace Generator

/-- Whatever the randomness and the pool are, the generator raises no faults but of a kind. -/
def Raises (kind : Fault → Prop) (m : Generator α) : Prop :=
  ∀ s p fault, (m.outcome s p).result = .error fault → kind fault

variable {kind : Fault → Prop}

theorem Raises.bind {m : Generator α} (h : m.Raises kind) {f : α → Generator β}
    (next : ∀ a, (f a).Raises kind) : (m >>= f).Raises kind := by
  intro s p fault raised
  have here := h s p
  rw [outcome_bind] at raised
  cases left : m.outcome s p with
  | mk result source pool =>
    rw [left] at raised here
    cases result with
    | ok a => exact next a source pool fault raised
    | error first =>
      cases raised
      exact here fault rfl

theorem Raises.mono {m : Generator α} (h : m.Raises kind) {other : Fault → Prop}
    (implies : ∀ fault, kind fault → other fault) : m.Raises other :=
  fun s p fault raised => implies fault (h s p fault raised)

theorem raises_pure (a : α) : (pure a : Generator α).Raises kind := by
  intro s p fault raised
  cases raised

theorem raises_throw {fault : Fault} (h : kind fault) : (throw fault : Generator α).Raises kind := by
  intro s p fault' raised
  cases raised
  exact h

theorem raises_random (draw : RandomSource → α × RandomSource) : (random draw).Raises kind := by
  intro s p fault raised
  cases raised

theorem raises_check {check : Except Fault α} (h : ∀ fault, check = .error fault → kind fault) :
    (Generator.check check).Raises kind :=
  fun _ _ => h

theorem raises_draw (key : Pool.Key) (demand : Pool.Demand) (line : Nat)
    (h : ∀ fault : Fault, fault.isShortage = true → kind fault) :
    (draw key demand line).Raises kind := by
  intro s p fault raised
  rw [outcome_draw, Pool.answer_fst] at raised
  by_cases enough : demand.amount ≤ (p.left key).size
  · obtain ⟨values, t, granted, -⟩ := Pool.serve_granted (r := ⟨key, demand, line, s⟩) enough
    rw [granted] at raised
    cases raised
  · obtain ⟨shortage, short, refused⟩ :=
      Pool.serve_refused (r := ⟨key, demand, line, s⟩) (Nat.lt_of_not_le enough)
    rw [refused] at raised
    cases raised
    exact h fault short

theorem raises_mapM {γ : Type} {f : γ → Generator α} {cs : List γ}
    (h : ∀ c ∈ cs, (f c).Raises kind) : (cs.mapM f).Raises kind := by
  induction cs with
  | nil => exact raises_pure []
  | cons c cs ih =>
    obtain ⟨here, others⟩ := List.forall_mem_cons.1 h
    rw [List.mapM_cons]
    exact here.bind fun _ => (ih others).bind fun _ => raises_pure _

end Generator

/-! ### Calls -/

namespace Builtin

open Generator

variable {kind : Fault → Prop} (of_call : ∀ fault : Fault, fault.isOfCall = true → kind fault)
  (shortage : ∀ fault : Fault, fault.isShortage = true → kind fault)

include of_call

theorem raises_of_ofCall {check : Except Fault α} (h : OfCall check) :
    (Generator.check check).Raises kind :=
  raises_check fun fault faults => of_call fault (h fault faults)

include shortage

theorem raises_rowValue (b : Builtin) (site : CallSite) (operands : List Value) :
    (b.rowValue site operands).Raises kind := by
  cases b with
  | append => exact raises_pure _
  | lower => exact (raises_of_ofCall of_call (ofCall_exactly _ _ _ _)).bind fun _ => raises_pure _
  | oneOf =>
    exact (raises_of_ofCall of_call (ofCall_choices _ _)).bind fun _ =>
      (raises_random _).bind fun _ => raises_pure _
  | oneOfUnique =>
    have drawn := (raises_draw (poolKey site operands) .one site.line shortage).bind
      fun drawn : Array Value => raises_pure (drawn.getD 0 default)
    exact drawn.bind fun _ => raises_pure _
  | between =>
    exact (raises_of_ofCall of_call (ofCall_betweenRange _ _)).bind fun _ =>
      (raises_random _).bind fun _ => raises_pure _
  | upto =>
    exact (raises_of_ofCall of_call (ofCall_uptoRange _ _)).bind fun _ =>
      (raises_random _).bind fun _ => raises_pure _

theorem raises_batchValue (b : Builtin) (site : CallSite) (operands : List Value) (count : Nat) :
    (b.batchValue site operands count).Raises kind := by
  have sampling (draw : RandomSource → Value × RandomSource) : (sampled draw count).Raises kind :=
    (raises_random _).bind fun _ => raises_pure _
  cases b with
  | append => exact raises_pure _
  | lower => exact (raises_of_ofCall of_call (ofCall_exactly _ _ _ _)).bind fun _ => raises_pure _
  | oneOf => exact (raises_of_ofCall of_call (ofCall_choices _ _)).bind fun _ => sampling _
  | oneOfUnique =>
    rw [batchValue]
    split
    · exact (raises_rowValue of_call shortage _ _ _).bind fun _ => raises_pure _
    · exact (raises_draw _ _ _ shortage).bind fun _ => raises_pure _
  | between => exact (raises_of_ofCall of_call (ofCall_betweenRange _ _)).bind fun _ => sampling _
  | upto => exact (raises_of_ofCall of_call (ofCall_uptoRange _ _)).bind fun _ => sampling _

/-- A builtin that is applied raises faults of calls and shortages alone. -/
theorem raises_apply (b : Builtin) (site : CallSite) (columns : List Batch) (count : Nat) :
    (b.apply site columns count).Raises kind := by
  have arity (operands : List Value) :=
    raises_of_ofCall of_call (ofCall_checkArity b operands.length site.line)
  unfold apply
  split
  · exact (arity _).bind fun _ => raises_batchValue of_call shortage b site _ count
  · refine (raises_mapM fun i _ => ?_).bind fun _ => raises_pure _
    have row := (arity (Batch.row columns i)).bind fun _ =>
      raises_rowValue of_call shortage b site (Batch.row columns i)
    exact row.bind fun _ => raises_pure _

end Builtin

/-! ### Expressions -/

namespace Expr

open Generator

variable {g : Grammar} {count : Nat} {active : List String} {kind : Fault → Prop}

theorem raises_evaluateAll {es : List Expr} (h : ∀ e ∈ es, (evaluate g count active e).Raises kind) :
    (evaluateAll g count active es).Raises kind := by
  induction es with
  | nil =>
    rw [evaluateAll]
    exact raises_pure []
  | cons e es ih =>
    obtain ⟨here, others⟩ := List.forall_mem_cons.1 h
    rw [evaluateAll]
    exact here.bind fun _ => (ih others).bind fun _ => raises_pure _

/-- A call adds to the faults of its arguments its own ones and shortages. -/
theorem raises_called (of_call : ∀ fault : Fault, fault.isOfCall = true → kind fault)
    (shortage : ∀ fault : Fault, fault.isShortage = true → kind fault)
    {resolved : Except Fault Builtin} (lookup : OfCall resolved) {arguments : List Expr}
    (operands : (evaluateAll g count active arguments).Raises kind) (first : List Batch)
    (line : Nat) : (called g count active resolved first arguments line).Raises kind := by
  refine (Builtin.raises_of_ofCall of_call lookup).bind fun b => ?_
  refine (Builtin.raises_of_ofCall of_call (Builtin.ofCall_checkArity _ _ _)).bind fun _ => ?_
  exact operands.bind fun columns => Builtin.raises_apply of_call shortage b _ _ count

end Expr

end Phrasemill
