import Mathlib
import Phrasemill.Proofs.Evaluation

/-!
# Evaluation ends

Evaluation goes from an expression to its parts and, where a name is looked up, to a body that may be
larger than anything around it. `Nested` says which evaluations one evaluation starts, and
`evaluateStep` is all that it does besides. With every step inwards either a rule is entered that was
not active, so that fewer are left, or the expression gets smaller (`lex_of_nested`). Counted in
expressions, there is then less room left on the way inwards (`room_lt_of_nested`).

So evaluation can be done with a bound on its depth that is known beforehand from the rules and the
expression (`Grammar.depth`): `evaluateWithin`, which gives up at its bound, never gets there and does
what `evaluate` does. It is also defined without the check for cycles, and then there need not be such
a bound.
-/

namespace Phrasemill

namespace Expr

/-! ### Nested evaluations -/

/-- For the first expression, while the first rules are active, the second one is evaluated while the
second rules are. -/
inductive Nested (g : Grammar) : List String × Expr → List String × Expr → Prop
  | element (active : List String) {e : Expr} {elements : List Expr} (mem : e ∈ elements)
      (line : Nat) : Nested g (active, .list elements line) (active, e)
  | argument (active : List String) {e : Expr} {arguments : List Expr} (mem : e ∈ arguments)
      (name : String) (line : Nat) : Nested g (active, .call name arguments line) (active, e)
  | receiver (active : List String) (receiver : Expr) (name : String) (arguments : List Expr)
      (line : Nat) : Nested g (active, .method receiver name arguments line) (active, receiver)
  | operand (active : List String) {e : Expr} {arguments : List Expr} (mem : e ∈ arguments)
      (receiver : Expr) (name : String) (line : Nat) :
      Nested g (active, .method receiver name arguments line) (active, e)
  | captured (active : List String) (name : String) (body : Expr) (line : Nat) :
      Nested g (active, .rule name body line) (name :: active, body)
  | defined {active : List String} {name : String} {body : Expr}
      (unnamed : Category.ofName? name = none) (found : g.find? name = some body)
      (fresh : name ∉ active) (line : Nat) :
      Nested g (active, .reference name line) (name :: active, body)

section Step

variable (checked : Bool) (g : Grammar) (count : Nat)
  (self : List String → Expr → OptionT Generator Batch) (active : List String)

/-- What becomes of a call whose function was looked up, its arguments being left to `self`. -/
def calledStep (resolved : Except Fault Builtin) (first : List Batch) (arguments : List Expr)
    (line : Nat) : OptionT Generator Batch := do
  let b ← OptionT.lift (Generator.check resolved)
  OptionT.lift (Generator.check (b.checkArity (first.length + arguments.length) line))
  let columns ← arguments.mapM (self active)
  OptionT.lift (b.apply ⟨active.head?, line⟩ (first ++ columns) count)

/-- What an evaluation does besides the evaluations nested in it, which are left to `self`. The check
for cycles is made if it is `checked`. -/
def evaluateStep : Expr → OptionT Generator Batch
  | literal constant _ => return .constant constant.toValue count
  | reference name line =>
    match Category.ofName? name with
    | some category => return .constant (.category category) count
    | none =>
      match g.find? name with
      | none => OptionT.lift (throw (.ruleNotFound name line))
      | some body =>
        if checked = true ∧ name ∈ active then OptionT.lift (throw (.cyclicRule name line))
        else self (name :: active) body
  | rule name body _ => self (name :: active) body
  | list elements _ => do
    let columns ← elements.mapM (self active)
    return Batch.lists columns count
  | call name arguments line =>
    calledStep count self active (Builtin.resolveName name line) [] arguments line
  | method receiver name arguments line => do
    let object ← self active receiver
    calledStep count self active (Builtin.resolveMethod (receiverRole object).1 name line)
      (receiverRole object).2 arguments line

end Step

/-- Evaluates an expression, but gives up where evaluations are nested `bound` deep. -/
def evaluateWithin (checked : Bool) (g : Grammar) (count : Nat) :
    (bound : Nat) → List String → Expr → OptionT Generator Batch
  | 0, _, _ => failure
  | bound + 1, active, e =>
    evaluateStep checked g count (evaluateWithin checked g count bound) active e

/-! ### Steps -/

section Equations

variable (g : Grammar) (count : Nat) (active : List String)

theorem mapM_lift_evaluate (es : List Expr) :
    (es.mapM fun e => OptionT.lift (evaluate g count active e)) =
      OptionT.lift (evaluateAll g count active es) := by
  induction es with
  | nil => rw [evaluateAll, List.mapM_nil, OptionT.lift_pure]
  | cons e es ih =>
    rw [evaluateAll, List.mapM_cons, ih]
    simp only [OptionT.lift_bind, OptionT.lift_pure]

theorem calledStep_evaluate (resolved : Except Fault Builtin) (first : List Batch)
    (arguments : List Expr) (line : Nat) :
    calledStep count (fun active e => OptionT.lift (evaluate g count active e)) active resolved first
        arguments line =
      OptionT.lift (called g count active resolved first arguments line) := by
  rw [calledStep, mapM_lift_evaluate, called]
  simp only [OptionT.lift_bind]

/-- Evaluation is the step that leaves nested evaluations to evaluation. -/
theorem evaluateStep_evaluate (e : Expr) :
    evaluateStep true g count (fun active e => OptionT.lift (evaluate g count active e)) active e =
      OptionT.lift (evaluate g count active e) := by
  cases e with
  | literal constant line => rw [evaluateStep, evaluate, OptionT.lift_pure]
  | reference name line =>
    rw [evaluateStep]
    cases named : Category.ofName? name with
    | some category => rw [evaluate_category g count active named, OptionT.lift_pure]
    | none =>
      rw [evaluate_reference g count active named]
      cases g.find? name with
      | none => rfl
      | some body =>
        dsimp only
        by_cases entered : name ∈ active
        · rw [if_pos ⟨rfl, entered⟩, if_pos entered]
        · rw [if_neg fun h => entered h.2, if_neg entered]
  | list elements line =>
    rw [evaluateStep, mapM_lift_evaluate, evaluate]
    simp only [OptionT.lift_bind, OptionT.lift_pure]
  | call name arguments line => rw [evaluateStep, calledStep_evaluate, evaluate_call_eq]
  | method receiver name arguments line =>
    rw [evaluateStep, evaluate_method_eq, OptionT.lift_bind]
    simp only [calledStep_evaluate]
  | rule name body line => rw [evaluateStep, evaluate]

end Equations

section Congruence

variable {g : Grammar} {self other : List String → Expr → OptionT Generator Batch}
  {active : List String}

theorem mapM_congr_of_mem {es : List Expr} (same : ∀ e ∈ es, self active e = other active e) :
    es.mapM (self active) = es.mapM (other active) := by
  induction es with
  | nil => rfl
  | cons e es ih =>
    obtain ⟨here, others⟩ := List.forall_mem_cons.1 same
    rw [List.mapM_cons, List.mapM_cons, here, ih others]

/-- An evaluation starts no evaluations but the nested ones. -/
theorem evaluateStep_congr (count : Nat) (e : Expr)
    (same : ∀ active' e', Nested g (active, e) (active', e') → self active' e' = other active' e') :
    evaluateStep true g count self active e = evaluateStep true g count other active e := by
  cases e with
  | literal constant line => rfl
  | reference name line =>
    rw [evaluateStep, evaluateStep]
    cases unnamed : Category.ofName? name with
    | some category => rfl
    | none =>
      cases found : g.find? name with
      | none => rfl
      | some body =>
        dsimp only
        by_cases entered : name ∈ active
        · rw [if_pos ⟨rfl, entered⟩, if_pos ⟨rfl, entered⟩]
        · rw [if_neg fun h => entered h.2, if_neg fun h => entered h.2,
            same _ _ (.defined unnamed found entered line)]
  | list elements line =>
    rw [evaluateStep, evaluateStep, mapM_congr_of_mem fun e mem => same _ _ (.element active mem line)]
  | call name arguments line =>
    rw [evaluateStep, evaluateStep, calledStep, calledStep,
      mapM_congr_of_mem fun e mem => same _ _ (.argument active mem name line)]
  | method receiver name arguments line =>
    have operands := mapM_congr_of_mem fun e mem => same _ _ (.operand active mem receiver name line)
    simp only [evaluateStep, calledStep, operands,
      same _ _ (.receiver active receiver name arguments line)]
  | rule name body line =>
    rw [evaluateStep, evaluateStep, same _ _ (.captured active name body line)]

end Congruence

/-! ### Sizes -/

mutual

/-- How many expressions an expression is made of, the bodies that were taken up included. -/
def size : Expr → Nat
  | literal _ _ | reference _ _ => 1
  | list elements _ => sizeAll elements + 1
  | call _ arguments _ => sizeAll arguments + 1
  | method receiver _ arguments _ => receiver.size + sizeAll arguments + 1
  | rule _ body _ => body.size + 1

def sizeAll : List Expr → Nat
  | [] => 0
  | e :: es => e.size + sizeAll es

end

theorem size_pos (e : Expr) : 0 < e.size := by
  cases e <;> simp [size]

theorem size_le_sizeAll {e : Expr} {es : List Expr} (mem : e ∈ es) : e.size ≤ sizeAll es := by
  induction es with
  | nil => cases mem
  | cons first es ih =>
    rw [sizeAll]
    rcases List.mem_cons.1 mem with rfl | mem
    · omega
    · have := ih mem
      omega

end Expr

namespace Grammar

/-- The size of a rule as far as it is left to be entered. -/
def sizeLeft (active : List String) (r : String × Expr) : Nat :=
  if r.1 ∈ active then 0 else r.2.size

theorem sizeLeft_cons_le (name : String) (active : List String) (r : String × Expr) :
    sizeLeft (name :: active) r ≤ sizeLeft active r := by
  unfold sizeLeft
  by_cases entered : r.1 ∈ active
  · rw [if_pos (List.mem_cons_of_mem name entered), if_pos entered]
  · rw [if_neg entered]
    split
    · exact Nat.zero_le _
    · exact le_refl _

/-- How many expressions can still be met while the rules `active` are: those of the expression and of
the rules left to be entered. -/
def room (g : Grammar) (active : List String) (e : Expr) : Nat :=
  e.size + (g.rules.map (sizeLeft active)).sum

/-- How deep evaluations are nested at most in the evaluation of an expression, as far as the rules
and the expression tell. -/
def depth (g : Grammar) (e : Expr) : Nat := e.size + (g.rules.map fun r => r.2.size).sum

theorem room_le_depth (g : Grammar) (active : List String) (e : Expr) :
    g.room active e ≤ g.depth e := by
  have each : ∀ r ∈ g.rules, sizeLeft active r ≤ r.2.size := by
    intro r _
    unfold sizeLeft
    split
    · exact Nat.zero_le _
    · exact le_refl _
  exact Nat.add_le_add_left (List.sum_le_sum each) _

theorem sum_sizeLeft_cons_le (rules : List (String × Expr)) (name : String) (active : List String) :
    (rules.map (sizeLeft (name :: active))).sum ≤ (rules.map (sizeLeft active)).sum :=
  List.sum_le_sum fun r _ => sizeLeft_cons_le name active r

/-- Entering a rule for the first time takes its size from what is left. -/
theorem size_add_sum_sizeLeft_le {g : Grammar} {name : String} {body : Expr} {active : List String}
    (found : g.find? name = some body) (fresh : name ∉ active) :
    body.size + (g.rules.map (sizeLeft (name :: active))).sum ≤
      (g.rules.map (sizeLeft active)).sum := by
  obtain ⟨before, behind, split, -⟩ := List.lookup_eq_some_iff.1 found
  have entered : sizeLeft (name :: active) (name, body) = 0 := if_pos List.mem_cons_self
  have left : sizeLeft active (name, body) = body.size := if_neg fresh
  have before_le := sum_sizeLeft_cons_le before name active
  have behind_le := sum_sizeLeft_cons_le behind name active
  rw [split]
  simp only [List.map_append, List.map_cons, List.sum_append, List.sum_cons, entered, left]
  omega

end Grammar

namespace Expr

variable {g : Grammar} {active active' : List String} {e e' : Expr}

/-- A nested evaluation is one of a smaller expression, in a captured rule or in none, or of a rule
that was not active. -/
theorem Nested.smaller_or_entered (nested : Nested g (active, e) (active', e')) :
    (e'.size < e.size ∧ (active' = active ∨ ∃ name, active' = name :: active)) ∨
      ∃ name, active' = name :: active ∧ g.find? name = some e' ∧ name ∉ active := by
  cases nested with
  | element active mem line =>
    have := size_le_sizeAll mem
    exact .inl ⟨by rw [size]; omega, .inl rfl⟩
  | argument active mem name line =>
    have := size_le_sizeAll mem
    exact .inl ⟨by rw [size]; omega, .inl rfl⟩
  | receiver active receiver name arguments line => exact .inl ⟨by rw [size]; omega, .inl rfl⟩
  | operand active mem receiver name line =>
    have := size_le_sizeAll mem
    exact .inl ⟨by rw [size]; omega, .inl rfl⟩
  | captured active name body line => exact .inl ⟨by rw [size]; omega, .inr ⟨name, rfl⟩⟩
  | defined unnamed found fresh line => exact .inr ⟨_, rfl, found, fresh⟩

/-- With every nested evaluation there are fewer rules left to be entered, or as many and the
expression is smaller. -/
theorem lex_of_nested (nested : Nested g (active, e) (active', e')) :
    Prod.Lex (· < ·) (· < ·) (g.unentered active', e'.size) (g.unentered active, e.size) := by
  obtain ⟨smaller, rfl | ⟨name, rfl⟩⟩ | ⟨name, rfl, found, fresh⟩ := nested.smaller_or_entered
  · exact .right _ smaller
  · exact .right' _ (g.unentered_cons_le name active) smaller
  · exact .left _ _ (Grammar.unentered_cons_lt (Grammar.mem_names_of_find? found) fresh)

/-- There is less room for a nested evaluation than for the one it is nested in. -/
theorem room_lt_of_nested (nested : Nested g (active, e) (active', e')) :
    g.room active' e' < g.room active e := by
  unfold Grammar.room
  obtain ⟨smaller, rfl | ⟨name, rfl⟩⟩ | ⟨name, rfl, found, fresh⟩ := nested.smaller_or_entered
  · omega
  · have := Grammar.sum_sizeLeft_cons_le g.rules name active
    omega
  · have := Grammar.size_add_sum_sizeLeft_le found fresh
    have := e.size_pos
    omega

/-! ### Bounds -/

theorem evaluateWithin_of_room_le (count : Nat) {bound : Nat} (enough : g.room active e ≤ bound) :
    evaluateWithin true g count bound active e = OptionT.lift (evaluate g count active e) := by
  induction bound generalizing active e with
  | zero =>
    have := e.size_pos
    unfold Grammar.room at enough
    omega
  | succ bound ih =>
    rw [evaluateWithin, ← evaluateStep_evaluate]
    refine evaluateStep_congr count e fun active' e' nested => ih ?_
    have := room_lt_of_nested nested
    omega

/-- Evaluation ends, whatever the rules, the expression and the active rules are. It starts no
evaluations but the nested ones, and the number of rules left to be entered falls with each of these
or stays while the expression gets smaller. So evaluation that gives up at a bound, where the bound is
found from the rules and the expression alone, never gives up: it does what evaluation does. -/
theorem evaluation_ends (g : Grammar) (count : Nat) (active : List String) (e : Expr) :
    (∀ self other : List String → Expr → OptionT Generator Batch,
      (∀ active' e', Nested g (active, e) (active', e') → self active' e' = other active' e') →
        evaluateStep true g count self active e = evaluateStep true g count other active e) ∧
      (∀ active' e', Nested g (active, e) (active', e') →
        Prod.Lex (· < ·) (· < ·) (g.unentered active', e'.size) (g.unentered active, e.size)) ∧
      ∀ bound, g.depth e ≤ bound →
        evaluateWithin true g count bound active e = OptionT.lift (evaluate g count active e) :=
  ⟨fun _ _ => evaluateStep_congr count e, fun _ _ => lex_of_nested,
    fun _ enough => evaluateWithin_of_room_le count ((g.room_le_depth active e).trans enough)⟩

end Expr

end Phrasemill
