import Mathlib
import Phrasemill.Proofs.Folding

/-!
# Footprints

What can be told of an expression without evaluating it: the value it has in every repetition, if no
randomness is needed to find it, and the keys it draws unique candidates under. Both are read off the
expression with the bodies of its rules put in, under the rules that are active where it stands.

An expression that is built without any randomness comes to the value of its footprint, or to a
fault that has nothing to do with the pool, whatever the number of repetitions (`settled`).
-/

namespace Phrasemill

namespace Value

/-- The operands that a value adds to the call of a method on it. -/
def asReceiver : Value → List Value
  | category _ => []
  | value => [value]

end Value

namespace Expr

/-- What can be told of an expression before it is evaluated. -/
structure Footprint where
  /-- Its value in every repetition, if that takes no randomness. -/
  value? : Option Value
  /-- The keys it draws under, each as often as there is a draw for it. -/
  draws : Multiset Pool.Key

namespace Footprint

def values? : List Footprint → Option (List Value)
  | [] => some []
  | part :: parts => do
    let value ← part.value?
    let values ← values? parts
    return value :: values

theorem length_of_values? {parts : List Footprint} {values : List Value}
    (h : values? parts = some values) : values.length = parts.length := by
  induction parts generalizing values with
  | nil =>
    cases h
    rfl
  | cons part parts ih =>
    obtain ⟨value, _, h⟩ := Option.bind_eq_some_iff.1 h
    obtain ⟨rest, rest_eq, h⟩ := Option.bind_eq_some_iff.1 h
    cases h
    rw [List.length_cons, List.length_cons, ih rest_eq]

/-- The keys that several expressions draw under. -/
def allDraws (parts : List Footprint) : Multiset Pool.Key := (parts.map draws).sum

/-- The footprint of a call by itself, its operands being known. -/
def ofCall (b : Builtin) (rule : Option String) (operands : List Value) : Footprint where
  value? := b.fold? operands
  draws := if b = .oneOfUnique then {⟨rule, Builtin.candidates operands⟩} else 0

/-- Adds what is drawn for the operands of a call. -/
def behind (draws : Multiset Pool.Key) (call : Option Footprint) : Footprint where
  value? := call.bind value?
  draws := draws + (call.map Footprint.draws).getD 0

end Footprint

/-- The footprint of an expression while the rules `active` are being expanded. -/
def footprint (g : Grammar) (active : List String) : Expr → Footprint
  | literal constant _ => ⟨some constant.toValue, 0⟩
  | reference name _ =>
    match Category.ofName? name with
    | some category => ⟨some (.category category), 0⟩
    | none =>
      match found : g.find? name with
      | none => ⟨none, 0⟩
      | some body =>
        if fresh : name ∈ active then ⟨none, 0⟩
        else
          have := Grammar.unentered_cons_lt (Grammar.mem_names_of_find? found) fresh
          footprint g (name :: active) body
  | rule name body _ => footprint g (name :: active) body
  | list elements _ =>
    let parts := elements.map fun e => footprint g active e
    ⟨(Footprint.values? parts).map Value.list, Footprint.allDraws parts⟩
  | call name arguments _ =>
    let parts := arguments.map fun e => footprint g active e
    .behind (Footprint.allDraws parts) do
      let operands ← Footprint.values? parts
      let b ← Builtin.named? name
      return .ofCall b active.head? operands
  | method receiver name arguments _ =>
    let object := footprint g active receiver
    let parts := arguments.map fun e => footprint g active e
    .behind (object.draws + Footprint.allDraws parts) do
      let value ← object.value?
      let operands ← Footprint.values? parts
      let b ← Builtin.method? value.toCategory name
      return .ofCall b active.head? (value.asReceiver ++ operands)
termination_by e => (g.unentered active, sizeOf e)
decreasing_by
  · exact Prod.Lex.left _ _ this
  · exact Prod.Lex.right' _ (g.unentered_cons_le name active) (by decreasing_tactic)
  all_goals exact Prod.Lex.right _ (by decreasing_tactic)

/-- The keys that an expression draws under by itself, each as often as there is a draw for it. -/
def demand (g : Grammar) (e : Expr) : Multiset Pool.Key := (footprint g [] e).draws

section Equations

variable (g : Grammar) (active : List String)

theorem footprint_category {name : String} {category : Category}
    (named : Category.ofName? name = some category) (line : Nat) :
    footprint g active (.reference name line) = ⟨some (.category category), 0⟩ := by
  rw [footprint, named]

theorem footprint_undefined {name : String} (unnamed : Category.ofName? name = none)
    (undefined : g.find? name = none) (line : Nat) :
    footprint g active (.reference name line) = ⟨none, 0⟩ := by
  rw [footprint, unnamed]
  dsimp only
  split
  · rfl
  · next found =>
    rw [undefined] at found
    cases found

theorem footprint_defined {name : String} {body : Expr} (unnamed : Category.ofName? name = none)
    (defined : g.find? name = some body) (line : Nat) :
    footprint g active (.reference name line) =
      if name ∈ active then ⟨none, 0⟩ else footprint g (name :: active) body := by
  rw [footprint, unnamed]
  dsimp only
  split
  · next undefined =>
    rw [defined] at undefined
    cases undefined
  · next found =>
    rw [defined] at found
    cases found
    rfl

theorem footprint_call (name : String) (arguments : List Expr) (line : Nat) :
    footprint g active (.call name arguments line) =
      .behind (Footprint.allDraws (arguments.map (footprint g active))) (do
        let operands ← Footprint.values? (arguments.map (footprint g active))
        let b ← Builtin.named? name
        return .ofCall b active.head? operands) := by
  rw [footprint]

theorem footprint_method (receiver : Expr) (name : String) (arguments : List Expr) (line : Nat) :
    footprint g active (.method receiver name arguments line) =
      .behind ((footprint g active receiver).draws +
          Footprint.allDraws (arguments.map (footprint g active))) (do
        let value ← (footprint g active receiver).value?
        let operands ← Footprint.values? (arguments.map (footprint g active))
        let b ← Builtin.method? value.toCategory name
        return .ofCall b active.head? (value.asReceiver ++ operands)) := by
  rw [footprint]

end Equations

/-! ### Settled generators -/

/-- Whatever the number of repetitions, a generator gives what is known, or else a fault that is no
shortage. -/
def Settles {α β : Type} (constant : β → Nat → α) (known : Option β) (eval : Nat → Generator α) :
    Prop :=
  (∃ value, known = some value ∧ ∀ count, eval count = pure (constant value count)) ∨
    ∃ fault : Fault, fault.isShortage = false ∧ ∀ count, eval count = throw fault

theorem Settles.bind {α β γ δ : Type} {constant : β → Nat → α} {known : Option β}
    {eval : Nat → Generator α} (h : Settles constant known eval) {constant' : δ → Nat → γ}
    {known' : Option δ} {next : Nat → α → Generator γ}
    (step : ∀ value, known = some value →
      Settles constant' known' fun count => next count (constant value count)) :
    Settles constant' known' fun count => eval count >>= next count := by
  obtain ⟨value, known_eq, gives⟩ | ⟨fault, other, faults⟩ := h
  · simp only [gives, pure_bind]
    exact step value known_eq
  · refine .inr ⟨fault, other, fun count => ?_⟩
    show eval count >>= next count = _
    rw [faults count, Generator.throw_bind]

theorem settles_pure {α β : Type} (constant : β → Nat → α) {known : Option β} {value : β}
    (h : known = some value) : Settles constant known fun count => pure (constant value count) :=
  .inl ⟨value, h, fun _ => rfl⟩

theorem settles_evaluateAll {g : Grammar} {active : List String} {es : List Expr}
    (h : ∀ e ∈ es, Settles Batch.constant (footprint g active e).value?
      fun count => evaluate g count active e) :
    Settles Batch.constants (Footprint.values? (es.map (footprint g active)))
      fun count => evaluateAll g count active es := by
  induction es with
  | nil =>
    simp only [evaluateAll]
    exact settles_pure Batch.constants rfl
  | cons e es ih =>
    simp only [evaluateAll]
    refine (h e List.mem_cons_self).bind fun value known => ?_
    refine (ih fun e mem => h e (List.mem_cons_of_mem _ mem)).bind fun values known_all => ?_
    have known_here : Footprint.values? ((e :: es).map (footprint g active)) =
        some (value :: values) := by
      rw [List.map_cons, Footprint.values?, known, known_all]
      rfl
    exact settles_pure Batch.constants known_here

theorem receiverRole_constant (value : Value) (count : Nat) :
    receiverRole (.constant value count) =
      (value.toCategory, Batch.constants value.asReceiver count) := by
  cases value <;> rfl

/-! ### Expressions without randomness -/

/-- The expression is no call, or a call of a function of texts. -/
def CallsText : Expr → Prop
  | call name _ _ => name = Builtin.append.name ∨ name = Builtin.lower.name
  | method _ name _ _ => name = Builtin.append.methodName ∨ name = Builtin.lower.methodName
  | _ => True

/-- The expression and the rules that are reached from it are built from literals, lists, the
category objects and calls of functions of texts. -/
def RandomnessFree (g : Grammar) (e : Expr) : Prop := Everywhere g CallsText e

/-- A function of texts gives a value for every number of operands it accepts. -/
theorem exists_fold? {b : Builtin} (text : b = .append ∨ b = .lower) {operands : List Value}
    (accepted : b.arity.accepts operands.length = true) : ∃ value, b.fold? operands = some value := by
  obtain rfl | rfl := text
  · exact ⟨Builtin.joined operands, by rw [Builtin.fold?.eq_def, if_pos accepted]⟩
  · have single : operands.length = 1 := by
      simpa [Builtin.arity, Arity.accepts] using accepted
    obtain ⟨operand, rfl⟩ := List.length_eq_one_iff.1 single
    exact ⟨Builtin.lowered operand, rfl⟩

theorem named?_of_text {name : String}
    (h : name = Builtin.append.name ∨ name = Builtin.lower.name) :
    ∃ b, Builtin.named? name = some b ∧ (b = .append ∨ b = .lower) := by
  obtain rfl | rfl := h
  · exact ⟨.append, rfl, .inl rfl⟩
  · exact ⟨.lower, rfl, .inr rfl⟩

theorem method?_of_text {name : String}
    (h : name = Builtin.append.methodName ∨ name = Builtin.lower.methodName) (category : Category) :
    ∃ b, Builtin.method? category name = some b ∧ (b = .append ∨ b = .lower) := by
  obtain rfl | rfl := h
  · exact ⟨.append, by cases category <;> rfl, .inl rfl⟩
  · exact ⟨.lower, by cases category <;> rfl, .inr rfl⟩

/-- What a call comes to once its function is found, be the operands before the arguments. -/
theorem settles_called {g : Grammar} {active : List String} {b : Builtin}
    (text : b = .append ∨ b = .lower) (first : List Value) {arguments : List Expr}
    (h : Settles Batch.constants (Footprint.values? (arguments.map (footprint g active)))
      fun count => evaluateAll g count active arguments) (line : Nat) (known : Option Value)
    (known_eq : ∀ values, Footprint.values? (arguments.map (footprint g active)) = some values →
      known = b.fold? (first ++ values)) :
    Settles Batch.constant known fun count =>
      called g count active (.ok b) (Batch.constants first count) arguments line := by
  simp only [called, Generator.check_ok, pure_bind, Batch.length_constants]
  by_cases accepted : b.arity.accepts (first.length + arguments.length) = true
  · simp only [Builtin.checkArity_of_accepts accepted, Generator.check_ok, pure_bind]
    refine h.bind fun values values_eq => ?_
    have length := Footprint.length_of_values? values_eq
    rw [List.length_map] at length
    rw [← length, ← List.length_append] at accepted
    obtain ⟨value, folds⟩ := exists_fold? text accepted
    rw [known_eq values values_eq, folds]
    refine .inl ⟨value, rfl, fun count => ?_⟩
    show b.apply _ (Batch.constants first count ++ Batch.constants values count) count = _
    rw [← Batch.constants_append, Builtin.apply_constants, Builtin.callBatch_of_fold? folds]
  · refine .inr ⟨.arityMismatch b.name b.arity (first.length + arguments.length) line, rfl,
      fun count => ?_⟩
    show Generator.check (b.checkArity (first.length + arguments.length) line) >>= _ = _
    rw [Builtin.checkArity, if_neg accepted, Generator.check_error, Generator.throw_bind]

/-- An expression without randomness comes to the value of its footprint, or faults. -/
theorem settles_of_randomnessFree {g : Grammar} (active : List String) {e : Expr}
    (h : RandomnessFree g e) :
    Settles Batch.constant (footprint g active e).value? fun count => evaluate g count active e := by
  induction active, e using evaluate_induction g with
  | literal active constant line =>
    simp only [evaluate]
    exact settles_pure Batch.constant (by rw [footprint])
  | reference active name line ih =>
    cases named : Category.ofName? name with
    | some category =>
      simp only [evaluate_category g _ active named]
      exact settles_pure Batch.constant (by rw [footprint_category g active named])
    | none =>
      simp only [evaluate_reference g _ active named]
      cases defined : g.find? name with
      | none => exact .inr ⟨.ruleNotFound name line, rfl, fun _ => rfl⟩
      | some body =>
        rw [footprint_defined g active named defined]
        dsimp only
        by_cases cyclic : name ∈ active
        · simp only [if_pos cyclic]
          exact .inr ⟨.cyclicRule name line, rfl, fun _ => rfl⟩
        · simp only [if_neg cyclic]
          exact ih body named defined cyclic (h.part (.defined named defined line))
  | list active elements line ih =>
    simp only [evaluate]
    refine (settles_evaluateAll fun e mem => ih e mem (h.part (.element mem line))).bind
      fun values known => ?_
    simp only [Batch.lists_constants]
    have known_here : (footprint g active (.list elements line)).value? = some (.list values) := by
      rw [footprint, known]
      rfl
    exact settles_pure Batch.constant known_here
  | call active name arguments line ih =>
    obtain ⟨b, found, text⟩ := named?_of_text h.self
    have operands := settles_evaluateAll fun e mem => ih e mem (h.part (.argument mem name line))
    simp only [evaluate_call_eq, Builtin.resolveName_of_named? found]
    refine settles_called text [] operands line _ fun values values_eq => ?_
    rw [footprint_call, values_eq, found]
    rfl
  | method active receiver name arguments line ih_receiver ih =>
    simp only [evaluate_method_eq]
    refine (ih_receiver (h.part (.receiver receiver name arguments line))).bind
      fun value value_eq => ?_
    obtain ⟨b, found, text⟩ := method?_of_text h.self value.toCategory
    have operands := settles_evaluateAll fun e mem =>
      ih e mem (h.part (.operand mem receiver name line))
    simp only [receiverRole_constant, Builtin.resolveMethod_of_method? found]
    refine settles_called text value.asReceiver operands line _ fun values values_eq => ?_
    rw [footprint_method, value_eq, values_eq]
    simp only [Option.bind_eq_bind, Option.bind_some, found]
    rfl
  | rule active name body line ih =>
    simp only [evaluate]
    rw [footprint]
    exact ih (h.part (.captured name body line))

namespace Footprint

theorem allDraws_eq_zero {parts : List Footprint} (h : ∀ part ∈ parts, part.draws = 0) :
    allDraws parts = 0 := by
  apply List.sum_eq_zero
  intro draws mem
  obtain ⟨part, part_mem, rfl⟩ := List.mem_map.1 mem
  exact h part part_mem

theorem draws_ofCall_of_ne {b : Builtin} (other : b ≠ .oneOfUnique) (rule : Option String)
    (operands : List Value) : (ofCall b rule operands).draws = 0 := by
  rw [ofCall, if_neg other]

theorem draws_behind_of_eq_zero {call : Option Footprint} (h : ∀ own, call = some own → own.draws = 0)
    (draws : Multiset Pool.Key) : (behind draws call).draws = draws := by
  cases call with
  | none => exact Multiset.add_zero draws
  | some own =>
    show draws + own.draws = draws
    rw [h own rfl, Multiset.add_zero]

end Footprint

/-- Only calls of `one_of_unique` draw. -/
theorem draws_call_of_named? {g : Grammar} {active : List String} {name : String}
    (other : Builtin.named? name ≠ some .oneOfUnique) (arguments : List Expr) (line : Nat) :
    (footprint g active (.call name arguments line)).draws =
      Footprint.allDraws (arguments.map (footprint g active)) := by
  rw [footprint_call]
  refine Footprint.draws_behind_of_eq_zero (fun own h => ?_) _
  obtain ⟨operands, _, h⟩ := Option.bind_eq_some_iff.1 h
  obtain ⟨b, found, h⟩ := Option.bind_eq_some_iff.1 h
  cases h
  refine Footprint.draws_ofCall_of_ne (fun eq => other ?_) _ _
  rw [found, eq]

theorem draws_method_of_ne {g : Grammar} {active : List String} {name : String}
    (other : name ≠ Builtin.oneOfUnique.methodName) (receiver : Expr) (arguments : List Expr)
    (line : Nat) :
    (footprint g active (.method receiver name arguments line)).draws =
      (footprint g active receiver).draws +
        Footprint.allDraws (arguments.map (footprint g active)) := by
  rw [footprint_method]
  refine Footprint.draws_behind_of_eq_zero (fun own h => ?_) _
  obtain ⟨value, _, h⟩ := Option.bind_eq_some_iff.1 h
  obtain ⟨operands, _, h⟩ := Option.bind_eq_some_iff.1 h
  obtain ⟨b, found, h⟩ := Option.bind_eq_some_iff.1 h
  cases h
  refine Footprint.draws_ofCall_of_ne (fun eq => other ?_) _ _
  rw [← eq, Builtin.methodName_of_method? found]

theorem allDraws_footprints {g : Grammar} {active : List String} {es : List Expr}
    (h : ∀ e ∈ es, (footprint g active e).draws = 0) :
    Footprint.allDraws (es.map (footprint g active)) = 0 := by
  apply Footprint.allDraws_eq_zero
  intro part mem
  obtain ⟨e, e_mem, rfl⟩ := List.mem_map.1 mem
  exact h e e_mem

theorem draws_of_randomnessFree {g : Grammar} {active : List String} {e : Expr}
    (h : RandomnessFree g e) : (footprint g active e).draws = 0 := by
  induction active, e using evaluate_induction g with
  | literal active constant line => rw [footprint]
  | reference active name line ih =>
    cases named : Category.ofName? name with
    | some category => rw [footprint_category g active named]
    | none =>
      cases defined : g.find? name with
      | none => rw [footprint_undefined g active named defined]
      | some body =>
        rw [footprint_defined g active named defined]
        split
        · rfl
        · next fresh => exact ih body named defined fresh (h.part (.defined named defined line))
  | list active elements line ih =>
    rw [footprint]
    exact allDraws_footprints fun e mem => ih e mem (h.part (.element mem line))
  | call active name arguments line ih =>
    obtain ⟨b, found, text⟩ := named?_of_text h.self
    rw [draws_call_of_named?]
    · exact allDraws_footprints fun e mem => ih e mem (h.part (.argument mem name line))
    · rw [found]
      rcases text with rfl | rfl
      · decide
      · decide
  | method active receiver name arguments line ih_receiver ih =>
    rw [draws_method_of_ne, ih_receiver (h.part (.receiver receiver name arguments line)),
      allDraws_footprints fun e mem => ih e mem (h.part (.operand mem receiver name line)),
      Multiset.add_zero]
    rcases h.self with rfl | rfl
    · decide
    · decide
  | rule active name body line ih =>
    rw [footprint]
    exact ih (h.part (.captured name body line))

end Expr

end Phrasemill
