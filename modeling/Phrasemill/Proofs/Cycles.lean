import Mathlib
import Phrasemill.Proofs.Faults
import Phrasemill.Proofs.History.Captures
import Phrasemill.Proofs.Pool.Granting
import Phrasemill.Proofs.Unchecked

/-!
# Rules that lead back to themselves

A fault that blames a rule for a cycle comes from a reference to it, and the evaluation of a body that
was entered under its name ended in that fault (`Expr.raises_evaluate`). The body need not be the one
that the reference stands for, since a rule can be replaced after its body was captured. Where it is, or
leads back to the rule like it, nothing that leads to the rule is done without the check for cycles; it
passes every bound if there is nothing on the way that could fault (`Expr.gives_up_of_leadsBack`).
-/

namespace Phrasemill

namespace Expr

open Generator

/-! ### Where faults about cycles come from -/

/-- Rule `name` is entered with this body in the evaluation of an expression. -/
inductive Enters (g : Grammar) (e : Expr) (name : String) (body : Expr) : Prop
  | captured {line : Nat} (reached : Reaches g e (.rule name body line))
  | defined {line : Nat} (found : g.find? name = some body)
      (reached : Reaches g e (.reference name line))

/-- The fault says nothing about a cycle, or it is about a rule that the expression leads to and that
either is active or was entered with a body that ends in the same fault. -/
def BlamesEntered (g : Grammar) (count : Nat) (active : List String) (e : Expr) (fault : Fault) :
    Prop :=
  ∀ name line, fault = .cyclicRule name line →
    Category.ofName? name = none ∧ Reaches g e (.reference name line) ∧
      (name ∈ active ∨ ∃ body inside, Enters g e name body ∧
        ∃ s p, ((evaluate g count (name :: inside) body).outcome s p).result = .error fault)

section Blame

variable {g : Grammar} {count : Nat} {active : List String} {e part : Expr} {fault : Fault}

theorem Enters.reaches {name : String} {body : Expr} (h : Enters g e name body)
    (unnamed : Category.ofName? name = none) : Reaches g e body := by
  cases h with
  | captured reached => exact reached.tail (.captured name body _)
  | defined found reached => exact reached.tail (.defined unnamed found _)

theorem Enters.of_part {name : String} {body : Expr} (h : Enters g part name body)
    (is_part : Part g e part) : Enters g e name body := by
  cases h with
  | captured reached => exact .captured (.head is_part reached)
  | defined found reached => exact .defined found (.head is_part reached)

theorem BlamesEntered.of_part (h : BlamesEntered g count active part fault)
    (is_part : Part g e part) : BlamesEntered g count active e fault := by
  intro name line cyclic
  obtain ⟨unnamed, reached, entered⟩ := h name line cyclic
  refine ⟨unnamed, .head is_part reached, entered.imp_right ?_⟩
  rintro ⟨body, inside, enters, raised⟩
  exact ⟨body, inside, enters.of_part is_part, raised⟩

/-- A rule that is entered is active inside, and that it was entered is known outside. -/
theorem BlamesEntered.of_entered {name : String} {body : Expr}
    (h : BlamesEntered g count (name :: active) body fault) {s : RandomSource} {p : Pool}
    (raised : ((evaluate g count (name :: active) body).outcome s p).result = .error fault)
    (is_part : Part g e body) (enters : Enters g e name body) :
    BlamesEntered g count active e fault := by
  intro cyclic line is_cyclic
  obtain ⟨unnamed, reached, entered⟩ := h cyclic line is_cyclic
  refine ⟨unnamed, .head is_part reached, ?_⟩
  rcases entered with mem | ⟨inner, inside, enters_inner, again⟩
  · rcases List.mem_cons.1 mem with rfl | mem
    · exact .inr ⟨body, active, enters, s, p, raised⟩
    · exact .inl mem
  · exact .inr ⟨inner, inside, enters_inner.of_part is_part, again⟩

theorem blamesEntered_of_ne (h : ∀ name line, fault ≠ .cyclicRule name line) :
    BlamesEntered g count active e fault :=
  fun name line is_cyclic => absurd is_cyclic (h name line)

/-- A fault about a cycle comes from a reference, and its rule was entered before. -/
theorem raises_evaluate (count : Nat) :
    (evaluate g count active e).Raises (BlamesEntered g count active e) := by
  induction active, e using evaluate_induction g with
  | literal active constant line =>
    rw [evaluate]
    exact raises_pure _
  | reference active name line ih =>
    cases unnamed : Category.ofName? name with
    | some category =>
      rw [evaluate_category g count active unnamed]
      exact raises_pure _
    | none =>
      obtain ⟨-, fails⟩ | ⟨entered, fails⟩ | ⟨body, found, fresh, enters⟩ :=
        evaluate_reference_cases g active unnamed line
      · rw [fails]
        refine raises_throw (blamesEntered_of_ne fun other at_line is_cyclic => ?_)
        cases is_cyclic
      · rw [fails]
        refine raises_throw ?_
        rintro _ _ ⟨⟩
        exact ⟨unnamed, .refl, .inl entered⟩
      · rw [enters]
        intro s p fault raised
        exact (ih body unnamed found fresh s p fault raised).of_entered raised
          (.defined unnamed found line) (.defined found .refl)
  | list active elements line ih =>
    rw [evaluate]
    refine (raises_evaluateAll fun e mem => ?_).bind fun _ => raises_pure _
    exact (ih e mem).mono fun fault blames => blames.of_part (.element mem line)
  | call active name arguments line ih =>
    rw [evaluate_call_eq]
    refine raises_called (fun _ h => blamesEntered_of_ne (Fault.ne_cyclicRule_of_isOfCall h))
      (fun _ h => blamesEntered_of_ne (Fault.ne_cyclicRule_of_isShortage h))
      (Builtin.ofCall_resolveName name line) (raises_evaluateAll fun e mem => ?_) _ line
    exact (ih e mem).mono fun fault blames => blames.of_part (.argument mem name line)
  | method active receiver name arguments line ih_receiver ih =>
    rw [evaluate_method_eq]
    have object := ih_receiver.mono fun fault blames =>
      blames.of_part (.receiver receiver name arguments line)
    refine object.bind fun object => ?_
    refine raises_called (fun _ h => blamesEntered_of_ne (Fault.ne_cyclicRule_of_isOfCall h))
      (fun _ h => blamesEntered_of_ne (Fault.ne_cyclicRule_of_isShortage h))
      (Builtin.ofCall_resolveMethod _ name line) (raises_evaluateAll fun e mem => ?_) _ line
    exact (ih e mem).mono fun fault blames => blames.of_part (.operand mem receiver name line)
  | rule active name body line ih =>
    rw [evaluate_rule]
    intro s p fault raised
    exact (ih s p fault raised).of_entered raised (.captured name body line) (.captured .refl)

end Blame

/-! ### What a fault about a cycle means -/

/-- The expression leads to a reference to the rule. -/
def LeadsTo (g : Grammar) (e : Expr) (name : String) : Prop :=
  ∃ line, Reaches g e (.reference name line)

/-- The definition that the rule has by now leads back to it. -/
def LeadsBack (g : Grammar) (name : String) : Prop :=
  ∃ current, g.find? name = some current ∧ LeadsTo g current name

/-- If a definition of the rule that was captured leads back to it, the one that it has by now does. -/
def Lasting (g : Grammar) (e : Expr) (name : String) : Prop :=
  ∀ body line, Reaches g e (.rule name body line) → LeadsTo g body name → LeadsBack g name

/-- Evaluated by itself the expression faults for a cycle or not at all, whatever the randomness. -/
def FaultsForCycles (g : Grammar) (count : Nat) (e : Expr) : Prop :=
  (evaluate g count [] e).Raises fun fault => ∃ name line, fault = .cyclicRule name line

section Meaning

variable {g : Grammar} {e : Expr} {count : Nat} {name : String} {line : Nat}

theorem Lasting.of_reached {part : Expr} (lasting : Lasting g e name) (reached : Reaches g e part) :
    Lasting g part name :=
  fun body line captured => lasting body line (reached.trans captured)

/-- A rule that is blamed is one that the expression leads to, and it was entered with a body that is
blamed for the same. -/
theorem exists_entered_of_cyclicRule {s : RandomSource} {p : Pool}
    (raised : ((evaluate g count [] e).outcome s p).result = .error (.cyclicRule name line)) :
    Category.ofName? name = none ∧ LeadsTo g e name ∧ ∃ body inside, Enters g e name body ∧
      LeadsTo g body name ∧ ∃ s p,
        ((evaluate g count (name :: inside) body).outcome s p).result =
          .error (.cyclicRule name line) := by
  obtain ⟨unnamed, reached, active | ⟨body, inside, enters, s', p', again⟩⟩ :=
    raises_evaluate count s p _ raised name line rfl
  · cases active
  · obtain ⟨-, back, -⟩ := raises_evaluate count s' p' _ again name line rfl
    exact ⟨unnamed, ⟨line, reached⟩, body, inside, enters, ⟨line, back⟩, s', p', again⟩

theorem leadsBack_of_entered {body : Expr} (lasting : Lasting g e name) (enters : Enters g e name body)
    (back : LeadsTo g body name) : LeadsBack g name := by
  cases enters with
  | captured reached => exact lasting body _ reached back
  | defined found => exact ⟨body, found, back⟩

/-- What leads to a rule that leads back to itself is never done. -/
theorem not_completes_of_leadsBack (unnamed : Category.ofName? name = none) (leads : LeadsTo g e name)
    (back : LeadsBack g name) (bound : Nat) (active : List String) :
    ¬ Completes (evaluateWithin false g count bound active e) := by
  obtain ⟨line, reached⟩ := leads
  obtain ⟨current, found, at_line, again⟩ := back
  intro completes
  obtain ⟨bound', -, active', completes'⟩ := completes_within_reached completes
    (reached.trans (.head (.defined unnamed found line) again))
  exact not_completes_of_cycle (.defined unnamed found at_line) again bound' active' completes'

/-- Where nothing is drawn from the pool and nothing faults but for cycles, what leads to a rule that
leads back to itself is given up at every bound. -/
theorem gives_up_of_leadsBack (silent : DrawsNothing g e) (lasting : ∀ name, Lasting g e name)
    (only_cycles : Everywhere g (FaultsForCycles g count) e) (bound : Nat) {part : Expr}
    (reached : Reaches g e part) (unnamed : Category.ofName? name = none)
    (leads : LeadsTo g part name) (back : LeadsBack g name) (active : List String) (s : RandomSource)
    (p : Pool) : ((evaluateWithin false g count bound active part).run.outcome s p).result = .ok none := by
  induction bound using Nat.strong_induction_on generalizing part name active s p with
  | _ bound ih =>
    let blamed (name : String) :=
      Category.ofName? name = none ∧ LeadsTo g part name ∧ LeadsBack g name
    have meets : Meets blamed (evaluate g count [] part)
        (evaluateWithin false g count bound active part) := by
      refine meets_evaluate (fun _ inner => silent _ (reached.trans inner)) ?_
      rintro name body ⟨unnamed, ⟨line, to_rule⟩, current, found', back⟩ found bound' lt
      cases found.symm.trans found'
      exact fun active s p => ih bound' lt
        (reached.trans (to_rule.tail (.defined unnamed found line))) unnamed back
        ⟨body, found, back⟩ active s p
    obtain given_up | ⟨batch, s', p', -, completes⟩ | ⟨fault, raised, other⟩ := meets s p
    · exact given_up
    · exact absurd ⟨s, p, batch, congrArg Outcome.result completes⟩
        (not_completes_of_leadsBack unnamed leads back bound active)
    · obtain ⟨cyclic, line, rfl⟩ := only_cycles part reached s p fault raised
      obtain ⟨unnamed, leads, body, inside, enters, again, -⟩ := exists_entered_of_cyclicRule raised
      have back := leadsBack_of_entered ((lasting cyclic).of_reached reached) enters again
      exact absurd rfl (other cyclic line ⟨unnamed, leads, back⟩)

/-- If evaluation blames a rule for a cycle, then evaluation that does not check for cycles has a
result within no bound, unless only a captured definition of the rule leads back to it and the one that
the rule has by now does not. It is given up at every bound, or it ends in a fault: rounds that are made
with randomness need not be alike, and one that comes later may fault where the first one did not. So
it passes every bound if there is no randomness, provided that no definition of the rule was captured
but the one that it still has; and if there is randomness, provided that nothing is drawn from the pool
and nothing on the way faults but for cycles. No definition was replaced after it was captured if no
name is defined twice (`History.everywhere_isCurrent`). -/
theorem endless_of_cyclicRule {s : RandomSource} {p : Pool}
    (raised : ((evaluate g count [] e).outcome s p).result = .error (.cyclicRule name line)) :
    (Lasting g e name → ∀ bound count' s' p' batch,
      ((evaluateWithin false g count' bound [] e).run.outcome s' p').result ≠ .ok (some batch)) ∧
    ((∀ body at_line, Reaches g e (.rule name body at_line) → g.find? name = some body) →
      RandomnessFree g e → ∀ bound, evaluateWithin false g count bound [] e = failure) ∧
    ((∀ other, Lasting g e other) → DrawsNothing g e →
      ∀ count', Everywhere g (FaultsForCycles g count') e → ∀ bound s' p',
        ((evaluateWithin false g count' bound [] e).run.outcome s' p').result = .ok none) := by
  obtain ⟨unnamed, leads, body, inside, enters, back, s', p', again⟩ :=
    exists_entered_of_cyclicRule raised
  refine ⟨fun lasting bound count' s'' p'' batch result => ?_, fun current free bound => ?_,
    fun lasting silent count' only_cycles bound s'' p'' => ?_⟩
  · exact not_completes_of_leadsBack unnamed leads (leadsBack_of_entered lasting enters back) bound []
      ⟨s'', p'', batch, result⟩
  · have found : g.find? name = some body := by
      cases enters with
      | captured captured => exact current body _ captured
      | defined found => exact found
    have free_body : RandomnessFree g body := fun _ inner =>
      free _ ((enters.reaches unnamed).trans inner)
    exact gives_up_of_cyclicRule found free_body (evaluate_eq_throw free_body again) free
      (evaluate_eq_throw free raised) bound []
  · exact gives_up_of_leadsBack silent lasting only_cycles bound .refl unnamed leads
      (leadsBack_of_entered (lasting name) enters back) [] s'' p''

end Meaning

/-- Whatever the randomness, a number up to one that is not negative can be drawn. -/
theorem exists_outcome_upto (g : Grammar) (count : Nat) (active : List String) {high : Int64}
    (nonneg : ¬ high < 0) (line : Nat) (s : RandomSource) (p : Pool) :
    ∃ batch s', (evaluate g count active
      (.call "number.upto" [.literal (.integer high) line] line)).outcome s p = ⟨.ok batch, s', p⟩ := by
  have operands : evaluateAll g count active [.literal (.integer high) line] =
      pure [Batch.constant (.integer high) count] :=
    evaluateAll_eq_pure g count active (.cons (evaluate_literal g count active _ line) .nil)
  have bounds : Builtin.uptoRange [.integer high] line = .ok (0, high) := if_neg nonneg
  have drawn : Builtin.upto.apply ⟨active.head?, line⟩ [.constant (.integer high) count] count =
      Builtin.sampled (Builtin.integerIn (0, high)) count := by
    show Generator.check (Builtin.uptoRange [.integer high] line) >>= _ = _
    rw [bounds]
    rfl
  rw [evaluate_call g count active rfl operands rfl, drawn]
  exact ⟨_, _, rfl⟩

/-! ### A rule that is a list of an operand and of itself -/

section Round

variable {g : Grammar} {name : String} {operand : Expr} {line : Nat}

theorem everywhere_round {P : Expr → Prop}
    (found : g.find? name = some (.list [operand, .reference name line] line))
    (of_body : P (.list [operand, .reference name line] line)) (of_reference : P (.reference name line))
    (inside : Everywhere g P operand) :
    Everywhere g P (.list [operand, .reference name line] line) := by
  intro part reached
  have met : part = .list [operand, .reference name line] line ∨ part = .reference name line ∨
      Reaches g operand part := by
    induction reached with
    | refl => exact .inl rfl
    | tail _ is_part ih =>
      obtain rfl | rfl | reached := ih
      · cases is_part with
        | element mem =>
          obtain rfl | rfl := List.mem_pair.1 mem
          · exact .inr (.inr .refl)
          · exact .inr (.inl rfl)
      · cases is_part with
        | defined _ found' => exact .inl (Option.some.inj (found'.symm.trans found))
      · exact .inr (.inr (reached.tail is_part))
  obtain rfl | rfl | reached := met
  · exact of_body
  · exact of_reference
  · exact inside part reached

theorem leadsBack_round (found : g.find? name = some (.list [operand, .reference name line] line)) :
    LeadsBack g name :=
  ⟨_, found, line, .single (.element (List.mem_pair.2 (.inr rfl)) line)⟩

variable {count : Nat} (unnamed : Category.ofName? name = none)
  (found : g.find? name = some (.list [operand, .reference name line] line))

include unnamed found

theorem evaluate_round_of_entered (active : List String) :
    evaluate g count (name :: active) (.reference name line) = throw (.cyclicRule name line) := by
  rw [evaluate_reference g count _ unnamed, found]
  exact if_pos List.mem_cons_self

/-- Once the operand is evaluated the rule is blamed for itself. -/
theorem cyclicRule_of_round {s s' : RandomSource} {p p' : Pool} {batch : Batch}
    (completes : (evaluate g count [name] operand).outcome s p = ⟨.ok batch, s', p'⟩) (at_line : Nat) :
    ((evaluate g count [] (.rule name (.list [operand, .reference name line] line) at_line)).outcome
      s p).result = .error (.cyclicRule name line) := by
  rw [evaluate_rule, evaluate, evaluateAll, evaluateAll, evaluate_round_of_entered unnamed found,
    outcome_bind, outcome_bind, completes]
  rfl

/-- If the operand never faults, the rule faults for itself alone. -/
theorem faultsForCycles_round
    (never : ∀ active kind, (evaluate g count active operand).Raises kind) (at_line : Nat) :
    FaultsForCycles g count (.rule name (.list [operand, .reference name line] line) at_line) ∧
      FaultsForCycles g count (.list [operand, .reference name line] line) ∧
      FaultsForCycles g count (.reference name line) := by
  have round {kind : Fault → Prop} {active : List String}
      (again : (evaluate g count active (.reference name line)).Raises kind) :
      (evaluate g count active (.list [operand, .reference name line] line)).Raises kind := by
    rw [evaluate]
    refine (raises_evaluateAll fun e mem => ?_).bind fun _ => raises_pure _
    obtain rfl | rfl := List.mem_pair.1 mem
    · exact never active kind
    · exact again
  have entered : (evaluate g count [name] (.list [operand, .reference name line] line)).Raises
      fun fault => ∃ name line, fault = .cyclicRule name line := by
    refine round ?_
    rw [evaluate_round_of_entered unnamed found]
    exact raises_throw ⟨name, line, rfl⟩
  have reference : FaultsForCycles g count (.reference name line) := by
    rw [FaultsForCycles, evaluate_reference g count [] unnamed, found]
    exact entered
  have rule : FaultsForCycles g count
      (.rule name (.list [operand, .reference name line] line) at_line) := by
    rw [FaultsForCycles, evaluate_rule]
    exact entered
  exact ⟨rule, round reference, reference⟩

end Round

/-- Two rules that are each other, of which the second one has captured the first one, and a rule that
draws a number before it leads back to itself. -/
theorem endless_of_cyclicRule_of_loops :
    (let g := ((∅ : Grammar).define "a" (.reference "b" 1)).define "b" (.reference "a" 2)
      let e := g.resolve (.reference "b" 3)
      ((evaluate g 1 [] e).outcome (.ofSeed 0) ∅).result = .error (.cyclicRule "b" 1) ∧
        (∀ bound count s p batch,
          ((evaluateWithin false g count bound [] e).run.outcome s p).result ≠ .ok (some batch)) ∧
        ∀ bound, evaluateWithin false g 1 bound [] e = failure) ∧
      let roll := Expr.call "number.upto" [.literal (.integer 6) 1] 1
      let g := (∅ : Grammar).define "a" (.list [roll, .reference "a" 1] 1)
      let e := g.resolve (.reference "a" 2)
      ((evaluate g 1 [] e).outcome (.ofSeed 0) ∅).result = .error (.cyclicRule "a" 1) ∧
        ∀ count bound s p,
          ((evaluateWithin false g count bound [] e).run.outcome s p).result = .ok none := by
  generalize RandomSource.ofSeed 0 = source
  constructor
  · intro g e
    have found : g.find? "b" = some (.rule "a" (.reference "b" 1) 2) := rfl
    have raised : evaluate g 1 [] e = throw (.cyclicRule "b" 1) := by
      show evaluate g 1 [] (.rule "b" (.rule "a" (.reference "b" 1) 2) 3) = _
      rw [evaluate_rule, evaluate_rule, evaluate_reference g 1 ["a", "b"] (by decide)]
      rfl
    have result : ((evaluate g 1 [] e).outcome source ∅).result = .error (.cyclicRule "b" 1) := by
      rw [raised]
      rfl
    have current (body : Expr) (at_line : Nat) (reached : Reaches g e (.rule "b" body at_line)) :
        g.find? "b" = some body := by
      have written : ∀ d ∈ [("b", Expr.reference "a" 2), ("a", .reference "b" 1)], d.2.Written :=
        List.forall_mem_cons.2 ⟨.reference "a" 2, List.forall_mem_singleton.2 (.reference "b" 1)⟩
      exact History.everywhere_isCurrent (by decide) written (.reference "b" 3) _ reached
    have lasting : Lasting g e "b" := fun body at_line reached back =>
      ⟨body, current body at_line reached, back⟩
    have free : RandomnessFree g e := by
      have all : ∀ q ∈ [.rule "b" (.rule "a" (.reference "b" 1) 2) 3, .rule "a" (.reference "b" 1) 2,
          .reference "b" 1], CallsText q := by
        simp only [List.forall_mem_cons]
        exact ⟨trivial, trivial, trivial, List.forall_mem_nil _⟩
      refine everywhere_of_closed all ?_ List.mem_cons_self
      simp only [List.forall_mem_cons]
      refine ⟨?_, ?_, ?_, List.forall_mem_nil _⟩
      · rintro _ ⟨⟩
        simp
      · rintro _ ⟨⟩
        simp
      · rintro part (_ | _ | _ | _ | _ | ⟨-, is_body⟩)
        cases found.symm.trans is_body
        simp
    obtain ⟨no_result, given_up, -⟩ := endless_of_cyclicRule result
    exact ⟨result, no_result lasting, given_up current free⟩
  · intro roll g e
    have found : g.find? "a" = some (.list [roll, .reference "a" 1] 1) := rfl
    have rolls (count : Nat) (active : List String) := exists_outcome_upto g count active
      (show ¬ (6 : Int64) < 0 by decide) 1
    obtain ⟨batch, s', rolled⟩ := rolls 1 ["a"] source ∅
    have result := cyclicRule_of_round (by decide) found rolled 2
    have everywhere {P : Expr → Prop} (of_rule : P (.rule "a" (.list [roll, .reference "a" 1] 1) 2))
        (of_body : P (.list [roll, .reference "a" 1] 1)) (of_reference : P (.reference "a" 1))
        (of_roll : P roll) (of_high : P (.literal (.integer 6) 1)) : Everywhere g P e :=
      everywhere_rule of_rule (everywhere_round found of_body of_reference
        (everywhere_call of_roll (List.forall_mem_singleton.2 (everywhere_literal of_high))))
    have silent : DrawsNothing g e :=
      everywhere (by decide) (by decide) (by decide) (by decide) (by decide)
    have lasting (name : String) : Lasting g e name := by
      intro body at_line captured _
      have named : Everywhere g (fun part => ∀ body line, part = .rule name body line → name = "a") e := by
        refine everywhere ?_ (by simp) (by simp) (by simp [roll]) (by simp)
        rintro _ _ ⟨⟩
        rfl
      rw [named _ captured body at_line rfl]
      exact leadsBack_round found
    have only_cycles (count : Nat) : Everywhere g (FaultsForCycles g count) e := by
      have never (active : List String) (kind : Fault → Prop) :
          (evaluate g count active roll).Raises kind := by
        intro s p fault raised
        obtain ⟨batch, s', rolled⟩ := rolls count active s p
        rw [rolled] at raised
        cases raised
      obtain ⟨rule, body, reference⟩ := faultsForCycles_round (by decide) found never 2
      refine everywhere rule body reference (never [] _) ?_
      rw [FaultsForCycles, evaluate_literal]
      exact raises_pure _
    refine ⟨result, fun count bound s p => ?_⟩
    exact (endless_of_cyclicRule result).2.2 lasting silent count (only_cycles count) bound s p

/-- A rule that is replaced after it was captured, and a rule that draws before it leads back to
itself. Evaluation blames both for a cycle. It blames the first one wrongly: a definition that is no
longer the one of the rule is being expanded, the one that is referred to is not, and without the check
there is a batch. The second one is blamed for what it does, since its definition is expanded inside
itself. That it ends even so without the check, being short of candidates in the second round, sets a
limit to taking cycles for what never ends, whatever the check. -/
theorem ends_of_cyclicRule :
    (let g := (((∅ : Grammar).define "a" (.reference "a" 1)).define "b" (.reference "a" 2)).define "a"
        (.literal (.text "p") 3)
      let e := g.resolve (.reference "b" 4)
      ((evaluate g 1 [] e).outcome (.ofSeed 0) ∅).result = .error (.cyclicRule "a" 1) ∧
        ((evaluateWithin false g 1 4 [] e).run.outcome (.ofSeed 0) ∅).result =
          .ok (some (.constant (.text "p") 1))) ∧
      let pick := Expr.call "one_of_unique" [.list [.literal (.text "x") 1] 1] 1
      let g := (∅ : Grammar).define "a" (.list [pick, .reference "a" 1] 1)
      let e := g.resolve (.reference "a" 2)
      ((evaluate g 1 [] e).outcome (.ofSeed 0) ∅).result = .error (.cyclicRule "a" 1) ∧
        ∃ fault, fault.isShortage = true ∧
          ((evaluateWithin false g 1 7 [] e).run.outcome (.ofSeed 0) ∅).result = .error fault := by
  generalize RandomSource.ofSeed 0 = s
  constructor
  · intro g e
    have raised : evaluate g 1 [] e = throw (.cyclicRule "a" 1) := by
      show evaluate g 1 [] (.rule "b" (.rule "a" (.reference "a" 1) 2) 4) = _
      rw [evaluate_rule, evaluate_rule, evaluate_reference g 1 ["a", "b"] (by decide)]
      rfl
    rw [raised]
    exact ⟨rfl, rfl⟩
  · intro pick g e
    let body := Expr.list [pick, .reference "a" 1] 1
    let draw := Builtin.oneOfUnique.batchValue ⟨some "a", 1⟩ [.list [.text "x"]] 1
    have picks : evaluate g 1 ["a"] pick = draw := evaluate_unique_literals g 1 ["a"] [.text "x"] 1
    have round (active : List String) (bound : Nat) :
        (evaluateWithin false g 1 (bound + 4) ("a" :: active) body).run = draw >>= fun column =>
          (evaluateWithin false g 1 (bound + 3) ("a" :: active) (.reference "a" 1)).run >>=
            fun next => next.elim (pure none) fun next => pure (some (.lists [column, next] 1)) := by
      have picks_within : evaluateWithin false g 1 (bound + 3) ("a" :: active) pick =
          OptionT.lift draw := rfl
      rw [evaluateWithin, evaluateStep, List.mapM_cons, List.mapM_cons, List.mapM_nil, picks_within]
      simp only [OptionT.run_bind, OptionT.run_lift, OptionT.run_pure, Option.elimM, bind_assoc,
        pure_bind, Option.elim_some]
    -- The only candidate is drawn in the first round, so the second round is refused.
    have one : ((∅ : Pool).left (Builtin.poolKey ⟨some "a", 1⟩ [.list [.text "x"]])).size = 1 := rfl
    obtain ⟨values, s', after, drawn, taken⟩ := Builtin.outcome_unique_of_enough s one.ge
    have none_left :
        (after.left (Builtin.poolKey ⟨some "a", 1⟩ [.list [.text "x"]])).size < 1 := by omega
    obtain ⟨fault, left, shortage, refused, -⟩ := Builtin.outcome_unique_of_lacking s' none_left
    refine ⟨?_, fault, shortage, ?_⟩
    · have found : g.find? "a" = some body := rfl
      have picked := (congrArg (outcome · s ∅) picks).trans drawn
      exact cyclicRule_of_round (by decide) found picked 2
    · have second : (evaluateWithin false g 1 5 ["a"] (.reference "a" 1)).run.outcome s' after =
          ⟨.error fault, s', left⟩ := by
        show (evaluateWithin false g 1 4 ["a", "a"] body).run.outcome s' after = _
        rw [round ["a"] 0, outcome_bind, refused]
      show ((evaluateWithin false g 1 6 ["a"] body).run.outcome s ∅).result = _
      rw [round [] 2, outcome_bind, drawn]
      dsimp only
      rw [outcome_bind, second]

end Expr

end Phrasemill
