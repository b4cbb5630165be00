import Mathlib
import Phrasemill.Proofs.Footprint

/-!
# Steady expressions

Expressions that are built from literals, lists, category objects and functions of texts, in which
every name is defined, every function gets as many operands as it accepts and no rule is met inside
itself. There is nothing left that could fault or vary in them: such an expression comes to one
value, which is read off the expression and the rules alone, and repeats it as often as it is asked
to (`Expr.repeats_of_steady`).

How many operands a method has depends on what its receiver comes to, since a category object is no
operand (`Expr.ComesToObject`).
-/

namespace Phrasemill

theorem exists_forall₂_of_forall_mem {α β : Type} {R : α → β → Prop} {as : List α}
    (h : ∀ a ∈ as, ∃ b, R a b) : ∃ bs, List.Forall₂ R as bs := by
  induction as with
  | nil => exact ⟨[], .nil⟩
  | cons a as ih =>
    obtain ⟨⟨b, here⟩, others⟩ := List.forall_mem_cons.1 h
    obtain ⟨bs, rest⟩ := ih others
    exact ⟨b :: bs, .cons here rest⟩

theorem Value.length_asReceiver {value : Value} (other : ∀ category, value ≠ .category category) :
    value.asReceiver.length = 1 := by
  cases value with
  | category category => exact absurd rfl (other category)
  | _ => rfl

namespace Builtin

/-- A call that takes no randomness gives a text. -/
theorem eq_text_of_fold? {b : Builtin} {operands : List Value} {value : Value}
    (h : b.fold? operands = some value) : ∃ text, value = .text text := by
  have accepted := accepts_of_fold? h
  unfold fold? at h
  rw [if_pos accepted] at h
  cases b with
  | append => exact ⟨_, (Option.some.inj h).symm⟩
  | lower =>
    obtain ⟨operand, -, lowered_eq⟩ := Option.map_eq_some_iff.1 h
    exact ⟨_, lowered_eq.symm⟩
  | oneOf => cases h
  | oneOfUnique => cases h
  | between => cases h
  | upto => cases h

/-- A function of texts gives a text in all repetitions. -/
theorem exists_apply_eq_text {b : Builtin} (text : b = .append ∨ b = .lower) {operands : List Value}
    (accepted : b.arity.accepts operands.length = true) :
    ∃ t, ∀ site count,
      b.apply site (Batch.constants operands count) count = pure (.constant (.text t) count) := by
  obtain ⟨value, folds⟩ := Expr.exists_fold? text accepted
  obtain ⟨t, rfl⟩ := eq_text_of_fold? folds
  refine ⟨t, fun site count => ?_⟩
  rw [apply_constants, callBatch_of_fold? folds]

end Builtin

namespace Expr

/-- The expression is the name of a category object, or a rule that comes to one. -/
inductive ComesToObject (g : Grammar) : Expr → Prop
  | named {name : String} (named : (Category.ofName? name).isSome) (line : Nat) :
      ComesToObject g (.reference name line)
  | defined {name : String} {body : Expr} (unnamed : Category.ofName? name = none)
      (found : g.find? name = some body) (inside : ComesToObject g body) (line : Nat) :
      ComesToObject g (.reference name line)
  | captured (name : String) {body : Expr} (inside : ComesToObject g body) (line : Nat) :
      ComesToObject g (.rule name body line)

/-- Inside the rules `entered`, the expression is built without randomness, with as many operands as
are accepted, from names that are defined; no rule is met inside itself. -/
inductive Steady (g : Grammar) : (entered : List String) → Expr → Prop
  | literal (entered : List String) (constant : Literal) (line : Nat) :
      Steady g entered (.literal constant line)
  | category (entered : List String) {name : String} (named : (Category.ofName? name).isSome)
      (line : Nat) : Steady g entered (.reference name line)
  | defined {entered : List String} {name : String} {body : Expr}
      (unnamed : Category.ofName? name = none) (found : g.find? name = some body)
      (fresh : name ∉ entered) (inside : Steady g (name :: entered) body) (line : Nat) :
      Steady g entered (.reference name line)
  | captured {entered : List String} {name : String} {body : Expr} (fresh : name ∉ entered)
      (inside : Steady g (name :: entered) body) (line : Nat) :
      Steady g entered (.rule name body line)
  | list {entered : List String} {elements : List Expr}
      (parts : ∀ e ∈ elements, Steady g entered e) (line : Nat) :
      Steady g entered (.list elements line)
  | call {entered : List String} {b : Builtin} (text : b = .append ∨ b = .lower)
      {arguments : List Expr} (parts : ∀ e ∈ arguments, Steady g entered e)
      (accepted : b.arity.accepts arguments.length = true) (line : Nat) :
      Steady g entered (.call b.name arguments line)
  | method {entered : List String} {b : Builtin} (text : b = .append ∨ b = .lower)
      {receiver : Expr} (head : Steady g entered receiver) {arguments : List Expr}
      (parts : ∀ e ∈ arguments, Steady g entered e)
      (accepted_of_object : ComesToObject g receiver → b.arity.accepts arguments.length = true)
      (accepted_of_value :
        ¬ ComesToObject g receiver → b.arity.accepts (arguments.length + 1) = true)
      (line : Nat) : Steady g entered (.method receiver b.methodName arguments line)

/-- The expression is no reference by which one of the rules `active` is looked up. -/
def LooksUpNone (active : List String) : Expr → Prop
  | reference name _ => Category.ofName? name = none → name ∉ active
  | _ => True

/-- Inside the rules `entered`, the expression comes to a value in all repetitions, whichever rules
are active besides, if it looks none of those up. -/
structure ComesTo (g : Grammar) (entered : List String) (e : Expr) (value : Value) : Prop where
  object_iff : (∃ category, value = .category category) ↔ ComesToObject g e
  evaluates : ∀ count active, Everywhere g (LooksUpNone active) e →
    evaluate g count (entered ++ active) e = pure (.constant value count)

section

variable {g : Grammar} {entered : List String}

theorem evaluateAll_of_comesTo {es : List Expr} {values : List Value}
    (h : List.Forall₂ (ComesTo g entered) es values) (count : Nat) {active : List String}
    (looks_up : ∀ e ∈ es, Everywhere g (LooksUpNone active) e) :
    evaluateAll g count (entered ++ active) es = pure (Batch.constants values count) := by
  refine evaluateAll_eq_pure g count _ ?_
  induction h with
  | nil => exact .nil
  | cons here _ ih =>
    obtain ⟨looks_up_here, others⟩ := List.forall_mem_cons.1 looks_up
    exact .cons (here.evaluates count active looks_up_here) (ih others)

theorem comesTo_literal (constant : Literal) (line : Nat) :
    ComesTo g entered (.literal constant line) constant.toValue := by
  refine ⟨⟨?_, nofun⟩, fun count active _ => evaluate_literal g count _ constant line⟩
  rintro ⟨category, eq⟩
  cases constant with
  | integer n => cases eq
  | text t => cases eq

theorem comesTo_category {name : String} {category : Category}
    (named : Category.ofName? name = some category) (line : Nat) :
    ComesTo g entered (.reference name line) (.category category) := by
  refine ⟨⟨fun _ => .named ?_ line, fun _ => ⟨category, rfl⟩⟩,
    fun count active _ => evaluate_category g count _ named line⟩
  rw [named]
  rfl

theorem ComesTo.defined {name : String} {body : Expr} {value : Value}
    (inside : ComesTo g (name :: entered) body value) (unnamed : Category.ofName? name = none)
    (found : g.find? name = some body) (fresh : name ∉ entered) (line : Nat) :
    ComesTo g entered (.reference name line) value := by
  refine ⟨inside.object_iff.trans ⟨fun object => .defined unnamed found object line, ?_⟩,
    fun count active looks_up => ?_⟩
  · intro object
    cases object with
    | named named =>
      rw [unnamed] at named
      cases named
    | defined _ found' object =>
      cases found.symm.trans found'
      exact object
  · have not_active : name ∉ entered ++ active := by
      rw [List.mem_append, not_or]
      exact ⟨fresh, looks_up.self unnamed⟩
    rw [evaluate_reference g count _ unnamed, found]
    dsimp only
    rw [if_neg not_active]
    exact inside.evaluates count active (looks_up.part (.defined unnamed found line))

theorem ComesTo.captured {name : String} {body : Expr} {value : Value}
    (inside : ComesTo g (name :: entered) body value) (line : Nat) :
    ComesTo g entered (.rule name body line) value := by
  refine ⟨inside.object_iff.trans ⟨fun object => .captured name object line, ?_⟩,
    fun count active looks_up => ?_⟩
  · intro object
    cases object with
    | captured _ object => exact object
  · rw [evaluate_rule]
    exact inside.evaluates count active (looks_up.part (.captured name body line))

theorem comesTo_list {elements : List Expr} {values : List Value}
    (parts : List.Forall₂ (ComesTo g entered) elements values) (line : Nat) :
    ComesTo g entered (.list elements line) (.list values) := by
  refine ⟨⟨nofun, nofun⟩, fun count active looks_up => ?_⟩
  refine evaluate_list g count _ (evaluateAll_of_comesTo parts count fun e mem => ?_) line
  exact looks_up.part (.element mem line)

theorem exists_comesTo_call {b : Builtin} (text : b = .append ∨ b = .lower) {arguments : List Expr}
    {values : List Value} (parts : List.Forall₂ (ComesTo g entered) arguments values)
    (accepted : b.arity.accepts arguments.length = true) (line : Nat) :
    ∃ value, ComesTo g entered (.call b.name arguments line) value := by
  have accepted_values : b.arity.accepts values.length = true := parts.length_eq ▸ accepted
  obtain ⟨t, gives⟩ := Builtin.exists_apply_eq_text text accepted_values
  refine ⟨.text t, ⟨nofun, nofun⟩, fun count active looks_up => ?_⟩
  have operands := evaluateAll_of_comesTo parts count fun e mem =>
    looks_up.part (.argument mem b.name line)
  rw [evaluate_call g count _ b.named?_name operands accepted, gives]

/-- A category object selects a method of texts and adds nothing to its operands; any other value is
the first of them. -/
theorem exists_comesTo_method {b : Builtin} (text : b = .append ∨ b = .lower) {receiver : Expr}
    {object : Value} (head : ComesTo g entered receiver object) {arguments : List Expr}
    {values : List Value} (parts : List.Forall₂ (ComesTo g entered) arguments values)
    (accepted_of_object : ComesToObject g receiver → b.arity.accepts arguments.length = true)
    (accepted_of_value :
      ¬ ComesToObject g receiver → b.arity.accepts (arguments.length + 1) = true) (line : Nat) :
    ∃ value, ComesTo g entered (.method receiver b.methodName arguments line) value := by
  have accepted : b.arity.accepts (object.asReceiver.length + arguments.length) = true := by
    by_cases is_object : ∃ category, object = .category category
    · have accepted := accepted_of_object (head.object_iff.1 is_object)
      obtain ⟨category, rfl⟩ := is_object
      rw [Value.asReceiver, List.length_nil, Nat.zero_add]
      exact accepted
    · rw [Value.length_asReceiver fun category eq => is_object ⟨category, eq⟩, Nat.add_comm]
      exact accepted_of_value fun comes_to => is_object (head.object_iff.2 comes_to)
  have accepted_values : b.arity.accepts (object.asReceiver ++ values).length = true := by
    rw [List.length_append, ← parts.length_eq]
    exact accepted
  have owned : object.toCategory.supports b.owner = true := by
    rcases text with rfl | rfl <;> exact Category.supports_textual _
  obtain ⟨t, gives⟩ := Builtin.exists_apply_eq_text text accepted_values
  refine ⟨.text t, ⟨nofun, nofun⟩, fun count active looks_up => ?_⟩
  have receiver_eq := head.evaluates count active
    (looks_up.part (.receiver receiver b.methodName arguments line))
  have operands := evaluateAll_of_comesTo parts count fun e mem =>
    looks_up.part (.operand mem receiver b.methodName line)
  rw [← Batch.length_constants object.asReceiver count] at accepted
  rw [evaluate_method g count _ receiver_eq (receiverRole_constant object count)
    (Builtin.method?_methodName owned) operands accepted, ← Batch.constants_append, gives]

theorem Steady.exists_comesTo {e : Expr} (steady : Steady g entered e) :
    ∃ value, ComesTo g entered e value := by
  induction steady with
  | literal entered constant line => exact ⟨_, comesTo_literal constant line⟩
  | category entered named line =>
    obtain ⟨category, named⟩ := Option.isSome_iff_exists.1 named
    exact ⟨_, comesTo_category named line⟩
  | defined unnamed found fresh inside line ih =>
    obtain ⟨value, comes_to⟩ := ih
    exact ⟨value, comes_to.defined unnamed found fresh line⟩
  | captured fresh inside line ih =>
    obtain ⟨value, comes_to⟩ := ih
    exact ⟨value, comes_to.captured line⟩
  | list parts line ih =>
    obtain ⟨values, comes_to⟩ := exists_forall₂_of_forall_mem ih
    exact ⟨_, comesTo_list comes_to line⟩
  | call text parts accepted line ih =>
    obtain ⟨values, comes_to⟩ := exists_forall₂_of_forall_mem ih
    exact exists_comesTo_call text comes_to accepted line
  | method text head parts accepted_of_object accepted_of_value line ih_head ih =>
    obtain ⟨object, head_comes_to⟩ := ih_head
    obtain ⟨values, comes_to⟩ := exists_forall₂_of_forall_mem ih
    exact exists_comesTo_method text head_comes_to comes_to accepted_of_object accepted_of_value
      line

end

/-- A steady expression has one value, whatever the number of repetitions, the randomness, the pool
and the active rules are, as long as none of these is looked up; and evaluation takes nothing. -/
theorem repeats_of_steady {g : Grammar} {e : Expr} (steady : Steady g [] e) :
    ∃ value, ∀ count active, Everywhere g (LooksUpNone active) e →
      ∀ s p, (evaluate g count active e).outcome s p = ⟨.ok (.constant value count), s, p⟩ := by
  obtain ⟨value, comes_to⟩ := steady.exists_comesTo
  refine ⟨value, fun count active looks_up s p => ?_⟩
  have gives : evaluate g count active e = pure (.constant value count) :=
    comes_to.evaluates count active looks_up
  rw [gives, Generator.outcome_pure]

/-- A rule that was taken up and one that is looked up, a method of either kind of receiver, and no
repetition at all. -/
theorem repeats_of_steady_of_greeting :
    let g : Grammar := ⟨[("name", .list [.literal (.text "Ann") 1] 1),
      ("object", .reference "value" 2)]⟩
    let greeting := Expr.call "append" [.reference "name" 3, .literal (.integer 7) 3] 3
    let e := Expr.method (.reference "object" 4) "lower"
      [.method (.rule "greeting" greeting 4) "append" [] 4] 4
    Steady g [] e ∧ Everywhere g (LooksUpNone ["other"]) e ∧
      ∃ value, (evaluate g 0 ["other"] e).outcome (.ofSeed 0) ∅ =
        ⟨.ok (.constant value 0), .ofSeed 0, ∅⟩ := by
  intro g greeting e
  have object_found : g.find? "object" = some (.reference "value" 2) := rfl
  have name_found : g.find? "name" = some (.list [.literal (.text "Ann") 1] 1) := rfl
  have steady_greeting : Steady g ["greeting"] greeting := by
    refine .call (b := .append) (.inl rfl) (List.forall_mem_cons.2 ⟨?_, ?_⟩) rfl 3
    · refine .defined rfl name_found (by decide) (.list (List.forall_mem_singleton.2 ?_) 1) 3
      exact .literal _ _ _
    · exact List.forall_mem_singleton.2 (.literal _ _ _)
  have steady : Steady g [] e := by
    refine .method (b := .lower) (.inr rfl) ?_ (List.forall_mem_singleton.2 ?_) (fun _ => rfl) ?_ 4
    · exact .defined rfl object_found (by decide) (.category _ rfl 2) 4
    · exact .method (b := .append) (.inl rfl) (.captured (by decide) steady_greeting 4)
        (List.forall_mem_nil _) (fun _ => rfl) (fun _ => rfl) 4
    · exact fun other => absurd (.defined rfl object_found (.named rfl 2) 4) other
  have looks_up : Everywhere g (LooksUpNone ["other"]) e := by
    refine everywhere_method trivial ?_ (List.forall_mem_singleton.2 ?_)
    · refine everywhere_reference (fun _ => by decide) object_found ?_
      exact everywhere_category (fun _ => by decide) rfl
    · refine everywhere_method trivial (everywhere_rule trivial ?_) (List.forall_mem_nil _)
      refine everywhere_call trivial (List.forall_mem_cons.2 ⟨?_, ?_⟩)
      · refine everywhere_reference (fun _ => by decide) name_found (everywhere_list trivial ?_)
        exact everywhere_literals (fun _ => trivial) [.text "Ann"]
      · exact everywhere_literals (fun _ => trivial) [.integer 7]
  obtain ⟨value, gives⟩ := repeats_of_steady steady
  exact ⟨steady, looks_up, value, gives 0 ["other"] looks_up _ _⟩

end Expr

end Phrasemill
