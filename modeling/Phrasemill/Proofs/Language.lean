import Mathlib
import Phrasemill.Proofs.Language.Calls
import Phrasemill.Proofs.Needs

/-!
# The language of an expression

An expression describes a set of values, independently of how it is evaluated: a choice gives any of
its candidates, a range any of its integers, and everything else what it gives for members of its
parts (`Expr.Member`). Whatever evaluation does with it, in batches or row by row, with rules captured
or looked up, with fresh candidates or with those others have left, it gives only members of the
language, in every repetition (`Expr.yields_evaluate`).

That is so for expressions that are clean: the category objects are named only to choose a method. In
any other place an object would be a value of its own, and a receiver that evaluates to an object is
no operand.
-/

namespace Phrasemill

namespace Value

/-- There is no category object in the value. -/
inductive Plain : Value → Prop
  | integer (value : Int64) : Plain (.integer value)
  | text (value : String) : Plain (.text value)
  | list {items : List Value} (h : ∀ v ∈ items, Plain v) : Plain (.list items)

theorem plain_toValue (constant : Literal) : constant.toValue.Plain := by
  cases constant with
  | integer value => exact .integer value
  | text value => exact .text value

end Value

namespace Builtin

theorem plain_of_mem_candidates {operands : List Value} (plain : ∀ u ∈ operands, u.Plain) :
    ∀ v ∈ candidates operands, v.Plain := by
  unfold candidates
  split
  · cases plain _ List.mem_cons_self with
    | list h => exact h
  · exact plain

theorem Gives.plain {b : Builtin} {operands : List Value} {v : Value} (h : b.Gives operands v)
    (plain : ∀ u ∈ operands, u.Plain) : v.Plain := by
  cases h with
  | append => exact .text _
  | lower => exact .text _
  | oneOf mem => exact plain_of_mem_candidates plain v mem
  | oneOfUnique mem => exact plain_of_mem_candidates plain v mem
  | between => exact .integer _
  | upto => exact .integer _

end Builtin

namespace Expr

theorem receiverRole_of_plain {object : Batch} (plain : object.Holds Value.Plain) :
    ∃ category, receiverRole object = (category, [object]) :=
  receiverRole_of_no_object fun _ found => nomatch plain.representative? found

/-! ### The language -/

/-- The values in the language of an expression. -/
inductive Member (g : Grammar) : Expr → Value → Prop
  | literal (constant : Literal) (line : Nat) : Member g (.literal constant line) constant.toValue
  | list {elements : List Expr} {items : List Value}
      (parts : List.Forall₂ (Member g) elements items) (line : Nat) :
      Member g (.list elements line) (.list items)
  | defined {name : String} {body : Expr} {v : Value} (unnamed : Category.ofName? name = none)
      (found : g.find? name = some body) (inside : Member g body v) (line : Nat) :
      Member g (.reference name line) v
  | captured (name : String) {body : Expr} {v : Value} (inside : Member g body v) (line : Nat) :
      Member g (.rule name body line) v
  | call {b : Builtin} {name : String} (named : b.name = name) {arguments : List Expr}
      {operands : List Value} {v : Value} (parts : List.Forall₂ (Member g) arguments operands)
      (gives : b.Gives operands v) (line : Nat) : Member g (.call name arguments line) v
  /-- The receiver is a category object and no operand. -/
  | categoryMethod {object : String} {category : Category}
      (chosen : Category.ofName? object = some category) (at_line : Nat) {b : Builtin}
      {name : String} (named : b.methodName = name) {arguments : List Expr} {operands : List Value}
      {v : Value} (parts : List.Forall₂ (Member g) arguments operands) (gives : b.Gives operands v)
      (line : Nat) : Member g (.method (.reference object at_line) name arguments line) v
  | method {receiver : Expr} {first : Value} (head : Member g receiver first) {b : Builtin}
      {name : String} (named : b.methodName = name) {arguments : List Expr} {operands : List Value}
      {v : Value} (parts : List.Forall₂ (Member g) arguments operands)
      (gives : b.Gives (first :: operands) v) (line : Nat) :
      Member g (.method receiver name arguments line) v

/-! ### Clean expressions -/

/-- The expression is the name of a category object. -/
def NamesCategory : Expr → Prop
  | reference name _ => (Category.ofName? name).isSome
  | _ => False

/-- Of the parts of an expression only the receiver of a method names a category object. -/
def NamesNoOperand (g : Grammar) : Expr → Prop
  | literal _ _ => True
  | list parts _ | call _ parts _ | method _ _ parts _ => ∀ e ∈ parts, ¬ e.NamesCategory
  | rule _ body _ => ¬ body.NamesCategory
  | reference name _ =>
    ∀ body, Category.ofName? name = none → g.find? name = some body → ¬ body.NamesCategory

/-- In the expression and in all rules that can be reached from it, category objects are named only
as the receivers of methods. -/
structure Clean (g : Grammar) (e : Expr) : Prop where
  here : ¬ e.NamesCategory
  inside : Everywhere g (NamesNoOperand g) e

namespace Clean

variable {g : Grammar}

theorem element {elements : List Expr} {line : Nat} (h : Clean g (.list elements line)) :
    ∀ e ∈ elements, Clean g e :=
  fun e mem => ⟨h.inside.self e mem, h.inside.part (.element mem line)⟩

theorem argument {name : String} {arguments : List Expr} {line : Nat}
    (h : Clean g (.call name arguments line)) : ∀ e ∈ arguments, Clean g e :=
  fun e mem => ⟨h.inside.self e mem, h.inside.part (.argument mem name line)⟩

theorem operand {receiver : Expr} {name : String} {arguments : List Expr} {line : Nat}
    (h : Clean g (.method receiver name arguments line)) : ∀ e ∈ arguments, Clean g e :=
  fun e mem => ⟨h.inside.self e mem, h.inside.part (.operand mem receiver name line)⟩

theorem receiver {receiver : Expr} {name : String} {arguments : List Expr} {line : Nat}
    (h : Clean g (.method receiver name arguments line)) :
    (∃ object category at_line, receiver = .reference object at_line ∧
      Category.ofName? object = some category) ∨ Clean g receiver := by
  by_cases named : receiver.NamesCategory
  · cases receiver with
    | reference object at_line =>
      obtain ⟨category, found⟩ := Option.isSome_iff_exists.1 named
      exact .inl ⟨object, category, at_line, rfl, found⟩
    | _ => exact absurd named id
  · exact .inr ⟨named, h.inside.part (.receiver receiver name arguments line)⟩

theorem captured {name : String} {body : Expr} {line : Nat} (h : Clean g (.rule name body line)) :
    Clean g body :=
  ⟨h.inside.self, h.inside.part (.captured name body line)⟩

theorem defined {name : String} {body : Expr} {line : Nat} (h : Clean g (.reference name line))
    (unnamed : Category.ofName? name = none) (found : g.find? name = some body) : Clean g body :=
  ⟨h.inside.self body unnamed found, h.inside.part (.defined unnamed found line)⟩

end Clean

/-! ### Evaluation stays in the language -/

section

variable {g : Grammar} {count : Nat} {active : List String}

theorem yields_evaluateAll {R : Expr → Value → Prop} {es : List Expr}
    (h : ∀ e ∈ es, (evaluate g count active e).Yields (Batch.Consists (R e) count)) :
    (evaluateAll g count active es).Yields
      fun columns => List.Forall₂ (fun e column => column.Consists (R e) count) es columns := by
  induction es with
  | nil =>
    rw [evaluateAll]
    exact Generator.yields_pure .nil
  | cons e es ih =>
    obtain ⟨here, others⟩ := List.forall_mem_cons.1 h
    rw [evaluateAll]
    refine here.bind fun column consists => (ih others).bind fun columns all => ?_
    exact Generator.yields_pure (.cons consists all)

/-- A member without category objects, which can be passed on as an operand. -/
def PlainMember (g : Grammar) (e : Expr) (v : Value) : Prop := Member g e v ∧ v.Plain

theorem members_of_forall₂ {es : List Expr} {values : List Value}
    (h : List.Forall₂ (PlainMember g) es values) :
    List.Forall₂ (Member g) es values ∧ ∀ v ∈ values, v.Plain := by
  refine ⟨h.imp fun e v => And.left, ?_⟩
  induction h with
  | nil => exact List.forall_mem_nil _
  | cons here _ ih => exact List.forall_mem_cons.2 ⟨here.2, ih⟩

/-- A call gives what its builtin does for members of the operands, those that stand before the
arguments being evaluated already. -/
theorem yields_called {resolved : Except Fault Builtin} {heads arguments : List Expr}
    {first : List Batch}
    (before : List.Forall₂ (fun e column => column.Consists (PlainMember g e) count) heads first)
    (behind : ∀ e ∈ arguments,
      (evaluate g count active e).Yields (Batch.Consists (PlainMember g e) count)) (line : Nat) :
    (called g count active resolved first arguments line).Yields
      (Batch.Consists (fun v => v.Plain ∧ ∃ b operands, resolved = .ok b ∧
        List.Forall₂ (Member g) (heads ++ arguments) operands ∧ b.Gives operands v) count) := by
  refine (Generator.yields_check fun b is_resolved => is_resolved).bind fun b is_resolved => ?_
  refine Generator.Yields.bind (P := fun _ => True) (Generator.yields_check fun _ _ => trivial)
    fun _ _ => ?_
  refine (yields_evaluateAll behind).bind fun columns all => ?_
  refine (b.yields_apply _ count (List.rel_append before all)).mono fun batch consists => ?_
  refine consists.mono fun v given => ?_
  obtain ⟨operands, parts, gives⟩ := given
  obtain ⟨members, plain⟩ := members_of_forall₂ parts
  exact ⟨gives.plain plain, b, operands, is_resolved, members, gives⟩

/-- Evaluation gives only members of the language. -/
theorem yields_evaluate {e : Expr} (clean : Clean g e) :
    (evaluate g count active e).Yields (Batch.Consists (PlainMember g e) count) := by
  induction active, e using evaluate_induction g with
  | literal active constant line =>
    rw [evaluate]
    exact Generator.yields_pure
      (Batch.consists_constant ⟨.literal constant line, Value.plain_toValue constant⟩ count)
  | reference active name line ih =>
    cases named : Category.ofName? name with
    | some category =>
      have names : (Category.ofName? name).isSome = true := by
        rw [named]
        rfl
      exact absurd names clean.here
    | none =>
      obtain ⟨-, fails⟩ | ⟨-, fails⟩ | ⟨body, found, fresh, enters⟩ :=
        evaluate_reference_cases g active named line
      · rw [fails]
        exact Generator.yields_throw _
      · rw [fails]
        exact Generator.yields_throw _
      · rw [enters]
        refine (ih body named found fresh (clean.defined named found)).mono fun batch consists => ?_
        exact consists.mono fun v member => ⟨.defined named found member.1 line, member.2⟩
  | list active elements line ih =>
    rw [evaluate]
    refine (yields_evaluateAll fun e mem => ih e mem (clean.element e mem)).bind fun columns all => ?_
    refine Generator.yields_pure ((Batch.consists_lists all).mono ?_)
    rintro v ⟨items, parts, rfl⟩
    obtain ⟨members, plain⟩ := members_of_forall₂ parts
    exact ⟨.list members line, .list plain⟩
  | call active name arguments line ih =>
    rw [evaluate_call_eq]
    refine (yields_called .nil (fun e mem => ih e mem (clean.argument e mem)) line).mono
      fun batch consists => consists.mono fun v given => ?_
    obtain ⟨plain, b, operands, resolved, members, gives⟩ := given
    exact ⟨.call (Builtin.name_of_resolveName resolved) members gives line, plain⟩
  | method active receiver name arguments line ih_receiver ih =>
    have arguments_stay := fun e mem => ih e mem (clean.operand e mem)
    rw [evaluate_method_eq]
    obtain ⟨object, category, at_line, rfl, named⟩ | clean_receiver := clean.receiver
    · rw [evaluate_category g count active named, pure_bind]
      refine (yields_called .nil arguments_stay line).mono
        fun batch consists => consists.mono fun v given => ?_
      obtain ⟨plain, b, operands, resolved, members, gives⟩ := given
      have method_name := Builtin.methodName_of_resolveMethod resolved
      exact ⟨.categoryMethod named at_line method_name members gives line, plain⟩
    · refine (ih_receiver clean_receiver).bind fun object consists => ?_
      obtain ⟨category, role⟩ := receiverRole_of_plain (consists.mono fun v => And.right).holds
      rw [role]
      refine (yields_called (.cons consists .nil) arguments_stay line).mono
        fun batch consists => consists.mono fun v given => ?_
      obtain ⟨plain, b, operands, resolved, members, gives⟩ := given
      have method_name := Builtin.methodName_of_resolveMethod resolved
      cases members with
      | cons head members => exact ⟨.method head method_name members gives line, plain⟩
  | rule active name body line ih =>
    rw [evaluate_rule]
    refine (ih clean.captured).mono fun batch consists => ?_
    exact consists.mono fun v member => ⟨.captured name member.1 line, member.2⟩

end

end Expr

end Phrasemill
