import Mathlib
import Phrasemill.Evaluation

/-!
# Evaluation, step by step

What evaluation does with each kind of expression, free of the proofs that it ends, and the induction
that follows it: into the parts of an expression under the same active rules, and into the body of a
rule with that rule on top of them (`Expr.evaluate_induction`).
-/

namespace Phrasemill

namespace Generator

variable {α β : Type}

theorem check_ok (a : α) : check (.ok a) = pure a := rfl

theorem check_error (fault : Fault) : (check (.error fault) : Generator α) = throw fault := rfl

theorem throw_bind (fault : Fault) (f : α → Generator β) :
    (throw fault : Generator α) >>= f = throw fault := rfl

/-- A generator as a dialogue, from a random source on. -/
def dialogue (g : Generator α) (s : RandomSource) : Dialogue (Except Fault α × RandomSource) :=
  StateT.run (ExceptT.run g) s

theorem outcome_eq (g : Generator α) (s : RandomSource) (p : Pool) :
    g.outcome s p = ⟨((g.dialogue s).run p).1.1, ((g.dialogue s).run p).1.2,
      ((g.dialogue s).run p).2⟩ := rfl

theorem run_dialogue {g : Generator α} {s : RandomSource} {p : Pool} {o : Outcome α}
    (h : g.outcome s p = o) : (g.dialogue s).run p = ((o.result, o.source), o.pool) := by
  subst h
  rfl

theorem dialogue_bind (g : Generator α) (f : α → Generator β) (s : RandomSource) :
    (g >>= f).dialogue s = g.dialogue s >>= fun
      | (.ok a, s) => (f a).dialogue s
      | (.error fault, s) => .finished (.error fault, s) := by
  rw [dialogue, ExceptT.run_bind, StateT.run_bind]
  congr 1
  funext ⟨result, s⟩
  cases result with
  | ok a => rfl
  | error fault => rfl

theorem result_bind_eq_ok_iff {g : Generator α} {f : α → Generator β} {s : RandomSource} {p : Pool}
    {b : β} :
    ((g >>= f).outcome s p).result = .ok b ↔
      ∃ a, (g.outcome s p).result = .ok a ∧
        ((f a).outcome (g.outcome s p).source (g.outcome s p).pool).result = .ok b := by
  rw [outcome_bind]
  cases g.outcome s p with
  | mk result source pool =>
    cases result with
    | ok a => simp
    | error fault => simp

end Generator

namespace Builtin

theorem checkArity_of_accepts {b : Builtin} {found : Nat} (h : b.arity.accepts found = true)
    (line : Nat) : b.checkArity found line = .ok () := by
  rw [checkArity, if_pos h]

theorem resolveName_of_named? {name : String} {b : Builtin} (h : named? name = some b)
    (line : Nat) : resolveName name line = .ok b := by
  rw [resolveName, h]

theorem resolveMethod_of_method? {category : Category} {name : String} {b : Builtin}
    (h : method? category name = some b) (line : Nat) : resolveMethod category name line = .ok b := by
  rw [resolveMethod, h]

theorem named?_name (b : Builtin) : named? b.name = some b := by
  cases b <;> rfl

theorem method?_methodName {b : Builtin} {category : Category}
    (supported : category.supports b.owner = true) : method? category b.methodName = some b := by
  cases category with
  | numeric => cases b <;> rfl
  | textual =>
    cases b with
    | between => cases supported
    | upto => cases supported
    | _ => rfl

theorem name_of_named? {name : String} {b : Builtin} (h : named? name = some b) : b.name = name := by
  have := List.find?_some h
  exact beq_iff_eq.1 this

theorem methodName_of_method? {category : Category} {name : String} {b : Builtin}
    (h : method? category name = some b) : b.methodName = name := by
  have := List.find?_some h
  rw [Bool.and_eq_true, beq_iff_eq] at this
  exact this.1

theorem name_of_resolveName {name : String} {line : Nat} {b : Builtin}
    (h : resolveName name line = .ok b) : b.name = name := by
  unfold resolveName at h
  split at h
  · next found =>
    cases h
    exact name_of_named? found
  · cases h

theorem methodName_of_resolveMethod {category : Category} {name : String} {line : Nat} {b : Builtin}
    (h : resolveMethod category name line = .ok b) : b.methodName = name := by
  unfold resolveMethod at h
  split at h
  · next found =>
    cases h
    exact methodName_of_method? found
  · split at h
    · cases h
    · cases h

end Builtin

/-! ### Columns of constants -/

namespace Batch

/-- Columns that hold the same value in every repetition. -/
def constants (values : List Value) (count : Nat) : List Batch := values.map (constant · count)

@[simp] theorem length_constants (values : List Value) (count : Nat) :
    (constants values count).length = values.length := List.length_map _

theorem constants_append (values others : List Value) (count : Nat) :
    constants (values ++ others) count = constants values count ++ constants others count :=
  List.map_append

@[simp] theorem allConstant_constants (values : List Value) (count : Nat) :
    allConstant (constants values count) = true := by
  rw [allConstant, constants, List.all_map, List.all_eq_true]
  intro value _
  rfl

@[simp] theorem representatives_constants (values : List Value) (count : Nat) :
    representatives (constants values count) = values := by
  rw [representatives, constants, List.filterMap_map]
  exact List.filterMap_some

@[simp] theorem lists_constants (values : List Value) (count : Nat) :
    lists (constants values count) count = constant (.list values) count := by
  rw [lists, if_pos (allConstant_constants values count), representatives_constants]

end Batch

namespace Builtin

/-- On columns of constants a builtin is applied as a batch. -/
theorem apply_constants (b : Builtin) (site : CallSite) (values : List Value) (count : Nat) :
    b.apply site (Batch.constants values count) count = b.callBatch site values count := by
  rw [apply, if_pos (Batch.allConstant_constants values count), Batch.representatives_constants]

end Builtin

/-! ### Kinds of expressions -/

namespace Expr

variable (g : Grammar) (count : Nat) (active : List String)

/-- What a reference that names no category evaluates to. -/
theorem evaluate_reference {name : String} (h : Category.ofName? name = none) (line : Nat) :
    evaluate g count active (.reference name line) =
      match g.find? name with
      | none => throw (.ruleNotFound name line)
      | some body =>
        if name ∈ active then throw (.cyclicRule name line)
        else evaluate g count (name :: active) body := by
  rw [evaluate]
  split
  · next category named =>
    rw [h] at named
    cases named
  · split
    · next found => rw [found]
    · next body found =>
      conv_rhs => rw [found]
      rfl

/-- A reference is the body of its rule with the rule entered, unless there is no rule or it has been
entered before. -/
theorem evaluate_reference_cases {name : String} (h : Category.ofName? name = none) (line : Nat) :
    (g.find? name = none ∧ ∀ count,
        evaluate g count active (.reference name line) = throw (.ruleNotFound name line)) ∨
      (name ∈ active ∧ ∀ count,
        evaluate g count active (.reference name line) = throw (.cyclicRule name line)) ∨
      ∃ body, g.find? name = some body ∧ name ∉ active ∧ ∀ count,
        evaluate g count active (.reference name line) =
          evaluate g count (name :: active) body := by
  cases found : g.find? name with
  | none =>
    refine .inl ⟨rfl, fun count => ?_⟩
    rw [evaluate_reference g count active h, found]
  | some body =>
    by_cases entered : name ∈ active
    · refine .inr (.inl ⟨entered, fun count => ?_⟩)
      rw [evaluate_reference g count active h, found]
      exact if_pos entered
    · refine .inr (.inr ⟨body, rfl, entered, fun count => ?_⟩)
      rw [evaluate_reference g count active h, found]
      exact if_neg entered

theorem evaluate_category {name : String} {category : Category}
    (h : Category.ofName? name = some category) (line : Nat) :
    evaluate g count active (.reference name line) = pure (.constant (.category category) count) := by
  rw [evaluate, h]

theorem evaluate_literal (constant : Literal) (line : Nat) :
    evaluate g count active (.literal constant line) = pure (.constant constant.toValue count) := by
  rw [evaluate]

theorem evaluate_list {elements : List Expr} {values : List Value}
    (operands : evaluateAll g count active elements = pure (Batch.constants values count))
    (line : Nat) :
    evaluate g count active (.list elements line) = pure (.constant (.list values) count) := by
  rw [evaluate, operands, pure_bind, Batch.lists_constants]

theorem evaluate_rule (name : String) (body : Expr) (line : Nat) :
    evaluate g count active (.rule name body line) = evaluate g count (name :: active) body := by
  rw [evaluate]

/-- What becomes of a call whose function was looked up. Its operands are the columns `first` and,
behind them, its arguments. -/
def called (resolved : Except Fault Builtin) (first : List Batch) (arguments : List Expr)
    (line : Nat) : Generator Batch := do
  let b ← Generator.check resolved
  Generator.check (b.checkArity (first.length + arguments.length) line)
  let columns ← evaluateAll g count active arguments
  b.apply ⟨active.head?, line⟩ (first ++ columns) count

theorem evaluate_call_eq (name : String) (arguments : List Expr) (line : Nat) :
    evaluate g count active (.call name arguments line) =
      called g count active (Builtin.resolveName name line) [] arguments line := by
  rw [evaluate, called, List.length_nil, Nat.zero_add]
  rfl

theorem evaluate_method_eq (receiver : Expr) (name : String) (arguments : List Expr) (line : Nat) :
    evaluate g count active (.method receiver name arguments line) =
      evaluate g count active receiver >>= fun object =>
        called g count active (Builtin.resolveMethod (receiverRole object).1 name line)
          (receiverRole object).2 arguments line := by
  rw [evaluate]
  rfl

/-- A call of as many operands as are accepted. -/
theorem called_of_accepts {b : Builtin} {first : List Batch} {arguments : List Expr}
    (accepted : b.arity.accepts (first.length + arguments.length) = true) (line : Nat) :
    called g count active (.ok b) first arguments line =
      evaluateAll g count active arguments >>= fun columns =>
        b.apply ⟨active.head?, line⟩ (first ++ columns) count := by
  rw [called, Generator.check_ok, pure_bind, Builtin.checkArity_of_accepts accepted,
    Generator.check_ok, pure_bind]

theorem called_eq_apply {b : Builtin} {first columns : List Batch} {arguments : List Expr}
    (operands : evaluateAll g count active arguments = pure columns)
    (accepted : b.arity.accepts (first.length + arguments.length) = true) (line : Nat) :
    called g count active (.ok b) first arguments line =
      b.apply ⟨active.head?, line⟩ (first ++ columns) count := by
  rw [called_of_accepts g count active accepted, operands, pure_bind]

theorem evaluate_call {name : String} {b : Builtin} (found : Builtin.named? name = some b)
    {arguments : List Expr} {columns : List Batch}
    (operands : evaluateAll g count active arguments = pure columns)
    (accepted : b.arity.accepts arguments.length = true) (line : Nat) :
    evaluate g count active (.call name arguments line) =
      b.apply ⟨active.head?, line⟩ columns count := by
  rw [evaluate_call_eq, Builtin.resolveName_of_named? found]
  refine called_eq_apply g count active operands ?_ line
  rw [List.length_nil, Nat.zero_add]
  exact accepted

theorem evaluate_method {receiver : Expr} {object : Batch} {category : Category}
    {first : List Batch} (receiver_eq : evaluate g count active receiver = pure object)
    (role : receiverRole object = (category, first)) {name : String} {b : Builtin}
    (found : Builtin.method? category name = some b) {arguments : List Expr} {columns : List Batch}
    (operands : evaluateAll g count active arguments = pure columns)
    (accepted : b.arity.accepts (first.length + arguments.length) = true) (line : Nat) :
    evaluate g count active (.method receiver name arguments line) =
      b.apply ⟨active.head?, line⟩ (first ++ columns) count := by
  rw [evaluate_method_eq, receiver_eq, pure_bind, role, Builtin.resolveMethod_of_method? found]
  exact called_eq_apply g count active operands accepted line

/-- A receiver that is no category object is the first operand. -/
theorem receiverRole_of_no_object {object : Batch}
    (none_first : ∀ category, object.representative? ≠ some (.category category)) :
    ∃ category, receiverRole object = (category, [object]) := by
  unfold receiverRole
  split
  · next found => exact absurd found (none_first _)
  · exact ⟨_, rfl⟩
  · exact ⟨_, rfl⟩

theorem evaluateAll_eq_pure {es : List Expr} {values : List Value}
    (h : List.Forall₂ (fun e v => evaluate g count active e = pure (.constant v count)) es values) :
    evaluateAll g count active es = pure (Batch.constants values count) := by
  induction h with
  | nil => rw [evaluateAll]; rfl
  | cons here _ ih =>
    rw [evaluateAll, here, pure_bind, ih, pure_bind]
    rfl

/-! ### Induction -/

/-- What holds of an expression if it holds of what is evaluated for it holds of all expressions. -/
theorem evaluate_induction {P : List String → Expr → Prop} (g : Grammar)
    (literal : ∀ active constant line, P active (.literal constant line))
    (reference : ∀ active name line,
      (∀ body, Category.ofName? name = none → g.find? name = some body → name ∉ active →
        P (name :: active) body) → P active (.reference name line))
    (list : ∀ active elements line, (∀ e ∈ elements, P active e) → P active (.list elements line))
    (call : ∀ active name arguments line, (∀ e ∈ arguments, P active e) →
      P active (.call name arguments line))
    (method : ∀ active receiver name arguments line, P active receiver →
      (∀ e ∈ arguments, P active e) → P active (.method receiver name arguments line))
    (rule : ∀ active name body line, P (name :: active) body → P active (.rule name body line))
    (active : List String) (e : Expr) : P active e := by
  have ih : ∀ active' e', Prod.Lex (· < ·) (· < ·) (g.unentered active', sizeOf e')
      (g.unentered active, sizeOf e) → P active' e' := fun active' e' _ =>
    evaluate_induction g literal reference list call method rule active' e'
  cases e with
  | literal constant line => exact literal active constant line
  | reference name line =>
    refine reference active name line fun body _ found fresh => ih _ _ (.left _ _ ?_)
    exact Grammar.unentered_cons_lt (Grammar.mem_names_of_find? found) fresh
  | list elements line =>
    refine list active elements line fun e mem => ih _ _ (.right _ ?_)
    have := List.sizeOf_lt_of_mem mem
    rw [Expr.list.sizeOf_spec]
    omega
  | call name arguments line =>
    refine call active name arguments line fun e mem => ih _ _ (.right _ ?_)
    have := List.sizeOf_lt_of_mem mem
    rw [Expr.call.sizeOf_spec]
    omega
  | method receiver name arguments line =>
    refine method active receiver name arguments line (ih _ _ (.right _ ?_))
      fun e mem => ih _ _ (.right _ ?_)
    · rw [Expr.method.sizeOf_spec]
      omega
    · have := List.sizeOf_lt_of_mem mem
      rw [Expr.method.sizeOf_spec]
      omega
  | rule name body line =>
    refine rule active name body line (ih _ _ ?_)
    refine Prod.Lex.right' _ (g.unentered_cons_le name active) ?_
    rw [Expr.rule.sizeOf_spec]
    omega
termination_by (g.unentered active, sizeOf e)
decreasing_by assumption

/-! ### What is evaluated for an expression -/

/-- The second expression is one of those that the first is evaluated from. -/
inductive Part (g : Grammar) : Expr → Expr → Prop where
  | element {e : Expr} {elements : List Expr} (mem : e ∈ elements) (line : Nat) :
      Part g (.list elements line) e
  | argument {e : Expr} {arguments : List Expr} (mem : e ∈ arguments) (name : String) (line : Nat) :
      Part g (.call name arguments line) e
  | receiver (receiver : Expr) (name : String) (arguments : List Expr) (line : Nat) :
      Part g (.method receiver name arguments line) receiver
  | operand {e : Expr} {arguments : List Expr} (mem : e ∈ arguments) (receiver : Expr)
      (name : String) (line : Nat) : Part g (.method receiver name arguments line) e
  | captured (name : String) (body : Expr) (line : Nat) : Part g (.rule name body line) body
  | defined {name : String} {body : Expr} (unnamed : Category.ofName? name = none)
      (found : g.find? name = some body) (line : Nat) : Part g (.reference name line) body

/-- Something holds of an expression and of everything that can be reached from it through its parts,
the bodies of rules included. -/
def Everywhere (g : Grammar) (P : Expr → Prop) (e : Expr) : Prop :=
  ∀ part, Relation.ReflTransGen (Part g) e part → P part

theorem Everywhere.self {g : Grammar} {P : Expr → Prop} {e : Expr} (h : Everywhere g P e) : P e :=
  h e .refl

theorem Everywhere.intro {g : Grammar} {P : Expr → Prop} {e : Expr} (here : P e)
    (parts : ∀ part, Part g e part → Everywhere g P part) : Everywhere g P e := by
  intro part reached
  cases reached.cases_head with
  | inl same => exact same ▸ here
  | inr step =>
    obtain ⟨first, is_part, rest⟩ := step
    exact parts first is_part part rest

section Introduction

variable {g : Grammar} {P : Expr → Prop}

theorem everywhere_literal {value : Literal} {line : Nat} (here : P (.literal value line)) :
    Everywhere g P (.literal value line) := by
  refine .intro here fun part h => ?_
  cases h

theorem everywhere_literals {line : Nat} (here : ∀ value, P (.literal value line))
    (constants : List Literal) : ∀ e ∈ constants.map (.literal · line), Everywhere g P e :=
  List.forall_mem_map.2 fun constant _ => everywhere_literal (here constant)

theorem everywhere_list {elements : List Expr} {line : Nat} (here : P (.list elements line))
    (parts : ∀ e ∈ elements, Everywhere g P e) : Everywhere g P (.list elements line) := by
  refine .intro here fun part h => ?_
  cases h with
  | element mem => exact parts part mem

theorem everywhere_call {name : String} {arguments : List Expr} {line : Nat}
    (here : P (.call name arguments line)) (parts : ∀ e ∈ arguments, Everywhere g P e) :
    Everywhere g P (.call name arguments line) := by
  refine .intro here fun part h => ?_
  cases h with
  | argument mem => exact parts part mem

theorem everywhere_method {receiver : Expr} {name : String} {arguments : List Expr} {line : Nat}
    (here : P (.method receiver name arguments line)) (object : Everywhere g P receiver)
    (parts : ∀ e ∈ arguments, Everywhere g P e) :
    Everywhere g P (.method receiver name arguments line) := by
  refine .intro here fun part h => ?_
  cases h with
  | receiver => exact object
  | operand mem => exact parts part mem

theorem everywhere_rule {name : String} {body : Expr} {line : Nat} (here : P (.rule name body line))
    (inside : Everywhere g P body) : Everywhere g P (.rule name body line) := by
  refine .intro here fun part h => ?_
  cases h with
  | captured => exact inside

/-- A category object leads nowhere. -/
theorem everywhere_category {name : String} {line : Nat} (here : P (.reference name line))
    (named : (Category.ofName? name).isSome) : Everywhere g P (.reference name line) := by
  refine .intro here fun part h => ?_
  cases h with
  | defined unnamed =>
    rw [unnamed] at named
    cases named

theorem everywhere_reference {name : String} {body : Expr} {line : Nat}
    (here : P (.reference name line)) (defined : g.find? name = some body)
    (inside : Everywhere g P body) : Everywhere g P (.reference name line) := by
  refine .intro here fun part h => ?_
  cases h with
  | defined unnamed found =>
    rw [← Option.some.inj (defined.symm.trans found)]
    exact inside

/-- What holds of all expressions of a list holds everywhere in each of them, if their parts are in it. -/
theorem everywhere_of_closed {parts : List Expr} (all : ∀ e ∈ parts, P e)
    (closed : ∀ e ∈ parts, ∀ part, Part g e part → part ∈ parts) {e : Expr} (mem : e ∈ parts) :
    Everywhere g P e := by
  intro part reached
  refine all part ?_
  induction reached with
  | refl => exact mem
  | tail _ is_part ih => exact closed _ ih _ is_part

end Introduction

theorem Everywhere.part {g : Grammar} {P : Expr → Prop} {e part : Expr} (h : Everywhere g P e)
    (here : Part g e part) : Everywhere g P part :=
  fun _ reached => h _ (.head here reached)

end Expr

end Phrasemill
