import Mathlib
import Phrasemill.Proofs.Alignment

/-!
# Receivers

A method can be called without its receiver standing in front: with the receiver as the first
argument of the function, or of the method of a category object. Both come to the same, randomness,
draws and faults included, as long as the receiver has the method and is no category object
(`Expr.evaluate_method_eq_call`).

Whether it is one is read off the first value of its batch. So what a receiver adds to a row is not
decided by the row: behind a category object in the first row, the texts of all other rows are lost
(`Expr.append_loses_text`), and else every row has the text of its own receiver in front
(`Expr.rows_of_append`).
-/

namespace Phrasemill

namespace Batch

/-- As a receiver, the batch is taken for a category object. -/
def StandsForObject (b : Batch) : Prop := ∃ category, b.representative? = some (.category category)

/-- As a receiver, the batch is an operand of its methods, and the method of a builtin is one of
them. -/
def Serves (b : Builtin) (object : Batch) : Prop :=
  match b.owner with
  | .textual => ¬ object.StandsForObject
  | .numeric => (∃ n, object.representative? = some (.integer n)) ∨
      object.isEmpty = true ∧ object.isConstant = false

variable {columns : List Batch} {count : Nat}

theorem row_cons {object : Batch} {i : Nat} {head : Value} (found : object.get? i = some head) :
    row (object :: columns) i = head :: row columns i := by
  rw [row, List.filterMap_cons, found]
  rfl

/-- Where all columns are constant, all rows are the same. -/
theorem row_eq_representatives (all : allConstant columns = true)
    (sizes : ∀ column ∈ columns, column.size = count) {i : Nat} (lt : i < count) :
    row columns i = representatives columns := by
  refine List.filterMap_congr fun column mem => ?_
  have is_constant := List.all_eq_true.1 all column mem
  have size := sizes column mem
  cases column with
  | constant value n => exact if_pos (lt.trans_eq size.symm)
  | varying values => cases is_constant

end Batch

namespace Builtin

/-- A text in front can only be told from none if it is not empty. -/
theorem joined_eq_joined_cons_iff {head : Value} {operands : List Value} :
    joined operands = joined (head :: operands) ↔ head.toText = "" := by
  rw [joined, joined, List.map_cons, String.join_cons, Value.text.injEq, eq_comm,
    String.append_eq_right_iff]

theorem accepts_append (n : Nat) : append.arity.accepts n = true := decide_eq_true n.zero_le

theorem callRow_append (site : CallSite) (operands : List Value) :
    append.callRow site operands = pure (joined operands, true) := by
  rw [callRow, checkArity_of_accepts (accepts_append _), Generator.check_ok, pure_bind]
  rfl

/-- Texts are joined row by row, in either form of the call. -/
theorem get?_of_apply_append {site : CallSite} {columns : List Batch} {count : Nat}
    {s : RandomSource} {p : Pool} {batch : Batch}
    (sizes : ∀ column ∈ columns, column.size = count)
    (result : ((append.apply site columns count).outcome s p).result = .ok batch) {i : Nat}
    (lt : i < count) : batch.get? i = some (joined (Batch.row columns i)) := by
  by_cases all : Batch.allConstant columns = true
  · rw [apply, if_pos all] at result
    cases result
    rw [Batch.get?, if_pos lt, Batch.row_eq_representatives all sizes lt]
  · have joined_rows : append.callRows site columns count =
        pure (.varying ((List.range count).map fun i => joined (Batch.row columns i)).toArray) := by
      simp only [callRows, callRow_append, pure_bind, List.mapM_pure]
    rw [apply, if_neg all, joined_rows] at result
    cases result
    simp [Batch.get?, lt]

end Builtin

namespace Generator

variable {α β : Type}

theorem outcome_bind_congr {m : Generator α} {f f' : α → Generator β} {s : RandomSource} {p : Pool}
    (h : ∀ a, (m.outcome s p).result = .ok a → f a = f' a) :
    (m >>= f).outcome s p = (m >>= f').outcome s p := by
  rw [outcome_bind, outcome_bind]
  cases left : m.outcome s p with
  | mk result source pool =>
    rw [left] at h
    cases result with
    | ok a => exact congrArg (fun m => m.outcome source pool) (h a rfl)
    | error fault => rfl

end Generator

namespace Expr

open Generator

/-! ### Methods and functions -/

theorem receiverRole_of_serves {b : Builtin} {object : Batch} (serves : object.Serves b) :
    ∃ category, receiverRole object = (category, [object]) ∧ category.supports b.owner = true := by
  unfold Batch.Serves at serves
  cases owned : b.owner with
  | textual =>
    rw [owned] at serves
    obtain ⟨category, role⟩ :=
      receiverRole_of_no_object fun category first => serves ⟨category, first⟩
    exact ⟨category, role, category.supports_textual⟩
  | numeric =>
    rw [owned] at serves
    obtain ⟨n, first⟩ | ⟨empty, varying⟩ := serves
    · exact ⟨.numeric, by rw [receiverRole, first]; rfl, rfl⟩
    · cases object with
      | constant value n => cases varying
      | varying values =>
        have no_first : values[0]? = none :=
          Array.getElem?_eq_none (Nat.le_of_eq (beq_iff_eq.1 empty))
        exact ⟨.numeric, by rw [receiverRole, Batch.representative?, no_first], rfl⟩

variable {g : Grammar} {count : Nat} {active : List String} {b : Builtin}

/-- A function whose first argument is evaluated apart. -/
theorem evaluate_call_cons {receiver : Expr} {arguments : List Expr}
    (accepted : b.arity.accepts (arguments.length + 1) = true) (line : Nat) :
    evaluate g count active (.call b.name (receiver :: arguments) line) =
      evaluate g count active receiver >>= fun object =>
        evaluateAll g count active arguments >>= fun columns =>
          b.apply ⟨active.head?, line⟩ (object :: columns) count := by
  have accepted_all :
      b.arity.accepts (([] : List Batch).length + (receiver :: arguments).length) = true := by
    rw [List.length_nil, Nat.zero_add]
    exact accepted
  rw [evaluate_call_eq, Builtin.resolveName_of_named? b.named?_name,
    called_of_accepts g count active accepted_all, evaluateAll]
  simp only [bind_assoc, pure_bind, List.nil_append]

/-- On a category object, a method is the function of its arguments. -/
theorem evaluate_category_method {category : Category}
    (supported : category.supports b.owner = true) (at_line : Nat) (arguments : List Expr)
    (line : Nat) :
    evaluate g count active
        (.method (.reference category.objectName at_line) b.methodName arguments line) =
      evaluate g count active (.call b.name arguments line) := by
  have role : receiverRole (.constant (.category category) count) = (category, []) := rfl
  rw [evaluate_method_eq, evaluate_category g count active (Category.ofName?_objectName category),
    pure_bind, role, Builtin.resolveMethod_of_method? (Builtin.method?_methodName supported),
    evaluate_call_eq, Builtin.resolveName_of_named? b.named?_name]

/-- A method of a receiver that has it and is an operand, in place of the function of the receiver
and the other operands or the method of a category object: the same batch or fault, with the same
randomness and draws. -/
theorem evaluate_method_eq_call {receiver : Expr} {arguments : List Expr} {s : RandomSource}
    {p : Pool} (accepted : b.arity.accepts (arguments.length + 1) = true)
    (serves : ∀ object,
      ((evaluate g count active receiver).outcome s p).result = .ok object → object.Serves b)
    (line : Nat) :
    let o := (evaluate g count active (.method receiver b.methodName arguments line)).outcome s p
    (evaluate g count active (.call b.name (receiver :: arguments) line)).outcome s p = o ∧
      ∀ category : Category, category.supports b.owner = true → ∀ at_line,
        (evaluate g count active (.method (.reference category.objectName at_line) b.methodName
          (receiver :: arguments) line)).outcome s p = o := by
  have same : (evaluate g count active (.call b.name (receiver :: arguments) line)).outcome s p =
      (evaluate g count active (.method receiver b.methodName arguments line)).outcome s p := by
    rw [evaluate_call_cons accepted, evaluate_method_eq]
    refine outcome_bind_congr fun object evaluated => ?_
    obtain ⟨category, role, supported⟩ := receiverRole_of_serves (serves object evaluated)
    have accepted_behind : b.arity.accepts ([object].length + arguments.length) = true := by
      rw [List.length_singleton, Nat.add_comm]
      exact accepted
    rw [role, Builtin.resolveMethod_of_method? (Builtin.method?_methodName supported),
      called_of_accepts g count active accepted_behind]
    rfl
  refine ⟨same, fun category supported at_line => ?_⟩
  rw [evaluate_category_method supported, same]

/-- The numbers that a die shows. -/
theorem evaluate_method_eq_call_of_die :
    let die := Expr.method (.reference "number" 1) "between"
      [.literal (.integer 1) 1, .literal (.integer 6) 1] 1
    let outcome (e : Expr) := (evaluate ∅ 3 ["roll"] e).outcome (.ofSeed 0) ∅
    (∀ object, (outcome die).result = .ok object → object.Serves .upto) ∧
      outcome (.method (.reference "number" 2) "upto" [die] 2) =
        outcome (.method die "upto" [] 2) := by
  intro die outcome
  have bounds : evaluateAll ∅ 3 ["roll"] [.literal (.integer 1) 1, .literal (.integer 6) 1] =
      pure (Batch.constants [.integer 1, .integer 6] 3) :=
    evaluateAll_eq_pure ∅ 3 ["roll"] (.cons (evaluate_literal ∅ 3 ["roll"] _ 1)
      (.cons (evaluate_literal ∅ 3 ["roll"] _ 1) .nil))
  have rolled : (outcome die).result = .ok (.varying #[.integer 5, .integer 5, .integer 1]) := by
    show ((evaluate ∅ 3 ["roll"] die).outcome _ _).result = _
    rw [evaluate_method ∅ 3 ["roll"] (b := .between) (evaluate_category ∅ 3 ["roll"] rfl 1) rfl rfl
      bounds rfl, List.nil_append, Builtin.apply_constants]
    decide +kernel
  have serves : ∀ object, (outcome die).result = .ok object → object.Serves .upto := by
    intro object evaluated
    rw [rolled] at evaluated
    cases evaluated
    exact .inl ⟨5, rfl⟩
  have accepted : Builtin.upto.arity.accepts (([] : List Expr).length + 1) = true := rfl
  obtain ⟨-, same⟩ := evaluate_method_eq_call accepted serves 2
  exact ⟨serves, same .numeric rfl 2⟩

/-! ### Appending to a receiver -/

/-- The operand that a receiver is, or is not. -/
theorem receiverRole_cases (object : Batch) :
    (object.StandsForObject ∧ ∃ category, receiverRole object = (category, [])) ∨
      ¬ object.StandsForObject ∧ ∃ category, receiverRole object = (category, [object]) := by
  by_cases stands : object.StandsForObject
  · refine .inl ⟨stands, ?_⟩
    obtain ⟨category, first⟩ := stands
    exact ⟨category, by rw [receiverRole, first]⟩
  · exact .inr ⟨stands, receiverRole_of_no_object fun category first => stands ⟨category, first⟩⟩

/-- A method of texts is applied to the columns of its operands, which are evaluated after the
receiver. -/
theorem applied_of_method {receiver : Expr} {arguments : List Expr} {line : Nat} {s : RandomSource}
    {p : Pool} {batch : Batch} (owned : b.owner = .textual)
    (result : ((evaluate g count active (.method receiver b.methodName arguments line)).outcome
      s p).result = .ok batch) :
    ∃ object columns,
      ((evaluate g count active receiver).outcome s p).result = .ok object ∧
        ((evaluateAll g count active arguments).outcome
          ((evaluate g count active receiver).outcome s p).source
          ((evaluate g count active receiver).outcome s p).pool).result = .ok columns ∧
        ∃ s' p', ((b.apply ⟨active.head?, line⟩ ((receiverRole object).2 ++ columns) count).outcome
          s' p').result = .ok batch := by
  rw [evaluate_method_eq] at result
  obtain ⟨object, evaluated, result⟩ := result_bind_eq_ok_iff.1 result
  have supported : (receiverRole object).1.supports b.owner = true := by
    rw [owned]
    exact Category.supports_textual _
  rw [Builtin.resolveMethod_of_method? (Builtin.method?_methodName supported), called, check_ok,
    pure_bind] at result
  obtain ⟨_, accepted, result⟩ := result_bind_eq_ok_iff.1 result
  obtain ⟨columns, operands, result⟩ := result_bind_eq_ok_iff.1 result
  exact ⟨object, columns, evaluated, operands, _, _, result⟩

/-- A row of a text that is appended to a receiver. The receiver and, after it, the other operands
have a value each for the row. The row has the texts of all of these, the receiver's first, exactly
if the receiver was not taken for a category object or has no text in this row; otherwise it has the
texts of the others alone. -/
theorem rows_of_append {receiver : Expr} {arguments : List Expr} {line : Nat} {s : RandomSource}
    {p : Pool} {batch : Batch}
    (result : ((evaluate g count active (.method receiver "append" arguments line)).outcome
      s p).result = .ok batch) :
    ∃ object columns,
      ((evaluate g count active receiver).outcome s p).result = .ok object ∧
        ((evaluateAll g count active arguments).outcome
          ((evaluate g count active receiver).outcome s p).source
          ((evaluate g count active receiver).outcome s p).pool).result = .ok columns ∧
        ∀ i < count, ∃ head operands, object.get? i = some head ∧
          List.Forall₂ (fun column v => column.get? i = some v) columns operands ∧
          (batch.get? i = some (Builtin.joined (head :: operands)) ↔
            ¬ object.StandsForObject ∨ head.toText = "") ∧
          (object.StandsForObject → batch.get? i = some (Builtin.joined operands)) := by
  obtain ⟨object, columns, evaluated, operands, s', p', applied⟩ :=
    applied_of_method (b := .append) rfl result
  have size := returns_size_evaluate receiver s p object evaluated
  have sizes := returns_sizes_evaluateAll arguments _ _ columns operands
  refine ⟨object, columns, evaluated, operands, fun i lt => ?_⟩
  obtain ⟨head, found⟩ : ∃ head, object.get? i = some head :=
    Option.isSome_iff_exists.1 (Batch.get?_eq_some_iff_lt.2 (size ▸ lt))
  refine ⟨head, Batch.row columns i, found, Batch.forall₂_row_get? sizes lt, ?_⟩
  obtain ⟨stands, category, role⟩ | ⟨no_object, category, role⟩ := receiverRole_cases object
  · rw [role] at applied
    rw [Builtin.get?_of_apply_append sizes applied lt, Option.some_inj,
      Builtin.joined_eq_joined_cons_iff]
    exact ⟨⟨.inr, fun h => h.resolve_left (not_not_intro stands)⟩, fun _ => rfl⟩
  · rw [role] at applied
    rw [Builtin.get?_of_apply_append (List.forall_mem_cons.2 ⟨size, sizes⟩) applied lt,
      Batch.row_cons found]
    exact ⟨iff_of_true rfl (.inl no_object), fun stands => absurd stands no_object⟩

/-- A random receiver, taken from two operands that are known. -/
theorem evaluate_choice {first second : Expr} {value other : Value} {count : Nat}
    (first_eq : evaluate ∅ count [] first = pure (.constant value count))
    (second_eq : evaluate ∅ count [] second = pure (.constant other count)) (line : Nat) :
    evaluate ∅ count [] (.call "one_of" [first, second] line) =
      Builtin.oneOf.callBatch ⟨none, line⟩ [value, other] count := by
  have operands := evaluateAll_eq_pure ∅ count [] (.cons first_eq (.cons second_eq .nil))
  rw [evaluate_call ∅ count [] (b := .oneOf) rfl operands rfl, Builtin.apply_constants]
  rfl

/-- What is appended to a receiver that is known. -/
theorem evaluate_append_text {receiver : Expr} {s : RandomSource} {p : Pool} {object batch : Batch}
    {count : Nat} (evaluated : ((evaluate ∅ count [] receiver).outcome s p).result = .ok object)
    {category : Category} {first : List Batch} (role : receiverRole object = (category, first))
    (t : String) (line : Nat) (applied : ∀ s' p',
      ((Builtin.append.apply ⟨none, line⟩ (first ++ [.constant (.text t) count]) count).outcome
        s' p').result = .ok batch) :
    ((evaluate ∅ count [] (.method receiver "append" [.literal (.text t) line] line)).outcome
      s p).result = .ok batch := by
  rw [evaluate_method_eq]
  refine result_bind_eq_ok_iff.2 ⟨object, evaluated, ?_⟩
  have found : Builtin.method? category "append" = some .append :=
    Builtin.method?_methodName (b := .append) category.supports_textual
  have operands :=
    evaluateAll_eq_pure ∅ count [] (.cons (evaluate_literal ∅ count [] (.text t) line) .nil)
  rw [role, Builtin.resolveMethod_of_method? found,
    called_eq_apply ∅ count [] operands (Builtin.accepts_append _)]
  exact applied _ _

/-- A receiver that is a category object in the third row alone. -/
theorem rows_of_append_of_mixed :
    let receiver := Expr.call "one_of" [.reference "value" 1, .literal (.text "a") 1] 1
    let e := Expr.method receiver "append" [.literal (.text "!") 1] 1
    let outcome (e : Expr) := (evaluate ∅ 3 [] e).outcome (.ofSeed 0) ∅
    let object := Batch.varying #[.text "a", .text "a", .category .textual]
    (outcome receiver).result = .ok object ∧
      ∃ batch, (outcome e).result = .ok batch ∧ ∀ i < 3, ∃ head operands,
        object.get? i = some head ∧ batch.get? i = some (Builtin.joined (head :: operands)) := by
  intro receiver e outcome object
  have chosen : (outcome receiver).result = .ok object := by
    show ((evaluate ∅ 3 [] receiver).outcome _ _).result = _
    rw [evaluate_choice (evaluate_category ∅ 3 [] rfl 1) (evaluate_literal ∅ 3 [] _ 1)]
    decide +kernel
  have role : receiverRole object = (.textual, [object]) := rfl
  have appended := evaluate_append_text chosen role "!" 1 fun _ _ => rfl
  refine ⟨chosen, _, appended, fun i lt => ?_⟩
  obtain ⟨object', columns, evaluated, -, rows⟩ := rows_of_append appended
  obtain ⟨head, operands, found, -, iff, -⟩ := rows i lt
  cases chosen.symm.trans evaluated
  refine ⟨head, operands, found, iff.2 (.inl ?_)⟩
  rintro ⟨category, first⟩
  cases first

/-- The receiver is a category object in the first row and a text in the third one, which is not in
front of what is appended to it. -/
theorem append_loses_text :
    let receiver := Expr.call "one_of" [.literal (.text "a") 1, .reference "value" 1] 1
    let e := Expr.method receiver "append" [.literal (.text "!") 1] 1
    let outcome (e : Expr) := (evaluate ∅ 3 [] e).outcome (.ofSeed 0) ∅
    (outcome receiver).result =
        .ok (.varying #[.category .textual, .category .textual, .text "a"]) ∧
      (outcome e).result = .ok (.constant (.text "!") 3) ∧
      (Batch.constant (.text "!") 3).get? 2 ≠ some (Builtin.joined [.text "a", .text "!"]) := by
  intro receiver e outcome
  have chosen : (outcome receiver).result =
      .ok (.varying #[.category .textual, .category .textual, .text "a"]) := by
    show ((evaluate ∅ 3 [] receiver).outcome _ _).result = _
    rw [evaluate_choice (evaluate_literal ∅ 3 [] _ 1) (evaluate_category ∅ 3 [] rfl 1)]
    decide +kernel
  have role : receiverRole (.varying #[.category .textual, .category .textual, .text "a"]) =
      (.textual, []) := rfl
  exact ⟨chosen, evaluate_append_text chosen role "!" 1 fun _ _ => rfl, by decide⟩

end Expr

end Phrasemill
