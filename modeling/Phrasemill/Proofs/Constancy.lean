import Mathlib
import Phrasemill.Proofs.Language
import Phrasemill.Proofs.Pool.Granting

/-!
# Constant batches

A batch is constant if its one value was found without randomness, and only then may a builtin be
applied to it for all repetitions at once. A list or a call is constant if all its parts are, so
whatever has been taken from the random source or the pool shows in a part that varies. There is one
gap: a receiver that comes to a category object is no operand of its method, and what was taken to
come to it does not show any more (`taken_of_constant_object`). Where no method is called on an
object that was come to by chance, a constant batch has taken nothing (`nothing_taken_of_constant`);
expressions that are clean are of that kind (`Clean.fixedObject`).
-/

namespace Phrasemill

variable {α β : Type}

namespace Generator

/-- A result of a kind means that the random source and the pool are still as they were. -/
def KeepsFor (kind : α → Prop) (s : RandomSource) (p : Pool) (m : Generator α) : Prop :=
  ∀ a, (m.outcome s p).result = .ok a → kind a → m.outcome s p = ⟨.ok a, s, p⟩

/-- The generator gives varying batches only. -/
def Varies (m : Generator Batch) : Prop :=
  ∀ s p batch, (m.outcome s p).result = .ok batch → batch.isConstant = false

variable {s : RandomSource} {p : Pool}

/-- If the last result could not be of its kind without the first being of its own, nothing is taken
before the last nor for it. -/
theorem KeepsFor.bind {kind : α → Prop} {last : β → Prop} {m : Generator α}
    (h : m.KeepsFor kind s p) {f : α → Generator β}
    (back : ∀ a, (m.outcome s p).result = .ok a →
      ∀ s' p' b, ((f a).outcome s' p').result = .ok b → last b → kind a)
    (next : ∀ a, (f a).KeepsFor last s p) : (m >>= f).KeepsFor last s p := by
  intro b result is_last
  obtain ⟨a, first, second⟩ := result_bind_eq_ok_iff.1 result
  have kept := h a first (back a first _ _ b second is_last)
  rw [kept] at second
  rw [outcome_bind, kept]
  exact next a b second is_last

theorem keepsFor_check (kind : α → Prop) (e : Except Fault α) : (check e).KeepsFor kind s p := by
  intro a result _
  rw [outcome_check] at result ⊢
  rw [← result]

theorem keepsFor_pure (kind : α → Prop) (a : α) : (pure a : Generator α).KeepsFor kind s p :=
  keepsFor_check kind (.ok a)

theorem Varies.keepsFor {m : Generator Batch} (h : m.Varies) :
    m.KeepsFor (fun batch => batch.isConstant = true) s p := by
  intro batch result constant
  rw [h s p batch result] at constant
  cases constant

theorem varies_pure (values : Array Value) : (pure (.varying values) : Generator Batch).Varies := by
  rintro s p batch ⟨⟩
  rfl

theorem varies_bind (m : Generator α) {f : α → Generator Batch} (h : ∀ a, (f a).Varies) :
    (m >>= f).Varies := by
  intro s p batch result
  obtain ⟨a, -, second⟩ := result_bind_eq_ok_iff.1 result
  exact h a _ _ batch second

end Generator

namespace Builtin

open Generator

variable (b : Builtin) (site : CallSite) (operands : List Value) (columns : List Batch) (count : Nat)
  {s : RandomSource} {p : Pool}

theorem varies_sampled (draw : RandomSource → Value × RandomSource) : (sampled draw count).Varies :=
  varies_bind _ varies_pure

theorem varies_callRows : (b.callRows site columns count).Varies :=
  varies_bind _ fun values => varies_pure values.toArray

/-- Only functions of texts give constant batches, and they take nothing. -/
theorem keepsFor_batchValue :
    (b.batchValue site operands count).KeepsFor (fun batch => batch.isConstant = true) s p := by
  cases b with
  | append => exact keepsFor_pure _ _
  | lower =>
    exact (keepsFor_check (fun _ => True) _).bind (fun _ _ _ _ _ _ _ => trivial)
      fun _ => keepsFor_pure _ _
  | oneOf => exact (varies_bind _ fun _ => varies_sampled count _).keepsFor
  | oneOfUnique =>
    refine Varies.keepsFor ?_
    rw [batchValue]
    split
    · exact varies_bind _ fun _ => varies_pure _
    · exact varies_bind _ varies_pure
  | between => exact (varies_bind _ fun _ => varies_sampled count _).keepsFor
  | upto => exact (varies_bind _ fun _ => varies_sampled count _).keepsFor

theorem keepsFor_apply :
    (b.apply site columns count).KeepsFor (fun batch => batch.isConstant = true) s p := by
  unfold apply
  split
  · exact (keepsFor_check (fun _ => True) _).bind (fun _ _ _ _ _ _ _ => trivial)
      fun _ => b.keepsFor_batchValue site _ count
  · exact (b.varies_callRows site columns count).keepsFor

/-- A call is constant only if its operands are. -/
theorem allConstant_of_apply {batch : Batch}
    (result : ((b.apply site columns count).outcome s p).result = .ok batch)
    (constant : batch.isConstant = true) : Batch.allConstant columns = true := by
  by_contra varying
  rw [apply, if_neg varying] at result
  rw [b.varies_callRows site columns count s p batch result] at constant
  cases constant

end Builtin

namespace Expr

open Generator

variable {g : Grammar} {count : Nat} {s : RandomSource} {p : Pool} {active : List String}

theorem keepsFor_evaluateAll {es : List Expr}
    (h : ∀ e ∈ es,
      (evaluate g count active e).KeepsFor (fun batch => batch.isConstant = true) s p) :
    (evaluateAll g count active es).KeepsFor (fun columns => Batch.allConstant columns = true)
      s p := by
  induction es with
  | nil =>
    rw [evaluateAll]
    exact keepsFor_pure _ _
  | cons e es ih =>
    obtain ⟨here, others⟩ := List.forall_mem_cons.1 h
    rw [evaluateAll]
    refine here.bind (fun column _ s' p' columns result constant => ?_) fun column => ?_
    · obtain ⟨rest, -, built⟩ := result_bind_eq_ok_iff.1 result
      cases built
      rw [Batch.allConstant, List.all_cons, Bool.and_eq_true] at constant
      exact constant.1
    · refine (ih others).bind (fun rest _ s' p' columns built constant => ?_) fun rest => ?_
      · cases built
        rw [Batch.allConstant, List.all_cons, Bool.and_eq_true] at constant
        exact constant.2
      · exact keepsFor_pure _ _

section Called

variable {resolved : Except Fault Builtin} {first : List Batch} {arguments : List Expr} {line : Nat}

/-- The operands of a constant call are constant, those that stand before the arguments and are
evaluated already as well as the arguments. -/
theorem allConstant_of_called {batch : Batch}
    (result : ((called g count active resolved first arguments line).outcome s p).result = .ok batch)
    (constant : batch.isConstant = true) : Batch.allConstant first = true := by
  obtain ⟨b, -, result⟩ := result_bind_eq_ok_iff.1 result
  obtain ⟨_, -, result⟩ := result_bind_eq_ok_iff.1 result
  obtain ⟨columns, -, result⟩ := result_bind_eq_ok_iff.1 result
  have all := b.allConstant_of_apply _ _ count result constant
  rw [Batch.allConstant, List.all_append, Bool.and_eq_true] at all
  exact all.1

theorem keepsFor_called
    (operands : (evaluateAll g count active arguments).KeepsFor
      (fun columns => Batch.allConstant columns = true) s p) :
    (called g count active resolved first arguments line).KeepsFor
      (fun batch => batch.isConstant = true) s p := by
  refine (keepsFor_check (fun _ => True) _).bind (fun _ _ _ _ _ _ _ => trivial) fun b => ?_
  refine (keepsFor_check (fun _ => True) _).bind (fun _ _ _ _ _ _ _ => trivial) fun _ => ?_
  refine operands.bind (fun columns _ s' p' batch result constant => ?_)
    fun columns => b.keepsFor_apply _ _ count
  have all := b.allConstant_of_apply _ _ count result constant
  rw [Batch.allConstant, List.all_append, Bool.and_eq_true] at all
  exact all.2

end Called

/-- Evaluated from `s` and `p`, the receiver of a method does not come to a category object by
chance. -/
def FixedObject (g : Grammar) (count : Nat) (s : RandomSource) (p : Pool) : Expr → Prop
  | method receiver _ _ _ => ∀ active values category,
      ((evaluate g count active receiver).outcome s p).result = .ok (.varying values) →
        values[0]? ≠ some (.category category)
  | _ => True

theorem keepsFor_evaluate {e : Expr} (fixed : Everywhere g (FixedObject g count s p) e) :
    (evaluate g count active e).KeepsFor (fun batch => batch.isConstant = true) s p := by
  induction active, e using evaluate_induction g with
  | literal active constant line =>
    rw [evaluate]
    exact keepsFor_pure _ _
  | reference active name line ih =>
    cases named : Category.ofName? name with
    | some category =>
      rw [evaluate_category g count active named]
      exact keepsFor_pure _ _
    | none =>
      obtain ⟨-, fails⟩ | ⟨-, fails⟩ | ⟨body, found, fresh, enters⟩ :=
        evaluate_reference_cases g active named line
      · rw [fails]
        exact keepsFor_check _ (.error _)
      · rw [fails]
        exact keepsFor_check _ (.error _)
      · rw [enters]
        exact ih body named found fresh (fixed.part (.defined named found line))
  | list active elements line ih =>
    rw [evaluate]
    refine (keepsFor_evaluateAll fun e mem => ih e mem (fixed.part (.element mem line))).bind
      (fun columns _ s' p' batch built constant => ?_) fun columns => keepsFor_pure _ _
    cases built
    by_contra varying
    rw [Batch.lists, if_neg varying] at constant
    cases constant
  | call active name arguments line ih =>
    rw [evaluate_call_eq]
    exact keepsFor_called
      (keepsFor_evaluateAll fun e mem => ih e mem (fixed.part (.argument mem name line)))
  | method active receiver name arguments line ih_receiver ih =>
    have operands := keepsFor_evaluateAll fun e mem =>
      ih e mem (fixed.part (.operand mem receiver name line))
    rw [evaluate_method_eq]
    refine (ih_receiver (fixed.part (.receiver receiver name arguments line))).bind
      (fun object came_to s' p' batch result constant => ?_) fun object => keepsFor_called operands
    cases object with
    | constant value n => rfl
    | varying values =>
      -- The receiver is an operand, and it varies.
      obtain ⟨category, role⟩ :
          ∃ category, receiverRole (.varying values) = (category, [.varying values]) :=
        receiverRole_of_no_object fun category => fixed.self active values category came_to
      rw [role] at result
      cases allConstant_of_called result constant
  | rule active name body line ih =>
    rw [evaluate_rule]
    exact ih (fixed.part (.captured name body line))

/-! ### Clean expressions -/

/-- What is reached from a clean expression is clean, or the name of a category object. -/
theorem Clean.reached {e part : Expr} (clean : Clean g e)
    (reached : Relation.ReflTransGen (Part g) e part) : Clean g part ∨ part.NamesCategory := by
  induction reached with
  | refl => exact .inl clean
  | tail _ step ih =>
    rcases ih with clean | names
    · cases step with
      | element mem line => exact .inl (clean.element _ mem)
      | argument mem name line => exact .inl (clean.argument _ mem)
      | receiver receiver name arguments line =>
        obtain ⟨object, category, at_line, rfl, named⟩ | clean := clean.receiver
        · exact .inr (Option.isSome_iff_exists.2 ⟨category, named⟩)
        · exact .inl clean
      | operand mem receiver name line => exact .inl (clean.operand _ mem)
      | captured name body line => exact .inl clean.captured
      | defined unnamed found line => exact .inl (clean.defined unnamed found)
    · cases step with
      | defined unnamed found line =>
        rw [NamesCategory, unnamed] at names
        cases names
      | _ => exact names.elim

/-- In a clean expression category objects are named and not come to by chance. -/
theorem Clean.fixedObject {e : Expr} (clean : Clean g e) (faithful : p.Faithful) :
    Everywhere g (FixedObject g count s p) e := by
  intro part reached
  cases part with
  | method receiver name arguments line =>
    intro active values category came_to first
    have clean_call := (clean.reached reached).resolve_right id
    obtain ⟨object, named_category, at_line, rfl, named⟩ | clean_receiver := clean_call.receiver
    · rw [evaluate_category g count active named] at came_to
      cases came_to
    · have consists := (yields_evaluate clean_receiver).result faithful came_to
      cases (consists.holds _ (Array.mem_of_getElem? first)).2
  | _ => trivial

/-- Where no method is called on a category object that was come to by chance, a constant batch has
taken neither randomness nor candidates. -/
theorem nothing_taken_of_constant {e : Expr} (fixed : Everywhere g (FixedObject g count s p) e)
    {value : Value} {n : Nat}
    (constant : ((evaluate g count active e).outcome s p).result = .ok (.constant value n)) :
    ((evaluate g count active e).outcome s p).source = s ∧
      ((evaluate g count active e).outcome s p).pool = p := by
  rw [keepsFor_evaluate fixed _ constant rfl]
  exact ⟨rfl, rfl⟩

/-- A method of a text that is looked up. -/
theorem nothing_taken_of_constant_of_text :
    let g := (∅ : Grammar).define "name" (.literal (.text "Ann") 1)
    let e := Expr.method (.reference "name" 2) "append" [.literal (.text "!") 2] 2
    let o := (evaluate g 3 [] e).outcome (.ofSeed 0) ∅
    Everywhere g (FixedObject g 3 (.ofSeed 0) ∅) e ∧
      o.result = .ok (.constant (.text "Ann!") 3) ∧ o.source = .ofSeed 0 ∧ o.pool = ∅ := by
  intro g e o
  have found : g.find? "name" = some (.literal (.text "Ann") 1) := rfl
  have clean : Clean g e := by
    refine ⟨id, everywhere_method ?_ ?_ (everywhere_literals (fun _ => trivial) [.text "!"])⟩
    · exact List.forall_mem_singleton.2 id
    · refine everywhere_reference (fun body _ is_body => ?_) found (everywhere_literal trivial)
      cases found.symm.trans is_body
      exact id
  have fixed : Everywhere g (FixedObject g 3 (.ofSeed 0) ∅) e :=
    clean.fixedObject Pool.faithful_empty
  have constant : o.result = .ok (.constant (.text "Ann!") 3) := by
    have receiver : evaluate g 3 [] (.reference "name" 2) = pure (.constant (.text "Ann") 3) := by
      rw [evaluate_reference g 3 [] rfl, found]
      exact evaluate_literal g 3 ["name"] (.text "Ann") 1
    have operands : evaluateAll g 3 [] [.literal (.text "!") 2] =
        pure (Batch.constants [.text "!"] 3) :=
      evaluateAll_eq_pure g 3 [] (.cons (evaluate_literal g 3 [] (.text "!") 2) .nil)
    show ((evaluate g 3 [] e).outcome _ _).result = _
    rw [evaluate_method g 3 [] receiver rfl rfl operands rfl]
    rfl
  exact ⟨fixed, constant, nothing_taken_of_constant fixed constant⟩

/-- The candidate that is drawn is a category object, and the method that is called on it has no
operand: its batch is constant, but the candidate is gone. -/
theorem taken_of_constant_object :
    let e := Expr.method (.call "one_of_unique" [.reference "value" 1] 1) "append" [] 1
    let key : Pool.Key := ⟨none, [.category .textual]⟩
    let o := (evaluate ∅ 1 [] e).outcome (.ofSeed 0) ∅
    o.result = .ok (.constant (.text "") 1) ∧
      ((∅ : Pool).left key).size = 1 ∧ (o.pool.left key).size = 0 := by
  generalize RandomSource.ofSeed 0 = source
  intro e key o
  let draw := Builtin.oneOfUnique.batchValue ⟨none, 1⟩ [.category .textual] 1
  have draws : evaluate ∅ 1 [] (.call "one_of_unique" [.reference "value" 1] 1) = draw :=
    evaluate_unique ∅ 1 []
      (evaluateAll_eq_pure ∅ 1 [] (.cons (evaluate_category ∅ 1 [] rfl 1) .nil)) Nat.one_pos
      Nat.one_pos 1
  have one : ((∅ : Pool).left (Builtin.poolKey ⟨none, 1⟩ [.category .textual])).size = 1 := rfl
  obtain ⟨values, s, after, drawn, taken⟩ := Builtin.outcome_unique_of_enough source one.ge
  have object : values[0]? = some (.category .textual) := by
    obtain ⟨size, holds⟩ := (Builtin.yields_batchValue .oneOfUnique ⟨none, 1⟩ [.category .textual]
      1).result Pool.faithful_empty (congrArg Outcome.result drawn)
    obtain ⟨value, rfl⟩ := Array.size_eq_one_iff.1 size
    cases holds value (Array.mem_singleton.2 rfl) with
    | oneOfUnique mem => exact congrArg some (List.mem_singleton.1 mem)
  have outcome : o = ⟨.ok (.constant (.text "") 1), s, after⟩ := by
    have role : receiverRole (.varying values) = (.textual, []) := by
      rw [receiverRole, Batch.representative?, object]
    show (evaluate ∅ 1 [] e).outcome _ _ = _
    rw [evaluate, Generator.outcome_bind, draws]
    dsimp only [draw]
    rw [drawn]
    dsimp only
    rw [role, evaluateAll]
    rfl
  rw [outcome]
  exact ⟨rfl, one, Nat.succ.inj (taken.trans one)⟩

end Expr

end Phrasemill
