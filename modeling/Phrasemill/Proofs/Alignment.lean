import Mathlib
import Phrasemill.Proofs.Partition.Chunks
import Phrasemill.Proofs.Pool.Granting

/-!
# Rows are complete

The rows of a list or of a call are put together from columns that were evaluated one by one, and
a column without a value for a row would be passed over in silence: all values behind it would move
up. `evaluateAligned` is evaluation that is given up instead, where a row does not have exactly one
value for each element or operand, in their order, or where a function would refuse the row for its
length. It is never given up, but does what evaluation does (`evaluate_aligned`), since each part of
an expression comes to as many values as there are repetitions, whatever is left in the pool.
-/

namespace Phrasemill

variable {α β γ : Type}

theorem mapM_eq_some_of_forall₂ {f : α → Option β} {as : List α} {bs : List β}
    (h : List.Forall₂ (fun a b => f a = some b) as bs) : as.mapM f = some bs := by
  induction h with
  | nil => rfl
  | cons here _ ih =>
    rw [List.mapM_cons, here, ih]
    rfl

/-! ### Full rows -/

namespace Batch

/-- One value of each column, if there are `n` columns and none is without a value. -/
def fullRow? (n : Nat) (value? : Batch → Option Value) (columns : List Batch) :
    Option (List Value) := do
  let values ← columns.mapM value?
  if values.length = n then return values else none

/-- One list of `n` items per repetition, if all rows are full. -/
def fullLists? (n : Nat) (columns : List Batch) (count : Nat) : Option Batch :=
  if allConstant columns then do
    let items ← fullRow? n representative? columns
    return constant (.list items) count
  else do
    let rows ← (List.range count).mapM fun i => fullRow? n (·.get? i) columns
    return varying (rows.map Value.list).toArray

variable {columns : List Batch} {count : Nat}

theorem size_lists (columns : List Batch) (count : Nat) : (lists columns count).size = count := by
  unfold lists
  split
  · rfl
  · rw [size, Array.size_map, Array.size_range]

theorem forall₂_filterMap {value? : Batch → Option Value}
    (h : ∀ column ∈ columns, (value? column).isSome) :
    List.Forall₂ (fun column v => value? column = some v) columns (columns.filterMap value?) := by
  induction columns with
  | nil => exact .nil
  | cons column columns ih =>
    obtain ⟨here, others⟩ := List.forall_mem_cons.1 h
    obtain ⟨v, v_eq⟩ := Option.isSome_iff_exists.1 here
    rw [List.filterMap_cons, v_eq]
    exact .cons v_eq (ih others)

/-- A row of columns that have as many values as there are repetitions. -/
theorem forall₂_row_get? (sizes : ∀ column ∈ columns, column.size = count) {i : Nat}
    (lt : i < count) :
    List.Forall₂ (fun column v => column.get? i = some v) columns (row columns i) :=
  forall₂_filterMap fun column mem => get?_eq_some_iff_lt.2 (sizes column mem ▸ lt)

theorem forall₂_representative? (all : allConstant columns = true) :
    List.Forall₂ (fun column v => column.representative? = some v) columns
      (representatives columns) := by
  refine forall₂_filterMap fun column mem => ?_
  have is_constant := List.all_eq_true.1 all column mem
  cases column with
  | constant value n => rfl
  | varying values => cases is_constant

theorem fullRow?_of_forall₂ {value? : Batch → Option Value} {values : List Value}
    (h : List.Forall₂ (fun column v => value? column = some v) columns values) :
    fullRow? columns.length value? columns = some values := by
  rw [fullRow?, mapM_eq_some_of_forall₂ h, Option.bind_eq_bind, Option.bind_some]
  exact if_pos h.length_eq.symm

/-- Lists are made of full rows alone. -/
theorem fullLists?_eq (sizes : ∀ column ∈ columns, column.size = count) :
    fullLists? columns.length columns count = some (lists columns count) := by
  unfold fullLists? lists
  by_cases all : allConstant columns = true
  · rw [if_pos all, if_pos all, fullRow?_of_forall₂ (forall₂_representative? all)]
    rfl
  · have rows : (List.range count).mapM (fun i => fullRow? columns.length (·.get? i) columns) =
        some ((List.range count).map (row columns)) := by
      refine mapM_eq_some_of_forall₂ ?_
      rw [List.forall₂_map_right_iff, List.forall₂_same]
      exact fun i mem => fullRow?_of_forall₂ (forall₂_row_get? sizes (List.mem_range.1 mem))
    rw [if_neg all, if_neg all, rows, Option.bind_eq_bind, Option.bind_some]
    refine congrArg (fun values => some (varying values)) (Array.toList_inj.1 ?_)
    simp

end Batch

/-! ### Generators that may be given up -/

/-- What is made of a result, if there is one. -/
def Outcome.map (f : α → β) (o : Outcome α) : Outcome β := ⟨o.result.map f, o.source, o.pool⟩

namespace Generator

/-- Whatever the randomness and the pool are, results are of a kind. -/
def Returns (P : α → Prop) (m : Generator α) : Prop :=
  ∀ s p a, (m.outcome s p).result = .ok a → P a

theorem Returns.bind {P : α → Prop} {Q : β → Prop} {m : Generator α} (h : m.Returns P)
    {f : α → Generator β} (next : ∀ a, P a → (f a).Returns Q) : (m >>= f).Returns Q := by
  intro s p b result
  obtain ⟨a, first, second⟩ := result_bind_eq_ok_iff.1 result
  exact next a (h s p a first) _ _ b second

theorem returns_true (m : Generator α) : m.Returns fun _ => True := fun _ _ _ _ => trivial

theorem returns_pure {P : α → Prop} {a : α} (h : P a) : (pure a : Generator α).Returns P := by
  rintro s p _ ⟨⟩
  exact h

theorem returns_throw {P : α → Prop} (fault : Fault) : (throw fault : Generator α).Returns P := by
  rintro s p _ ⟨⟩

/-- The computation that may be given up is not, but does what the other one does; and results are
of a kind. -/
def Matches (P : α → Prop) (m' : OptionT Generator α) (m : Generator α) : Prop :=
  (∀ s p, m'.run.outcome s p = (m.outcome s p).map some) ∧ m.Returns P

theorem Matches.bind {P : α → Prop} {Q : β → Prop} {m' : OptionT Generator α} {m : Generator α}
    (h : Matches P m' m) {f' : α → OptionT Generator β} {f : α → Generator β}
    (next : ∀ a, P a → Matches Q (f' a) (f a)) : Matches Q (m' >>= f') (m >>= f) := by
  refine ⟨fun s p => ?_, h.2.bind fun a kind => (next a kind).2⟩
  have kind := h.2 s p
  rw [OptionT.run_bind, Option.elimM, outcome_bind, outcome_bind, h.1 s p]
  cases left : m.outcome s p with
  | mk result source pool =>
    rw [left] at kind
    cases result with
    | ok a => exact (next a (kind a rfl)).1 source pool
    | error fault => rfl

theorem matches_lift {P : α → Prop} {m : Generator α} (h : m.Returns P) :
    Matches P (OptionT.lift m) m := by
  refine ⟨fun s p => ?_, h⟩
  rw [OptionT.run_lift, outcome_bind]
  cases m.outcome s p with
  | mk result source pool =>
    cases result with
    | ok a => rfl
    | error fault => rfl

theorem matches_pure {P : α → Prop} {a : α} (h : P a) :
    Matches P (pure a : OptionT Generator α) (pure a) := ⟨fun _ _ => rfl, returns_pure h⟩

theorem matches_mapM {P : β → Prop} {f' : γ → OptionT Generator β} {f : γ → Generator β}
    {cs : List γ} (h : ∀ c ∈ cs, Matches P (f' c) (f c)) :
    Matches (fun bs => bs.length = cs.length) (cs.mapM f') (cs.mapM f) := by
  induction cs with
  | nil => exact matches_pure rfl
  | cons c cs ih =>
    obtain ⟨here, others⟩ := List.forall_mem_cons.1 h
    rw [List.mapM_cons, List.mapM_cons]
    exact here.bind fun b _ => (ih others).bind fun bs length =>
      matches_pure (congrArg Nat.succ length)

end Generator

/-! ### Calls -/

namespace Builtin

open Generator

/-- Calls a builtin on a row of operands, if the row is full and is not refused for its length. -/
def callFull (b : Builtin) (operands? : Option (List Value)) (call : List Value → Generator α) :
    OptionT Generator α :=
  match operands? with
  | some operands =>
    if b.arity.accepts operands.length then OptionT.lift (call operands) else failure
  | none => failure

/-- Applies a builtin to `n` columns of operands, as long as all rows are full. -/
def applyFull (b : Builtin) (site : CallSite) (n : Nat) (columns : List Batch) (count : Nat) :
    OptionT Generator Batch :=
  if Batch.allConstant columns then
    b.callFull (Batch.fullRow? n Batch.representative? columns) (b.batchValue site · count)
  else do
    let values ← (List.range count).mapM fun i =>
      b.callFull (Batch.fullRow? n (·.get? i) columns) fun operands =>
        Prod.fst <$> b.rowValue site operands
    return .varying values.toArray

variable (b : Builtin) (site : CallSite)

theorem returns_checkArity (found line : Nat) :
    (Generator.check (b.checkArity found line)).Returns fun _ => b.arity.accepts found = true := by
  intro s p _ result
  by_contra refused
  rw [outcome_check, checkArity, if_neg refused] at result
  cases result

theorem returns_size_sampled (draw : RandomSource → Value × RandomSource) (count : Nat) :
    (sampled draw count).Returns fun batch => batch.size = count := by
  rintro s p _ ⟨⟩
  exact RandomSource.size_draws draw count s

/-- A call gives a value for every repetition, whatever is left in the pool. -/
theorem returns_size_batchValue (operands : List Value) (count : Nat) :
    (b.batchValue site operands count).Returns fun batch => batch.size = count := by
  cases b with
  | append => exact returns_pure rfl
  | lower => exact (returns_true _).bind fun _ _ => returns_pure rfl
  | oneOf => exact (returns_true _).bind fun _ _ => returns_size_sampled _ count
  | oneOfUnique =>
    intro s p batch result
    let request := batchRequest site operands count s
    have amount : request.demand.amount = count := amount_batchRequest site operands count s
    rw [outcome_unique] at result
    dsimp only at result
    rw [Pool.answer_fst] at result
    by_cases enough : request.demand.amount ≤ (p.left request.key).size
    · obtain ⟨values, left, granted, size⟩ := Pool.serve_granted enough
      rw [granted] at result
      cases result
      rw [Batch.size]
      split
      · next single => exact single.symm
      · exact size.trans amount
    · obtain ⟨fault, -, refused⟩ := Pool.serve_refused (Nat.lt_of_not_le enough)
      rw [refused] at result
      cases result
  | between => exact (returns_true _).bind fun _ _ => returns_size_sampled _ count
  | upto => exact (returns_true _).bind fun _ _ => returns_size_sampled _ count

variable {b site}

/-- A full row of as many operands as are accepted is handed on as it is. -/
theorem callFull_of_forall₂ {columns : List Batch} {value? : Batch → Option Value}
    {operands : List Value}
    (full : List.Forall₂ (fun column v => value? column = some v) columns operands)
    (accepted : b.arity.accepts columns.length = true) (call : List Value → Generator α) :
    b.callFull (Batch.fullRow? columns.length value? columns) call = OptionT.lift (call operands) ∧
      b.arity.accepts operands.length = true := by
  rw [full.length_eq] at accepted
  rw [Batch.fullRow?_of_forall₂ full]
  exact ⟨if_pos accepted, accepted⟩

/-- On columns of one size, as many as are accepted, all rows are full and none is refused. -/
theorem matches_applyFull {columns : List Batch} {count : Nat}
    (sizes : ∀ column ∈ columns, column.size = count)
    (accepted : b.arity.accepts columns.length = true) :
    Matches (fun batch => batch.size = count) (b.applyFull site columns.length columns count)
      (b.apply site columns count) := by
  unfold applyFull apply
  by_cases all : Batch.allConstant columns = true
  · obtain ⟨handed_on, accepted⟩ :=
      callFull_of_forall₂ (Batch.forall₂_representative? all) accepted (b.batchValue site · count)
    rw [if_pos all, if_pos all, handed_on, callBatch, checkArity_of_accepts accepted, check_ok,
      pure_bind]
    exact matches_lift (b.returns_size_batchValue site _ count)
  · rw [if_neg all, if_neg all, callRows]
    refine Matches.bind (matches_mapM (P := fun _ => True) fun i mem => ?_) fun values length => ?_
    · obtain ⟨handed_on, accepted⟩ :=
        callFull_of_forall₂ (Batch.forall₂_row_get? sizes (List.mem_range.1 mem)) accepted
          fun operands => Prod.fst <$> b.rowValue site operands
      rw [handed_on, callRow, checkArity_of_accepts accepted, check_ok, pure_bind]
      exact matches_lift (returns_true _)
    · refine matches_pure ?_
      rw [Batch.size, List.size_toArray, length, List.length_range]

end Builtin

/-! ### Expressions -/

namespace Expr

open Generator

mutual

/-- Evaluates an expression, but gives up where a row is not full or has not the length that a
function accepts. -/
def evaluateAligned (g : Grammar) (count : Nat) (active : List String) :
    Expr → OptionT Generator Batch
  | literal constant _ => return .constant constant.toValue count
  | reference name line =>
    match Category.ofName? name with
    | some category => return .constant (.category category) count
    | none =>
      match found : g.find? name with
      | none => OptionT.lift (throw (.ruleNotFound name line))
      | some body =>
        if fresh : name ∈ active then OptionT.lift (throw (.cyclicRule name line))
        else
          have := Grammar.unentered_cons_lt (Grammar.mem_names_of_find? found) fresh
          evaluateAligned g count (name :: active) body
  | rule name body _ => evaluateAligned g count (name :: active) body
  | list elements _ => do
    let columns ← evaluateAllAligned g count active elements
    (OptionT.mk (pure (Batch.fullLists? elements.length columns count)) : OptionT Generator Batch)
  | call name arguments line => do
    let b ← OptionT.lift (Generator.check (Builtin.resolveName name line))
    OptionT.lift (Generator.check (b.checkArity arguments.length line))
    let columns ← evaluateAllAligned g count active arguments
    b.applyFull ⟨active.head?, line⟩ arguments.length columns count
  | method receiver name arguments line => do
    let object ← evaluateAligned g count active receiver
    let (category, first) := receiverRole object
    let b ← OptionT.lift (Generator.check (Builtin.resolveMethod category name line))
    OptionT.lift (Generator.check (b.checkArity (first.length + arguments.length) line))
    let columns ← evaluateAllAligned g count active arguments
    b.applyFull ⟨active.head?, line⟩ (first.length + arguments.length) (first ++ columns) count
termination_by e => (g.unentered active, sizeOf e)
decreasing_by
  · exact Prod.Lex.left _ _ this
  · exact Prod.Lex.right' _ (g.unentered_cons_le name active) (by decreasing_tactic)
  all_goals exact Prod.Lex.right _ (by decreasing_tactic)

def evaluateAllAligned (g : Grammar) (count : Nat) (active : List String) :
    List Expr → OptionT Generator (List Batch)
  | [] => return []
  | e :: es => do
    let column ← evaluateAligned g count active e
    let columns ← evaluateAllAligned g count active es
    return column :: columns
termination_by es => (g.unentered active, sizeOf es)

end

section

variable {g : Grammar} {count : Nat} {active : List String}

/-- The operand that a receiver contributes, if any, is the receiver. -/
theorem mem_receiverRole {object column : Batch} (h : column ∈ (receiverRole object).2) :
    column = object := by
  unfold receiverRole at h
  split at h
  · exact absurd h List.not_mem_nil
  · exact List.mem_singleton.1 h
  · exact List.mem_singleton.1 h

/-- What becomes of a call whose function was looked up, as far as its rows are full. -/
def calledAligned (g : Grammar) (count : Nat) (active : List String)
    (resolved : Except Fault Builtin) (first : List Batch) (arguments : List Expr) (line : Nat) :
    OptionT Generator Batch := do
  let b ← OptionT.lift (Generator.check resolved)
  OptionT.lift (Generator.check (b.checkArity (first.length + arguments.length) line))
  let columns ← evaluateAllAligned g count active arguments
  b.applyFull ⟨active.head?, line⟩ (first.length + arguments.length) (first ++ columns) count

theorem evaluateAligned_call (name : String) (arguments : List Expr) (line : Nat) :
    evaluateAligned g count active (.call name arguments line) =
      calledAligned g count active (Builtin.resolveName name line) [] arguments line := by
  rw [evaluateAligned, calledAligned, List.length_nil, Nat.zero_add]
  rfl

theorem evaluateAligned_method (receiver : Expr) (name : String) (arguments : List Expr)
    (line : Nat) :
    evaluateAligned g count active (.method receiver name arguments line) =
      evaluateAligned g count active receiver >>= fun object =>
        calledAligned g count active (Builtin.resolveMethod (receiverRole object).1 name line)
          (receiverRole object).2 arguments line := by
  rw [evaluateAligned]
  rfl

theorem evaluateAligned_reference {name : String} (h : Category.ofName? name = none) (line : Nat) :
    evaluateAligned g count active (.reference name line) =
      match g.find? name with
      | none => OptionT.lift (throw (.ruleNotFound name line))
      | some body =>
        if name ∈ active then OptionT.lift (throw (.cyclicRule name line))
        else evaluateAligned g count (name :: active) body := by
  rw [evaluateAligned]
  split
  · next category named =>
    rw [h] at named
    cases named
  · split
    · next found => rw [found]
    · next body found =>
      conv_rhs => rw [found]
      rfl

theorem matches_evaluateAllAligned {es : List Expr}
    (h : ∀ e ∈ es, Matches (fun batch => batch.size = count) (evaluateAligned g count active e)
      (evaluate g count active e)) :
    Matches (fun columns => columns.length = es.length ∧ ∀ column ∈ columns, column.size = count)
      (evaluateAllAligned g count active es) (evaluateAll g count active es) := by
  induction es with
  | nil =>
    rw [evaluateAllAligned, evaluateAll]
    exact matches_pure ⟨rfl, List.forall_mem_nil _⟩
  | cons e es ih =>
    obtain ⟨here, others⟩ := List.forall_mem_cons.1 h
    rw [evaluateAllAligned, evaluateAll]
    refine here.bind fun column size => (ih others).bind fun columns all => matches_pure ?_
    exact ⟨congrArg Nat.succ all.1, List.forall_mem_cons.2 ⟨size, all.2⟩⟩

theorem matches_calledAligned {resolved : Except Fault Builtin} {first : List Batch}
    (before : ∀ column ∈ first, column.size = count) {arguments : List Expr}
    (behind : ∀ e ∈ arguments, Matches (fun batch => batch.size = count)
      (evaluateAligned g count active e) (evaluate g count active e)) (line : Nat) :
    Matches (fun batch => batch.size = count)
      (calledAligned g count active resolved first arguments line)
      (called g count active resolved first arguments line) := by
  refine (matches_lift (returns_true _)).bind fun b _ => ?_
  refine (matches_lift (b.returns_checkArity _ line)).bind fun _ accepted => ?_
  refine (matches_evaluateAllAligned behind).bind fun columns all => ?_
  rw [← all.1, ← List.length_append] at accepted ⊢
  exact Builtin.matches_applyFull (List.forall_mem_append.2 ⟨before, all.2⟩) accepted

theorem matches_evaluateAligned (e : Expr) :
    Matches (fun batch => batch.size = count) (evaluateAligned g count active e)
      (evaluate g count active e) := by
  induction active, e using evaluate_induction g with
  | literal active constant line =>
    rw [evaluateAligned, evaluate]
    exact matches_pure rfl
  | reference active name line ih =>
    cases named : Category.ofName? name with
    | some category =>
      rw [evaluateAligned, evaluate, named]
      exact matches_pure rfl
    | none =>
      rw [evaluateAligned_reference named, evaluate_reference g count active named]
      cases found : g.find? name with
      | none => exact matches_lift (returns_throw _)
      | some body =>
        dsimp only
        split
        · exact matches_lift (returns_throw _)
        · next fresh => exact ih body named found fresh
  | list active elements line ih =>
    rw [evaluateAligned, evaluate]
    refine (matches_evaluateAllAligned ih).bind fun columns all => ?_
    rw [← all.1, Batch.fullLists?_eq all.2]
    exact matches_pure (Batch.size_lists columns count)
  | call active name arguments line ih =>
    rw [evaluateAligned_call, evaluate_call_eq]
    exact matches_calledAligned (List.forall_mem_nil _) ih line
  | method active receiver name arguments line ih_receiver ih =>
    rw [evaluateAligned_method, evaluate_method_eq]
    refine ih_receiver.bind fun object size => ?_
    exact matches_calledAligned (fun column mem => mem_receiverRole mem ▸ size) ih line
  | rule active name body line ih =>
    rw [evaluateAligned, evaluate_rule]
    exact ih

/-- Evaluation gives a value for every repetition. -/
theorem returns_size_evaluate (e : Expr) :
    (evaluate g count active e).Returns fun batch => batch.size = count :=
  (matches_evaluateAligned e).2

theorem returns_sizes_evaluateAll (es : List Expr) :
    (evaluateAll g count active es).Returns fun columns =>
      ∀ column ∈ columns, column.size = count :=
  fun s p columns result =>
    ((matches_evaluateAllAligned fun e _ => matches_evaluateAligned e).2 s p columns result).2

end

/-- Evaluation that is given up where a row lacks a value, has one too many or would be refused for
its length is never given up: whatever the rules, the active ones among them, the randomness and the
pool are, it does what evaluation does, faults included. What is evaluated has a value for each
repetition. -/
theorem evaluate_aligned (g : Grammar) (count : Nat) (active : List String) (e : Expr)
    (s : RandomSource) (p : Pool) :
    (evaluateAligned g count active e).run.outcome s p =
        ((evaluate g count active e).outcome s p).map some ∧
      ∀ batch, ((evaluate g count active e).outcome s p).result = .ok batch → batch.size = count :=
  ⟨(matches_evaluateAligned e).1 s p, (matches_evaluateAligned e).2 s p⟩

end Expr

end Phrasemill
