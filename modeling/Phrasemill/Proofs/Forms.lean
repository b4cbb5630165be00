import Mathlib
import Phrasemill.Proofs.Language.Calls
import Phrasemill.Proofs.Needs
import Phrasemill.Proofs.Pool.Granting

/-!
# The two forms of a call

Operands that are the same for all repetitions can be given to a builtin as a batch, or row by row.
Texts and unique candidates are the same either way: as a batch, a call has a result exactly if it has
one in every row, and then the values, the randomness that was taken and the candidates that are left
are those of the rows. Where a batch of unique candidates is refused nothing is taken, while the rows
would have taken what there is.

The other random builtins take their randomness differently in the two forms. They agree in what they
refuse, which can be told from the operands alone (`checkOperands`), and in what they can give. All of
that is `forms_agree`.
-/

namespace Phrasemill

/-! ### Several candidates, one by one -/

namespace Pool

theorem left_of_find?_eq_ite {p q : Pool} {k : Key} {c : Prop} [Decidable c] {left : Array Value}
    (h : q.find? k = if c then some left else p.find? k) :
    q.left k = if c then left else p.left k := by
  rw [Pool.left, h]
  split
  · rfl
  · rfl

/-- What was drawn before only stands in front. -/
theorem takeSome_eq (n : Nat) (drawn left : Array Value) (s : RandomSource) :
    takeSome n drawn left s = (drawn ++ (takeSome n #[] left s).1, (takeSome n #[] left s).2) := by
  induction n generalizing drawn left s with
  | zero => simp [takeSome]
  | succ n ih =>
    cases found : takeAny left s with
    | none => simp [takeSome, found]
    | some taken =>
      obtain ⟨value, rest, t⟩ := taken
      simp only [takeSome, found]
      rw [ih (drawn.push value), ih (#[].push value)]
      simp

theorem takeSome_succ {left rest : Array Value} {s t : RandomSource} {value : Value}
    (found : takeAny left s = some (value, rest, t)) (n : Nat) :
    takeSome (n + 1) #[] left s =
      (#[value] ++ (takeSome n #[] rest t).1, (takeSome n #[] rest t).2) := by
  simp only [takeSome, found]
  exact takeSome_eq n #[value] rest t

theorem exists_takeAny {left : Array Value} (pos : 0 < left.size) (s : RandomSource) :
    ∃ value rest t, takeAny left s = some (value, rest, t) ∧ rest.size + 1 = left.size := by
  cases found : takeAny left s with
  | none =>
    have := takeAny_eq_none found
    omega
  | some taken =>
    obtain ⟨value, rest, t⟩ := taken
    have size := (takeAny_perm found).length_eq
    simp only [List.length_cons, Array.length_toList] at size
    exact ⟨value, rest, t, rfl, size⟩

/-- A draw that is granted takes its candidates one by one, also if it is a draw of one. -/
theorem serve_eq_takeSome {r : Request} {left : Array Value} (enough : r.demand.amount ≤ left.size) :
    serve r left =
      (⟨.ok (takeSome r.demand.amount #[] left r.source).1,
        (takeSome r.demand.amount #[] left r.source).2.2⟩,
        (takeSome r.demand.amount #[] left r.source).2.1) := by
  obtain ⟨key, demand, line, source⟩ := r
  cases demand with
  | one =>
    obtain ⟨value, rest, t, found, -⟩ := exists_takeAny enough source
    simp [serve, Demand.amount, takeSome, found]
  | many count =>
    have fits : ¬ left.size < count := Nat.not_lt.2 enough
    simp only [serve, Demand.amount, if_neg fits]

end Pool

namespace Builtin

open Generator

/-- Values from the same operands, one row after the other. -/
def repeatRow (b : Builtin) (site : CallSite) (operands : List Value) (count : Nat) :
    Generator (List Value) :=
  (List.replicate count operands).mapM fun operands => do
    let (value, _) ← b.callRow site operands
    return value

theorem repeatRow_succ (b : Builtin) (site : CallSite) (operands : List Value) (count : Nat) :
    b.repeatRow site operands (count + 1) =
      b.callRow site operands >>= fun row =>
        b.repeatRow site operands count >>= fun values => pure (row.1 :: values) := by
  simp only [repeatRow, List.replicate_succ, List.mapM_cons, bind_assoc, pure_bind]

/-! ### Texts -/

theorem callRow_of_fold? {b : Builtin} {operands : List Value} {value : Value}
    (h : b.fold? operands = some value) (site : CallSite) :
    b.callRow site operands = pure (value, true) := by
  have accepted := accepts_of_fold? h
  rw [callRow, checkArity_of_accepts accepted, check_ok, pure_bind]
  unfold fold? at h
  rw [if_pos accepted] at h
  cases b with
  | append =>
    rw [← Option.some.inj h]
    rfl
  | lower =>
    have single : operands.length = 1 := by simpa [arity, Arity.accepts] using accepted
    obtain ⟨operand, rfl⟩ := List.length_eq_one_iff.1 single
    rw [← Option.some.inj h]
    rfl
  | oneOf => simp at h
  | oneOfUnique => simp at h
  | between => simp at h
  | upto => simp at h

theorem repeatRow_of_fold? {b : Builtin} {operands : List Value} {value : Value}
    (h : b.fold? operands = some value) (site : CallSite) (count : Nat) :
    b.repeatRow site operands count = pure (List.replicate count value) := by
  induction count with
  | zero => rfl
  | succ count ih =>
    rw [repeatRow_succ, callRow_of_fold? h, ih]
    simp [List.replicate_succ]

/-! ### Unique candidates -/

section Unique

variable {site : CallSite} {operands : List Value}
  (accepted : oneOfUnique.arity.accepts operands.length = true)

include accepted

theorem callBatch_unique (count : Nat) :
    oneOfUnique.callBatch site operands count = oneOfUnique.batchValue site operands count := by
  rw [callBatch, checkArity_of_accepts accepted, check_ok, pure_bind]

theorem outcome_callRow_unique (s : RandomSource) (p : Pool) :
    (oneOfUnique.callRow site operands).outcome s p =
      let reply := Pool.serve ⟨poolKey site operands, .one, site.line, s⟩
        (p.left (poolKey site operands))
      ⟨reply.1.outcome.map fun values => (values.getD 0 default, false), reply.1.source,
        (p.answer ⟨poolKey site operands, .one, site.line, s⟩).2⟩ := by
  rw [callRow, checkArity_of_accepts accepted, check_ok, pure_bind]
  simp only [rowValue, drawOne, outcome_bind, outcome_draw, Pool.answer_fst]
  cases (Pool.serve ⟨poolKey site operands, .one, site.line, s⟩
    (p.left (poolKey site operands))).1.outcome with
  | ok values => rfl
  | error fault => rfl

theorem outcome_callRow_unique_of_taken {s t : RandomSource} {p : Pool} {value : Value}
    {rest : Array Value}
    (found : Pool.takeAny (p.left (poolKey site operands)) s = some (value, rest, t)) :
    ∃ after, (oneOfUnique.callRow site operands).outcome s p = ⟨.ok (value, false), t, after⟩ ∧
      ∀ k, after.find? k = if k = poolKey site operands then some rest else p.find? k := by
  refine ⟨(p.answer ⟨poolKey site operands, .one, site.line, s⟩).2, ?_, fun k => ?_⟩
  · rw [outcome_callRow_unique accepted]
    simp [Pool.serve, found, Except.map]
  · rw [Pool.find?_answer]
    simp [Pool.serve, found]

/-- As long as there are enough candidates the rows take them as one draw would. -/
theorem outcome_repeatRow_of_enough {count : Nat} {p : Pool}
    (enough : count ≤ (p.left (poolKey site operands)).size) (s : RandomSource) :
    let taken := Pool.takeSome count #[] (p.left (poolKey site operands)) s
    ∃ after, (oneOfUnique.repeatRow site operands count).outcome s p =
        ⟨.ok taken.1.toList, taken.2.2, after⟩ ∧
      ∀ k, after.find? k =
        if k = poolKey site operands ∧ 0 < count then some taken.2.1 else p.find? k := by
  induction count generalizing s p with
  | zero => exact ⟨p, rfl, by simp⟩
  | succ count ih =>
    have pos : 0 < (p.left (poolKey site operands)).size := by omega
    obtain ⟨value, rest, t, found, size⟩ := Pool.exists_takeAny pos s
    obtain ⟨between, first, entries⟩ := outcome_callRow_unique_of_taken accepted found
    have left : between.left (poolKey site operands) = rest := by
      rw [Pool.left_of_find?_eq_ite (entries _), if_pos rfl]
    obtain ⟨after, others, entries_after⟩ := ih (p := between) (by rw [left]; omega) t
    rw [left] at others entries_after
    rw [Pool.takeSome_succ found]
    refine ⟨after, ?_, fun k => ?_⟩
    · rw [repeatRow_succ, outcome_bind, first]
      dsimp only
      rw [outcome_bind, others]
      simp
    · rw [entries_after, entries]
      by_cases same : k = poolKey site operands
      · cases count with
        | zero => simp [same, Pool.takeSome]
        | succ count => simp [same]
      · simp [same]

/-- With fewer candidates than rows, there is a row that is refused. -/
theorem exists_error_repeatRow_of_lacking {count : Nat} {p : Pool}
    (lacking : (p.left (poolKey site operands)).size < count) (s : RandomSource) :
    ∃ fault, ((oneOfUnique.repeatRow site operands count).outcome s p).result = .error fault := by
  induction count generalizing s p with
  | zero => omega
  | succ count ih =>
    rw [repeatRow_succ, outcome_bind]
    by_cases none_left : (p.left (poolKey site operands)).size = 0
    · refine ⟨.poolExhausted site.line, ?_⟩
      rw [outcome_callRow_unique accepted]
      simp [Pool.serve, Pool.takeAny_empty none_left, Except.map]
    · obtain ⟨value, rest, t, found, size⟩ := Pool.exists_takeAny (Nat.pos_of_ne_zero none_left) s
      obtain ⟨between, first, entries⟩ := outcome_callRow_unique_of_taken accepted found
      have left : between.left (poolKey site operands) = rest := by
        rw [Pool.left_of_find?_eq_ite (entries _), if_pos rfl]
      obtain ⟨fault, refused⟩ := ih (p := between) (by rw [left]; omega) t
      refine ⟨fault, ?_⟩
      rw [first]
      dsimp only
      rw [outcome_bind]
      cases others : (oneOfUnique.repeatRow site operands count).outcome t between with
      | mk result source pool =>
        rw [others] at refused
        subst refused
        rfl

theorem outcome_callBatch_of_enough {count : Nat} {p : Pool}
    (enough : count ≤ (p.left (poolKey site operands)).size) (s : RandomSource) :
    let taken := Pool.takeSome count #[] (p.left (poolKey site operands)) s
    ∃ after, (oneOfUnique.callBatch site operands count).outcome s p =
        ⟨.ok (.varying taken.1), taken.2.2, after⟩ ∧
      ∀ k, after.find? k = if k = poolKey site operands then some taken.2.1 else p.find? k := by
  intro taken
  have size : taken.1.size = count := by simpa using Pool.size_takeSome count #[] _ s enough
  have amount := amount_batchRequest site operands count s
  have key_eq : (batchRequest site operands count s).key = poolKey site operands := rfl
  have served : Pool.serve (batchRequest site operands count s) (p.left (poolKey site operands)) =
      (⟨.ok taken.1, taken.2.2⟩, taken.2.1) := by
    rw [Pool.serve_eq_takeSome (by rw [amount]; exact enough), amount]
    rfl
  have values : (if count = 1 then #[taken.1.getD 0 default] else taken.1) = taken.1 := by
    split
    · next single =>
      obtain ⟨value, eq⟩ := Array.size_eq_one_iff.1 (size.trans single)
      simp [eq]
    · rfl
  refine ⟨(p.answer (batchRequest site operands count s)).2, ?_, fun k => ?_⟩
  · rw [callBatch_unique accepted, outcome_unique, Pool.answer_fst, key_eq, served]
    simp only [Except.map, values]
  · rw [Pool.find?_answer, key_eq, served]

end Unique

/-! ### A batch and its rows -/

/-- A batch that was evaluated from `s` and `p` for `count` repetitions is what its rows are. It has
values if all rows have one, and these are the values. Then the randomness and the candidates that are
left are the same, and so are the entries of the pool, unless there is no row at all to make one. A
batch without values has taken nothing. -/
structure SameAsRows (count : Nat) (s : RandomSource) (p : Pool) (batch : Outcome Batch)
    (rows : Outcome (List Value)) : Prop where
  values : ∀ values,
    (∃ b, batch.result = .ok b ∧ b.toArray.toList = values) ↔ rows.result = .ok values
  source : ∀ values, rows.result = .ok values → batch.source = rows.source
  left : ∀ values, rows.result = .ok values → ∀ k, batch.pool.left k = rows.pool.left k
  entries : ∀ values, rows.result = .ok values → 0 < count →
    ∀ k, batch.pool.find? k = rows.pool.find? k
  refused : ∀ fault, batch.result = .error fault →
    batch.source = s ∧ ∀ k, batch.pool.left k = p.left k

variable (site : CallSite) (operands : List Value) (count : Nat) (s : RandomSource) (p : Pool)

theorem sameAsRows_of_fold? {b : Builtin} {value : Value} (h : b.fold? operands = some value) :
    SameAsRows count s p ((b.callBatch site operands count).outcome s p)
      ((b.repeatRow site operands count).outcome s p) := by
  rw [callBatch_of_fold? h, repeatRow_of_fold? h]
  refine ⟨fun values => ?_, fun _ _ => rfl, fun _ _ _ => rfl, fun _ _ _ _ => rfl, nofun⟩
  simp [Batch.toArray]

theorem sameAsRows_unique (accepted : oneOfUnique.arity.accepts operands.length = true) :
    SameAsRows count s p ((oneOfUnique.callBatch site operands count).outcome s p)
      ((oneOfUnique.repeatRow site operands count).outcome s p) := by
  by_cases enough : count ≤ (p.left (poolKey site operands)).size
  · obtain ⟨batch_pool, batch, batch_entries⟩ := outcome_callBatch_of_enough accepted enough s
    obtain ⟨rows_pool, rows, rows_entries⟩ := outcome_repeatRow_of_enough accepted enough s
    rw [batch, rows]
    refine ⟨fun values => ?_, fun _ _ => rfl, fun _ _ k => ?_, fun _ _ pos k => ?_, nofun⟩
    · simp [Batch.toArray]
    · show batch_pool.left k = rows_pool.left k
      rw [Pool.left_of_find?_eq_ite (batch_entries k), Pool.left_of_find?_eq_ite (rows_entries k)]
      by_cases same : k = poolKey site operands
      · rcases Nat.eq_zero_or_pos count with none_drawn | pos
        · simp [same, none_drawn, Pool.takeSome]
        · simp [same, pos]
      · simp [same]
    · simp only [batch_entries, rows_entries, pos, and_true]
  · have lacking := Nat.lt_of_not_le enough
    obtain ⟨fault, after, -, batch, kept⟩ := outcome_unique_of_lacking s lacking
    obtain ⟨row_fault, rows⟩ := exists_error_repeatRow_of_lacking accepted lacking s
    rw [callBatch_unique accepted, batch]
    refine ⟨fun values => ?_, ?_, ?_, ?_, fun _ _ => ⟨rfl, kept⟩⟩ <;> simp [rows]

/-! ### What is refused -/

end Builtin

namespace Generator

variable {α β : Type}

/-- The generator faults if the check does, and in the same way. -/
def FaultsAs (check : Except Fault Unit) (m : Generator α) : Prop :=
  ∀ s p fault, (m.outcome s p).result = .error fault ↔ check = .error fault

theorem faultsAs_of_never {m : Generator α} (never : m.Raises fun _ => False) :
    m.FaultsAs (.ok ()) :=
  fun s p fault => iff_of_false (never s p fault) nofun

/-- What comes after a check faults no more. -/
theorem faultsAs_check_bind (check : Except Fault α) {f : α → Generator β}
    (never : ∀ a, (f a).Raises fun _ => False) :
    (Generator.check check >>= f).FaultsAs (check.map fun _ => ()) := by
  cases check with
  | ok a => exact faultsAs_of_never (never a)
  | error fault =>
    intro s p other
    simp [check_error, Except.map]

theorem FaultsAs.behind {check : Except Fault Unit} {m : Generator α} (h : m.FaultsAs check)
    (first : Except Fault Unit) :
    (Generator.check first >>= fun _ => m).FaultsAs (first >>= fun _ => check) := by
  cases first with
  | ok _ => exact h
  | error fault =>
    intro s p other
    rw [check_error, throw_bind, outcome_throw]
    simp [bind, Except.bind]

end Generator

namespace Builtin

open Generator

/-- What is wrong with the operands of a call. Whether there are candidates enough for a draw does not
show in them. -/
def checkOperands (b : Builtin) (operands : List Value) (line : Nat) : Except Fault Unit :=
  b.checkArity operands.length line >>= fun _ =>
    match b with
    | append | oneOfUnique => .ok ()
    | lower => (exactly lower 1 operands line).map fun _ => ()
    | oneOf => (choices operands line).map fun _ => ()
    | between => (betweenRange operands line).map fun _ => ()
    | upto => (uptoRange operands line).map fun _ => ()

section

variable {b : Builtin} (other : b ≠ .oneOfUnique) (site : CallSite) (operands : List Value)

include other

theorem faultsAs_callRow :
    (b.callRow site operands).FaultsAs (b.checkOperands operands site.line) := by
  refine FaultsAs.behind ?_ _
  cases b with
  | append => exact faultsAs_of_never (raises_pure _)
  | lower => exact faultsAs_check_bind _ fun _ => raises_pure _
  | oneOf => exact faultsAs_check_bind _ fun _ => (raises_random _).bind fun _ => raises_pure _
  | oneOfUnique => exact absurd rfl other
  | between => exact faultsAs_check_bind _ fun _ => (raises_random _).bind fun _ => raises_pure _
  | upto => exact faultsAs_check_bind _ fun _ => (raises_random _).bind fun _ => raises_pure _

theorem faultsAs_callBatch (count : Nat) :
    (b.callBatch site operands count).FaultsAs (b.checkOperands operands site.line) := by
  refine FaultsAs.behind ?_ _
  cases b with
  | append => exact faultsAs_of_never (raises_pure _)
  | lower => exact faultsAs_check_bind _ fun _ => raises_pure _
  | oneOf => exact faultsAs_check_bind _ fun _ => (raises_random _).bind fun _ => raises_pure _
  | oneOfUnique => exact absurd rfl other
  | between => exact faultsAs_check_bind _ fun _ => (raises_random _).bind fun _ => raises_pure _
  | upto => exact faultsAs_check_bind _ fun _ => (raises_random _).bind fun _ => raises_pure _

theorem gives_of_callRow {s : RandomSource} {p : Pool} {value : Value} {constant : Bool}
    (result : ((b.callRow site operands).outcome s p).result = .ok (value, constant)) :
    b.Gives operands value := by
  rw [(quiet_callRow other site operands).same_outcome] at result
  exact (b.yields_callRow site operands).result Pool.faithful_empty result

theorem consists_of_callBatch {count : Nat} {s : RandomSource} {p : Pool} {batch : Batch}
    (result : ((b.callBatch site operands count).outcome s p).result = .ok batch) :
    batch.Consists (b.Gives operands) count := by
  have quiet : (b.callBatch site operands count).Quiet :=
    (quiet_check (ofCall_checkArity _ _ _).neverShort).bind fun _ =>
      quiet_batchValue other site operands count
  rw [quiet.same_outcome] at result
  exact (b.yields_callBatch site operands count).result Pool.faithful_empty result

end

/-- The two forms of a call. Functions of texts and draws do as a batch what they do row by row, as
long as they accept that many operands. All but draws are refused in both forms for the same reasons,
however many repetitions there are, and give in both forms only what can be given for the operands. -/
theorem forms_agree (b : Builtin) (site : CallSite) (operands : List Value) (count : Nat)
    (s : RandomSource) (p : Pool) :
    let batch := (b.callBatch site operands count).outcome s p
    let row := (b.callRow site operands).outcome s p
    (b = .append ∨ b = .lower ∨ b = .oneOfUnique → b.arity.accepts operands.length = true →
        SameAsRows count s p batch ((b.repeatRow site operands count).outcome s p)) ∧
      (b ≠ .oneOfUnique →
        (∀ fault, batch.result = .error fault ↔ row.result = .error fault) ∧
          (∀ values, batch.result = .ok values →
            values.size = count ∧ ∀ v ∈ values.toArray, b.Gives operands v) ∧
          ∀ v constant, row.result = .ok (v, constant) → b.Gives operands v) := by
  intro batch row
  refine ⟨fun steady accepted => ?_, fun other => ⟨fun fault => ?_, fun values result => ?_, ?_⟩⟩
  · by_cases draws : b = .oneOfUnique
    · subst draws
      exact sameAsRows_unique site operands count s p accepted
    · have text : b = .append ∨ b = .lower := by tauto
      obtain ⟨value, folds⟩ := Expr.exists_fold? text accepted
      exact sameAsRows_of_fold? site operands count s p folds
  · exact (faultsAs_callBatch other site operands count s p fault).trans
      (faultsAs_callRow other site operands s p fault).symm
  · have consists := consists_of_callBatch other site operands result
    exact ⟨consists.size, consists.holds.mem⟩
  · exact fun v constant => gives_of_callRow other site operands

/-- Two candidates that are drawn at once, and a range of integers that is empty, of which no number is
asked for. -/
theorem forms_agree_of_pair :
    let site : CallSite := ⟨some "name", 1⟩
    let pair : List Value := [.text "a", .text "b"]
    let outcome {α : Type} (m : Generator α) := m.outcome (.ofSeed 0) ∅
    oneOfUnique.arity.accepts pair.length = true ∧
      (∃ drawn, (outcome (oneOfUnique.repeatRow site pair 2)).result = .ok drawn ∧
        ∃ batch, (outcome (oneOfUnique.callBatch site pair 2)).result = .ok batch ∧
          batch.toArray.toList = drawn) ∧
      (between.callRow site [.integer 6, .integer 1]).outcome (.ofSeed 0) ∅ =
        ⟨.error (.emptyRange 6 1 1), .ofSeed 0, ∅⟩ ∧
      (outcome (between.callBatch site [.integer 6, .integer 1] 0)).result =
        .error (.emptyRange 6 1 1) := by
  generalize RandomSource.ofSeed 0 = source
  intro site pair outcome
  have accepted : oneOfUnique.arity.accepts pair.length = true := rfl
  have enough : 2 ≤ ((∅ : Pool).left (poolKey site pair)).size := by decide
  obtain ⟨after, drawn, -⟩ := outcome_repeatRow_of_enough accepted enough source
  have rows : (outcome (oneOfUnique.repeatRow site pair 2)).result = .ok _ :=
    congrArg Outcome.result drawn
  obtain ⟨same, -⟩ := forms_agree .oneOfUnique site pair 2 source ∅
  have empty : (between.callRow site [.integer 6, .integer 1]).outcome source ∅ =
      ⟨.error (.emptyRange 6 1 1), source, ∅⟩ := rfl
  obtain ⟨-, refused⟩ := forms_agree .between site [.integer 6, .integer 1] 0 source ∅
  have drawn_at_once := ((same (.inr (.inr rfl)) accepted).values _).2 rows
  have refused_at_once := ((refused (by decide)).1 _).2 (congrArg Outcome.result empty)
  exact ⟨accepted, ⟨_, rows, drawn_at_once⟩, empty, refused_at_once⟩

end Builtin

end Phrasemill
