import Mathlib
import Phrasemill.Proofs.Partition.Attempt
import Phrasemill.Proofs.Pool.Granting

/-!
# What a failed statement loses

A statement in chunks that faults puts the pool back. Where the fault was a shortage it is then
evaluated again in one piece, and nothing puts back what this second evaluation draws before it
faults in its turn. So a statement that fails has lost of every key just what the second evaluation
was handed of it (`left_of_failed_runs`): nothing if its first draw is refused, but with two draws
the first may be granted and the second refused (`lost_of_failed_runs`).
-/

namespace Phrasemill

namespace Pool

/-- A draw that hands nothing out leaves what there was, in its order. -/
theorem serve_eq_of_values_nil {r : Request} {left : Array Value}
    (nothing : (serve r left).1.values = []) : (serve r left).2 = left := by
  by_cases enough : r.demand.amount ≤ left.size
  · obtain ⟨values, s, granted, size⟩ := serve_granted enough
    rw [granted, Reply.values_ok, Array.toList_eq_nil_iff] at nothing
    rw [nothing, Array.size_empty] at size
    obtain ⟨key, demand, line, source⟩ := r
    cases demand with
    | one => cases size
    | many count =>
      obtain rfl : 0 = count := size
      simp only [serve, if_neg (Nat.not_lt_zero _), takeSome]
  · obtain ⟨fault, -, refused⟩ := serve_refused (Nat.lt_of_not_le enough)
    rw [refused]

end Pool

namespace Dialogue

variable {α : Type}

/-- The candidates of a key that a dialogue is handed when it is run against a pool by itself. -/
def handed (k : Pool.Key) : Dialogue α → Pool → List Value
  | finished _, _ => []
  | ask request resume, p =>
    let (reply, p) := p.answer request
    (if request.key = k then reply.values else []) ++ (resume reply).handed k p

/-- Running a dialogue moves candidates from what is left to what it is handed. -/
theorem handed_perm (k : Pool.Key) (d : Dialogue α) (p : Pool) :
    (d.handed k p ++ ((d.run p).2.left k).toList).Perm (p.left k).toList := by
  induction d generalizing p with
  | finished a => exact List.Perm.refl _
  | ask request resume ih =>
    rw [handed, run, List.append_assoc]
    refine ((ih _ _).append_left _).trans ?_
    rw [Pool.left_answer, Pool.answer_fst]
    by_cases same : request.key = k
    · rw [if_pos same, if_pos same.symm, same]
      exact Pool.serve_perm request (p.left k)
    · rw [if_neg same, if_neg (Ne.symm same), List.nil_append]

theorem left_run_of_handed_nil {k : Pool.Key} {d : Dialogue α} {p : Pool}
    (nothing : d.handed k p = []) : (d.run p).2.left k = p.left k := by
  induction d generalizing p with
  | finished a => rfl
  | ask request resume ih =>
    rw [handed, List.append_eq_nil_iff] at nothing
    obtain ⟨here, later⟩ := nothing
    rw [run, ih _ later, Pool.left_answer]
    by_cases same : request.key = k
    · rw [if_pos same, Pool.answer_fst, same] at here
      rw [if_pos same.symm, same, Pool.serve_eq_of_values_nil here]
    · rw [if_neg (Ne.symm same)]

/-- A key has lost nothing just if nothing of it was handed out. -/
theorem left_run_eq_iff {k : Pool.Key} {d : Dialogue α} {p : Pool} :
    (d.run p).2.left k = p.left k ↔ d.handed k p = [] := by
  refine ⟨fun same => ?_, left_run_of_handed_nil⟩
  have length := (d.handed_perm k p).length_eq
  rw [same, List.length_append] at length
  exact List.length_eq_zero_iff.1 (Nat.add_eq_right.1 length)

end Dialogue

namespace Partition

variable {p : Partition} {g : Grammar} {e : Expr} {total : Nat} {master : RandomSource}
  {pool : Pool}

/-- A statement in chunks that faults leaves the pool as it was if its attempt came to another fault
than a shortage. After a shortage a key lacks just what the second evaluation was handed of it. -/
theorem left_of_failed_runs {attempted : Except Fault (Array Value)} {o : Outcome Batch}
    (h : p.Runs g e total master pool (some attempted) o) {fault : Fault}
    (failed : o.result = .error fault) :
    ∃ first, attempted = .error first ∧
      (first.isShortage = false → o.pool = pool) ∧
      (first.isShortage = true →
        let advanced := (master.draws RandomSource.nextLong p.workers).2
        let again := (e.evaluate g total []).dialogue advanced.fork.1
        ∀ k, (again.handed k pool ++ (o.pool.left k).toList).Perm (pool.left k).toList ∧
          (o.pool.left k = pool.left k ↔ again.handed k pool = [])) := by
  cases attempted with
  | ok values =>
    cases h with
    | split chunked attempt => cases failed
  | error first =>
    refine ⟨first, rfl, fun other => ?_, fun shortage => ?_⟩
    · rw [h.eq_fault other]
    · rw [h.eq_runWhole shortage, chunks_snd]
      exact fun k => ⟨Dialogue.handed_perm k _ pool, Dialogue.left_run_eq_iff⟩

/-- The first chunk has drawn when it comes to a rule that is not defined. -/
theorem left_of_failed_runs_of_undefined :
    let pick := Expr.call "one_of_unique"
      [.list [.literal (.text "a") 1, .literal (.text "b") 1] 1] 1
    let e := Expr.list [pick, .reference "missing" 1] 1
    let o := run ⟨2, 1, true⟩ ∅ e 2 (.ofSeed 0) ∅
    ∃ fault, Runs ⟨2, 1, true⟩ ∅ e 2 (.ofSeed 0) ∅ (some (.error fault)) o ∧ o.result = .error fault ∧
      o.pool = ∅ := by
  generalize RandomSource.ofSeed 0 = master
  intro pick e o
  obtain ⟨first, second, advanced, chunks⟩ : ∃ first second advanced,
      chunks ⟨2, 1, true⟩ 2 master = ([(1, first), (1, second)], advanced) := ⟨_, _, _, rfl⟩
  let draw := Builtin.oneOfUnique.batchValue ⟨none, 1⟩ [.list [.text "a", .text "b"]] 1
  have picks : pick.evaluate ∅ 1 [] = draw :=
    Expr.evaluate_unique_literals ∅ 1 [] [.text "a", .text "b"] 1
  have missing : (Expr.reference "missing" 1).evaluate ∅ 1 [] = throw (.ruleNotFound "missing" 1) :=
    Expr.evaluate_reference ∅ 1 [] rfl 1
  obtain ⟨values, s, left, drawn, -⟩ :
      ∃ values s left, draw.outcome first ∅ = ⟨.ok (.varying values), s, left⟩ ∧ _ :=
    Builtin.outcome_unique_of_enough first (by decide)
  have outcome : (e.evaluate ∅ 1 []).outcome first ∅ =
      ⟨.error (.ruleNotFound "missing" 1), s, left⟩ := by
    rw [Expr.evaluate, Expr.evaluateAll, Expr.evaluateAll, missing, Generator.throw_bind, picks,
      Generator.outcome_bind, Generator.outcome_bind, drawn]
    rfl
  have runs : Runs ⟨2, 1, true⟩ ∅ e 2 master ∅ _ o := runs_run_of_applies rfl master ∅
  rw [chunks, runChunks_of_error (Generator.run_dialogue outcome)] at runs
  have failed : o.result = .error (.ruleNotFound "missing" 1) :=
    congrArg Outcome.result (runs.eq_fault rfl)
  obtain ⟨fault, same, restored, -⟩ := left_of_failed_runs runs failed
  cases same
  exact ⟨_, runs, failed, restored rfl⟩

/-- Two draws of one key for every repetition: the first may be granted and the second refused. -/
theorem outcome_pair {pick : Expr} {count : Nat} {site : CallSite} {operands : List Value}
    (picks : pick.evaluate g count [] = Builtin.oneOfUnique.batchValue site operands count)
    (line : Nat) (s : RandomSource) {left : Nat}
    (is_left : (pool.left (Builtin.poolKey site operands)).size = left) :
    (2 * count ≤ left → ∃ batch s' after,
      ((Expr.list [pick, pick] line).evaluate g count []).outcome s pool = ⟨.ok batch, s', after⟩ ∧
        (after.left (Builtin.poolKey site operands)).size + 2 * count = left) ∧
    (left < 2 * count → ∃ fault s' after, fault.isShortage = true ∧
      ((Expr.list [pick, pick] line).evaluate g count []).outcome s pool =
        ⟨.error fault, s', after⟩ ∧
        (after.left (Builtin.poolKey site operands)).size =
          if left < count then left else left - count) := by
  subst is_left
  have pair : (Expr.list [pick, pick] line).evaluate g count [] = (do
      let one ← Builtin.oneOfUnique.batchValue site operands count
      let other ← Builtin.oneOfUnique.batchValue site operands count
      return Batch.lists [one, other] count) := by
    rw [Expr.evaluate]
    simp only [Expr.evaluateAll, picks, bind_assoc, pure_bind]
  rw [pair, Generator.outcome_bind]
  by_cases one_granted : count ≤ (pool.left (Builtin.poolKey site operands)).size
  · obtain ⟨_, s₁, after_one, one, size_one⟩ := Builtin.outcome_unique_of_enough s one_granted
    rw [one]
    dsimp only
    rw [Generator.outcome_bind]
    refine ⟨fun enough => ?_, fun lacking => ?_⟩
    · have other_granted : count ≤ (after_one.left (Builtin.poolKey site operands)).size := by omega
      obtain ⟨_, s₂, after, other, size⟩ := Builtin.outcome_unique_of_enough s₁ other_granted
      rw [other]
      exact ⟨_, s₂, after, rfl, by omega⟩
    · have other_lacking : (after_one.left (Builtin.poolKey site operands)).size < count := by omega
      obtain ⟨fault, after, shortage, other, kept⟩ :=
        Builtin.outcome_unique_of_lacking s₁ other_lacking
      rw [other, if_neg (Nat.not_lt.2 one_granted)]
      exact ⟨fault, s₁, after, shortage, rfl, by rw [kept]; omega⟩
  · have lacking := Nat.lt_of_not_le one_granted
    obtain ⟨fault, after, shortage, one, kept⟩ := Builtin.outcome_unique_of_lacking s lacking
    rw [one, if_pos lacking]
    refine ⟨fun enough => absurd enough (by omega), fun _ => ?_⟩
    exact ⟨fault, s, after, shortage, rfl, by rw [kept]⟩

/-- Two candidates and two draws for each of two repetitions. The second chunk is refused; evaluated
again, the statement is granted both candidates by its first draw and refused by its second. -/
theorem lost_of_failed_runs :
    let pick := Expr.call "one_of_unique"
      [.list [.literal (.text "a") 1, .literal (.text "b") 1] 1] 1
    let e := Expr.list [pick, pick] 1
    let key : Pool.Key := ⟨none, [.text "a", .text "b"]⟩
    let o := run ⟨2, 1, true⟩ ∅ e 2 (.ofSeed 0) ∅
    ∃ first fault, Runs ⟨2, 1, true⟩ ∅ e 2 (.ofSeed 0) ∅ (some (.error first)) o ∧
      o.result = .error fault ∧ ((∅ : Pool).left key).size = 2 ∧ (o.pool.left key).size = 0 := by
  generalize RandomSource.ofSeed 0 = master
  intro pick e key o
  obtain ⟨first, second, advanced, chunks⟩ : ∃ first second advanced,
      chunks ⟨2, 1, true⟩ 2 master = ([(1, first), (1, second)], advanced) := ⟨_, _, _, rfl⟩
  have picks (n : Nat) : pick.evaluate ∅ n [] =
      Builtin.oneOfUnique.batchValue ⟨none, 1⟩ [.list [.text "a", .text "b"]] n :=
    Expr.evaluate_unique_literals ∅ n [] [.text "a", .text "b"] 1
  have two : ((∅ : Pool).left key).size = 2 := by decide
  -- The first chunk takes both candidates, so the second is refused.
  obtain ⟨batch, _, after, first_chunk, taken⟩ :=
    (outcome_pair (picks 1) 1 first two).1 (le_refl 2)
  obtain ⟨short, _, _, shortage, second_chunk, -⟩ :=
    (outcome_pair (picks 1) 1 second (Nat.add_right_cancel taken : _ = 0)).2 Nat.two_pos
  have runs : Runs ⟨2, 1, true⟩ ∅ e 2 master ∅ _ o := runs_run_of_applies rfl master ∅
  rw [chunks, runChunks_of_ok (Generator.run_dialogue first_chunk),
    runChunks_of_error (Generator.run_dialogue second_chunk)] at runs
  -- The whole statement takes both by its first draw.
  obtain ⟨fault, _, rest, -, whole, lost⟩ :=
    (outcome_pair (picks 2) 1 advanced.fork.1 two).2 (by decide)
  have outcome : o = ⟨.error fault, advanced.fork.2, rest⟩ := by
    refine (runs.eq_runWhole shortage).trans ?_
    rw [chunks, runWhole]
    dsimp only
    rw [whole]
  rw [outcome]
  exact ⟨short, fault, outcome ▸ runs, rfl, two, lost⟩

end Partition

end Phrasemill
