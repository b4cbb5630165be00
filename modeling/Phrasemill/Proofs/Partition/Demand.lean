import Mathlib
import Phrasemill.Proofs.Crew.Accounts
import Phrasemill.Proofs.Partition.Attempt

/-!
# What a statement takes from the pool

A statement of `total` repetitions takes `total` candidates for each draw of its expression, be it
evaluated in one piece or in chunks, under every schedule, at the first attempt or at the second. So
it is known beforehand whether the candidates suffice: a statement that succeeds has taken exactly
its demand, one whose demand is covered never runs short, and one whose demand is not covered never
succeeds (`demand_of_runs`).
-/

namespace Phrasemill

namespace Partition

open Crew (Balanced Exceeds)

variable {g : Grammar} {e : Expr}

theorem balanced_crew (known : Expr.Everywhere g (Expr.CandidatesKnown g) e)
    (chunks : List (Nat × RandomSource)) (pool : Pool) :
    Balanced pool ((chunks.map Prod.fst).sum • e.demand g) (crew g e chunks pool) := by
  have needed : List.Forall₂ (fun d need => ∀ short, d.Needs short need)
      (chunks.map fun chunk => (e.evaluate g chunk.1 []).dialogue chunk.2)
      (chunks.map fun chunk => chunk.1 • e.demand g) := by
    rw [List.forall₂_map_left_iff, List.forall₂_map_right_iff, List.forall₂_same]
    intro chunk _ short
    exact Expr.needs_evaluate chunk.1 known short chunk.2
  have sum : (chunks.map fun chunk => chunk.1 • e.demand g).sum =
      (chunks.map Prod.fst).sum • e.demand g := by
    rw [List.sum_smul, List.map_map]
    rfl
  have := Crew.balanced_start pool needed
  rwa [sum] at this

/-- A statement in one piece is a crew of one worker. -/
theorem exists_balanced_whole (known : Expr.Everywhere g (Expr.CandidatesKnown g) e) (total : Nat)
    (master : RandomSource) (pool : Pool) :
    ∃ (c : ChunkCrew) (s : RandomSource), Balanced pool (total • e.demand g) c ∧
      c.workers = [.free (.finished ((runWhole g e total master pool).result, s))] ∧
      c.pool = (runWhole g e total master pool).pool := by
  have start := balanced_crew known [(total, master.fork.1)] pool
  rw [List.map_singleton, List.sum_singleton] at start
  obtain ⟨schedule, record, -, run⟩ := Crew.exists_run_dialogue
    ((e.evaluate g total []).dialogue master.fork.1)
    (c := crew g e [(total, master.fork.1)] pool) (i := 0) rfl
  have balanced := Crew.balanced_run start schedule
  rw [run] at balanced
  exact ⟨_, _, balanced, rfl, rfl⟩

/-- What a statement has come to fits its demand. -/
structure Settled {β : Type} (pool : Pool) (demand : Multiset Pool.Key) (result : Except Fault β)
    (after : Pool) : Prop where
  taken : ∀ b, result = .ok b →
    ∀ k, (after.left k).size + demand.count k = (pool.left k).size
  short : ∀ fault, result = .error fault → fault.isShortage = true → Exceeds pool demand

theorem settled_whole (known : Expr.Everywhere g (Expr.CandidatesKnown g) e) (total : Nat)
    (master : RandomSource) (pool : Pool) :
    Settled pool (total • e.demand g) (runWhole g e total master pool).result
      (runWhole g e total master pool).pool := by
  obtain ⟨c, s, balanced, workers, after⟩ := exists_balanced_whole known total master pool
  constructor
  · intro batch result k
    rw [← after]
    refine balanced.size_left (fun w mem => ?_) k
    rw [workers, List.mem_singleton] at mem
    rw [mem, result]
    exact ⟨batch, s, rfl⟩
  · intro fault result shortage
    refine balanced.exceeds (w := .free (.finished (.error fault, s))) ?_ rfl shortage
    rw [workers, result]
    exact List.mem_cons_self

theorem settled_attempt (known : Expr.Everywhere g (Expr.CandidatesKnown g) e)
    {chunks : List (Nat × RandomSource)} {pool drained : Pool}
    {result : Except Fault (Array Value)} (h : Attempt g e chunks pool result drained) :
    Settled pool ((chunks.map Prod.fst).sum • e.demand g) result drained := by
  have start := balanced_crew known chunks pool
  cases h with
  | succeeded schedule batches all =>
    constructor
    · intro values _ k
      refine (Crew.balanced_run start schedule).size_left (fun w mem => ?_) k
      have here : w.result?.map Prod.fst ∈ ends ((crew g e chunks pool).run schedule) :=
        List.mem_map_of_mem mem
      rw [all] at here
      obtain ⟨batch, -, eq⟩ := List.mem_map.1 here
      obtain ⟨⟨r, s⟩, result, rfl⟩ := Option.map_eq_some_iff.1 eq.symm
      exact ⟨batch, s, result⟩
    · intro fault result
      cases result
  | failed schedule fault some_chunk settled =>
    constructor
    · intro values result
      cases result
    · intro fault' result shortage
      cases result
      obtain ⟨w, mem, eq⟩ := List.mem_map.1 some_chunk
      obtain ⟨⟨r, s⟩, result, rfl⟩ := Option.map_eq_some_iff.1 eq
      exact (Crew.balanced_run start schedule).exceeds mem result shortage

theorem settled_runs {p : Partition} {total : Nat} {master : RandomSource} {pool : Pool}
    {attempted : Option (Except Fault (Array Value))} {o : Outcome Batch}
    (known : Expr.Everywhere g (Expr.CandidatesKnown g) e)
    (h : p.Runs g e total master pool attempted o) :
    Settled pool (total • e.demand g) o.result o.pool := by
  cases h with
  | whole one_piece => exact settled_whole known total master pool
  | @split chunked result drained attempt =>
    have workers : 0 < p.workers := Nat.zero_lt_of_lt (applies_iff.1 chunked).1
    have settled := settled_attempt known attempt
    rw [map_fst_chunks workers, sum_chunkSizes] at settled
    cases result with
    | ok values =>
      refine ⟨fun batch _ k => settled.taken values rfl k, fun fault result => ?_⟩
      cases result
    | error fault =>
      rw [conclude, attempt.restore]
      split
      · exact settled_whole known total _ pool
      · next other =>
        refine ⟨fun batch result => ?_, fun fault' result shortage => ?_⟩
        · cases result
        · cases result
          exact absurd shortage other

/-- Whether the candidates suffice for a statement is settled by its demand. -/
theorem demand_of_runs {p : Partition} {total : Nat} {master : RandomSource} {pool : Pool}
    {attempted : Option (Except Fault (Array Value))} {o : Outcome Batch}
    (known : Expr.Everywhere g (Expr.CandidatesKnown g) e)
    (h : p.Runs g e total master pool attempted o) :
    (∀ batch, o.result = .ok batch →
      ∀ k, (o.pool.left k).size + total * (e.demand g).count k = (pool.left k).size) ∧
    ((∀ k, total * (e.demand g).count k ≤ (pool.left k).size) →
      ∀ fault, o.result = .error fault → fault.isShortage = false) ∧
    ∀ k, (pool.left k).size < total * (e.demand g).count k → ∀ batch, o.result ≠ .ok batch := by
  have settled := settled_runs known h
  have count (k : Pool.Key) : (total • e.demand g).count k = total * (e.demand g).count k := by
    rw [Multiset.count_nsmul]
  refine ⟨fun batch result k => ?_, fun fits fault result => ?_, fun k lacking batch result => ?_⟩
  · rw [← count]
    exact settled.taken batch result k
  · by_contra shortage
    obtain ⟨k, lacking⟩ := settled.short fault result (Bool.not_eq_false _ ▸ shortage)
    rw [count] at lacking
    exact absurd (fits k) (Nat.not_le.2 lacking)
  · have taken := settled.taken batch result k
    rw [count] at taken
    omega

/-- Two draws of one key for every repetition, from a rule that is defined after the rule that draws
from it twice. -/
theorem demand_of_runs_of_pairs :
    let pick := Expr.call "one_of_unique"
      [.list [.literal (.text "a") 2, .literal (.text "b") 2] 2] 2
    let pair := Expr.call "append" [.reference "pick" 1, .reference "pick" 1] 1
    let g := ((∅ : Grammar).define "pair" pair).define "pick" pick
    let e := Expr.reference "pair" 3
    Expr.Everywhere g (Expr.CandidatesKnown g) e ∧
      ∃ fault, (run ⟨2, 0, true⟩ g e 2 (.ofSeed 0) ∅).result = .error fault := by
  intro pick pair g e
  have pick_found : g.find? "pick" = some pick := rfl
  have pair_found : g.find? "pair" = some pair := rfl
  have letters {P : Expr → Prop} (literal : ∀ value line, P (.literal value line))
      (list : ∀ elements line, P (.list elements line)) :
      Expr.Everywhere g P (.list [.literal (.text "a") 2, .literal (.text "b") 2] 2) := by
    refine Expr.everywhere_list (list _ _) fun letter mem => ?_
    rw [List.mem_pair] at mem
    obtain rfl | rfl := mem
    · exact Expr.everywhere_literal (literal _ _)
    · exact Expr.everywhere_literal (literal _ _)
  have pick_known : Expr.Everywhere g (Expr.CandidatesKnown g) pick := by
    refine Expr.everywhere_call (fun _ operand mem => ?_) fun operand mem => ?_
    · rw [List.mem_singleton.1 mem]
      exact letters (fun _ _ => trivial) fun _ _ => trivial
    · rw [List.mem_singleton.1 mem]
      exact letters (fun _ _ => trivial) fun _ _ => trivial
  have pair_known : Expr.Everywhere g (Expr.CandidatesKnown g) pair := by
    refine Expr.everywhere_call (fun unique => absurd unique (by decide)) fun operand mem => ?_
    rw [List.mem_pair, or_self] at mem
    rw [mem]
    exact Expr.everywhere_reference trivial pick_found pick_known
  have known : Expr.Everywhere g (Expr.CandidatesKnown g) e :=
    Expr.everywhere_reference trivial pair_found pair_known
  refine ⟨known, ?_⟩
  obtain ⟨attempted, runs⟩ := exists_runs_run ⟨2, 0, true⟩ g e 2 (.ofSeed 0) ∅
  have twice : (e.demand g).count ⟨some "pick", [.text "a", .text "b"]⟩ = 2 := by
    rw [Expr.demand, Expr.footprint_defined g [] rfl pair_found, if_neg List.not_mem_nil,
      Expr.footprint_call, List.map_cons, List.map_singleton,
      Expr.footprint_defined g ["pair"] rfl pick_found, if_neg (by decide), Expr.footprint_call,
      List.map_singleton, Expr.footprint, List.map_cons, List.map_singleton, Expr.footprint,
      Expr.footprint]
    decide
  have lacking := (demand_of_runs known runs).2.2 ⟨some "pick", [.text "a", .text "b"]⟩
    (by rw [twice]; decide)
  cases result : (run ⟨2, 0, true⟩ g e 2 (.ofSeed 0) ∅).result with
  | error fault => exact ⟨fault, rfl⟩
  | ok batch => exact absurd result (lacking batch)

end Partition

end Phrasemill
