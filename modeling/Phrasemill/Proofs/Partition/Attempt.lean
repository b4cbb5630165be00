import Mathlib
import Phrasemill.Proofs.Crew
import Phrasemill.Proofs.Evaluation
import Phrasemill.Proofs.Partition.Chunks

/-!
# A statement under every schedule

`Partition.run` evaluates the chunks of a statement one after the other. The workers that the chunks
are meant for give no such promise: the draws of the chunks meet in any order, and once a chunk has
faulted others may never be begun. `Attempt` says what such an attempt can come to and which pool it
can leave; `Runs` is `Partition.run` with any attempt in place of the one it makes, and contains it
(`exists_runs_run`).

What happens after a failed attempt does not depend on how it went: draws only add keys behind those
there were, so the pool goes back to exactly what it was (`Attempt.restore`).
-/

namespace Phrasemill

namespace Partition

abbrev ChunkCrew := Crew (Except Fault Batch × RandomSource)

def crew (g : Grammar) (e : Expr) (chunks : List (Nat × RandomSource)) (pool : Pool) : ChunkCrew :=
  Crew.start pool (chunks.map fun chunk => (e.evaluate g chunk.1 []).dialogue chunk.2)

def ends (c : ChunkCrew) : List (Option (Except Fault Batch)) :=
  c.workers.map fun w => w.result?.map Prod.fst

def joined (batches : List Batch) : Array Value :=
  batches.foldr (fun batch values => batch.toArray ++ values) #[]

/-- What the workers can come to with the chunks of a statement, and the pool that is left: all
chunks have succeeded; or some chunk has faulted and all that were begun are over. -/
inductive Attempt (g : Grammar) (e : Expr) (chunks : List (Nat × RandomSource)) (pool : Pool) :
    Except Fault (Array Value) → Pool → Prop where
  | succeeded (schedule : List Nat) (batches : List Batch)
      (all : ends ((crew g e chunks pool).run schedule) = batches.map fun b => some (.ok b)) :
      Attempt g e chunks pool (.ok (joined batches)) ((crew g e chunks pool).run schedule).pool
  | failed (schedule : List Nat) (fault : Fault)
      (some_chunk : some (.error fault) ∈ ends ((crew g e chunks pool).run schedule))
      (settled : ∀ i ∈ schedule, ∃ r, (ends ((crew g e chunks pool).run schedule))[i]? = some (some r)) :
      Attempt g e chunks pool (.error fault) ((crew g e chunks pool).run schedule).pool

/-- What a statement can come to: evaluated in one piece, also for want of threads, or attempted with a
result in chunks. -/
inductive Runs (p : Partition) (g : Grammar) (e : Expr) (total : Nat) (master : RandomSource)
    (pool : Pool) : (attempted : Option (Except Fault (Array Value))) → Outcome Batch → Prop where
  | whole (one_piece : p.applies e total = false) :
      Runs p g e total master pool none (runWhole g e total master pool)
  | split (chunked : p.applies e total = true) {result : Except Fault (Array Value)}
      {drained : Pool} (attempt : Attempt g e (p.chunks total master).1 pool result drained) :
      Runs p g e total master pool (some result)
        (conclude g e total (p.chunks total master).2 pool result drained)

variable {g : Grammar} {e : Expr}

/-! ### One chunk after the other is an attempt -/

theorem runChunks_of_error {size : Nat} {source s : RandomSource} {pool left : Pool} {fault : Fault}
    (h : ((e.evaluate g size []).dialogue source).run pool = ((.error fault, s), left))
    (chunks : List (Nat × RandomSource)) :
    runChunks g e ((size, source) :: chunks) pool = (.error fault, left) := by
  rw [runChunks, Generator.outcome_eq, h]

theorem runChunks_of_ok {size : Nat} {source s : RandomSource} {pool left : Pool} {batch : Batch}
    (h : ((e.evaluate g size []).dialogue source).run pool = ((.ok batch, s), left))
    (chunks : List (Nat × RandomSource)) :
    runChunks g e ((size, source) :: chunks) pool =
      ((runChunks g e chunks left).1.map (batch.toArray ++ ·), (runChunks g e chunks left).2) := by
  rw [runChunks, Generator.outcome_eq, h]
  dsimp only
  split
  · next eq => rw [eq, Except.map]
  · next eq => rw [eq, Except.map]

/-- Behind workers that are left alone, the others carry out their chunks one by one. -/
theorem exists_run_chunks (chunks : List (Nat × RandomSource))
    (before : List (Worker (Except Fault Batch × RandomSource))) (c : ChunkCrew)
    (h : c.workers = before ++
      chunks.map fun chunk => .free ((e.evaluate g chunk.1 []).dialogue chunk.2)) :
    ∃ schedule rest,
      ends (c.run schedule) = before.map (fun w => w.result?.map Prod.fst) ++ rest ∧
      (c.run schedule).pool = (runChunks g e chunks c.pool).2 ∧
      (∀ i ∈ schedule, ∃ r, (ends (c.run schedule))[i]? = some (some r)) ∧
      ((∃ batches, (runChunks g e chunks c.pool).1 = .ok (joined batches) ∧
          rest = batches.map fun b => some (.ok b)) ∨
        ∃ fault, (runChunks g e chunks c.pool).1 = .error fault ∧ some (.error fault) ∈ rest) := by
  induction chunks generalizing before c with
  | nil =>
    refine ⟨[], [], ?_, rfl, by simp, .inl ⟨[], rfl, rfl⟩⟩
    rw [Crew.run_nil, ends, h, List.map_append]
    rfl
  | cons chunk chunks ih =>
    obtain ⟨size, source⟩ := chunk
    rw [List.map_cons] at h
    have here : c.workers[before.length]? =
        some (.free ((e.evaluate g size []).dialogue source)) := by
      rw [h, List.getElem?_append_right (le_refl _), Nat.sub_self]
      rfl
    obtain ⟨first, record, alone, first_run⟩ := Crew.exists_run_dialogue _ here
    rw [h, List.set_append_right _ _ (le_refl _), Nat.sub_self, List.set_cons_zero] at first_run
    obtain ⟨⟨⟨result, s⟩, left⟩, outcome⟩ :
      ∃ r, ((e.evaluate g size []).dialogue source).run c.pool = r := ⟨_, rfl⟩
    rw [outcome] at first_run
    cases result with
    | error fault =>
      refine ⟨first, some (.error fault) :: chunks.map fun chunk =>
        (Worker.free ((e.evaluate g chunk.1 []).dialogue chunk.2)).result?.map Prod.fst,
        ?_, ?_, ?_, .inr ⟨fault, ?_, List.mem_cons_self⟩⟩
      · rw [first_run, ends, List.map_append, List.map_cons, List.map_map]
        rfl
      · rw [first_run, runChunks_of_error outcome]
      · intro i hi
        rw [alone i hi, first_run, ends, List.getElem?_map,
          List.getElem?_append_right (le_refl _), Nat.sub_self]
        exact ⟨.error fault, rfl⟩
      · rw [runChunks_of_error outcome]
    | ok batch =>
      -- The worker of this chunk joins those that are left alone.
      obtain ⟨schedule, rest, all, pool, settled, result⟩ :=
        ih (before ++ [.free (.finished (.ok batch, s))]) (c.run first) (by
          rw [first_run, List.append_assoc]
          rfl)
      have chunk_end : (ends ((c.run first).run schedule))[before.length]? =
          some (some (.ok batch)) := by
        rw [all, List.map_append, List.append_assoc,
          List.getElem?_append_right (by rw [List.length_map]), List.length_map, Nat.sub_self]
        rfl
      rw [first_run] at pool result
      refine ⟨first ++ schedule, some (.ok batch) :: rest, ?_, ?_, ?_, ?_⟩
      · rw [Crew.run_append, all, List.map_append, List.append_assoc]
        rfl
      · rw [Crew.run_append, first_run, pool, runChunks_of_ok outcome]
      · intro i hi
        rw [Crew.run_append]
        rw [List.mem_append] at hi
        obtain hi | hi := hi
        · rw [alone i hi]
          exact ⟨.ok batch, chunk_end⟩
        · exact settled i hi
      · rw [runChunks_of_ok outcome]
        obtain ⟨batches, ok, rest_eq⟩ | ⟨fault, error, mem⟩ := result
        · refine .inl ⟨batch :: batches, ?_, by rw [rest_eq, List.map_cons]⟩
          change Except.map _ (runChunks g e chunks left).1 = _
          rw [ok]
          rfl
        · refine .inr ⟨fault, ?_, List.mem_cons_of_mem _ mem⟩
          change Except.map _ (runChunks g e chunks left).1 = _
          rw [error]
          rfl

/-- Evaluating the chunks one after the other is an attempt. -/
theorem attempt_runChunks (g : Grammar) (e : Expr) (chunks : List (Nat × RandomSource))
    (pool : Pool) :
    Attempt g e chunks pool (runChunks g e chunks pool).1 (runChunks g e chunks pool).2 := by
  obtain ⟨schedule, rest, all, left, settled, result⟩ :=
    exists_run_chunks (g := g) (e := e) chunks [] (crew g e chunks pool) (by
      rw [crew, Crew.start, List.map_map]
      rfl)
  rw [List.map_nil, List.nil_append] at all
  change ((crew g e chunks pool).run schedule).pool = (runChunks g e chunks pool).2 at left
  rw [← left]
  obtain ⟨batches, ok, rest_eq⟩ | ⟨fault, error, mem⟩ := result
  · change (runChunks g e chunks pool).1 = _ at ok
    rw [ok]
    exact .succeeded schedule batches (all.trans rest_eq)
  · change (runChunks g e chunks pool).1 = _ at error
    rw [error]
    exact .failed schedule fault (all ▸ mem) settled

theorem runs_run_of_applies {p : Partition} {total : Nat} (chunked : p.applies e total = true)
    (master : RandomSource) (pool : Pool) :
    p.Runs g e total master pool (some (runChunks g e (p.chunks total master).1 pool).1)
      (p.run g e total master pool) := by
  rw [run, chunked]
  exact .split chunked (attempt_runChunks g e (p.chunks total master).1 pool)

/-- What `run` does is among what a statement can come to. -/
theorem exists_runs_run (p : Partition) (g : Grammar) (e : Expr) (total : Nat)
    (master : RandomSource) (pool : Pool) :
    ∃ attempted, p.Runs g e total master pool attempted (p.run g e total master pool) := by
  cases chunked : p.applies e total with
  | false =>
    refine ⟨none, ?_⟩
    rw [run, chunked]
    exact .whole chunked
  | true => exact ⟨_, runs_run_of_applies chunked master pool⟩

/-! ### After a failed attempt -/

/-- However an attempt went, the pool can be put back as if it had not been made. -/
theorem Attempt.restore {chunks : List (Nat × RandomSource)} {pool drained : Pool}
    {result : Except Fault (Array Value)} (h : Attempt g e chunks pool result drained) :
    drained.restore pool.checkpoint = pool := by
  cases h with
  | succeeded schedule batches all =>
    exact Pool.restore_checkpoint ((crew g e chunks pool).keys_prefix_run schedule)
  | failed schedule fault some_chunk settled =>
    exact Pool.restore_checkpoint ((crew g e chunks pool).keys_prefix_run schedule)

section Failed

variable {p : Partition} {total : Nat} {master : RandomSource} {pool : Pool} {fault : Fault}
  {o : Outcome Batch} (h : p.Runs g e total master pool (some (.error fault)) o)

include h

theorem Runs.eq_runWhole (shortage : fault.isShortage = true) :
    o = runWhole g e total (p.chunks total master).2 pool := by
  cases h with
  | split chunked attempt => rw [conclude, attempt.restore, if_pos shortage]

theorem Runs.eq_fault (other : fault.isShortage = false) :
    o = ⟨.error fault, (p.chunks total master).2, pool⟩ := by
  cases h with
  | split chunked attempt => rw [conclude, attempt.restore, if_neg (Bool.eq_false_iff.1 other)]

end Failed

theorem run_of_workers_le_one {p : Partition} (single : p.workers ≤ 1) (g : Grammar) (e : Expr)
    (total : Nat) (master : RandomSource) (pool : Pool) :
    p.run g e total master pool = runWhole g e total master pool := by
  have one_piece : p.applies e total = false :=
    Bool.eq_false_iff.2 fun chunked => absurd (applies_iff.1 chunked).1 (Nat.not_lt.2 single)
  rw [run, one_piece]
  rfl

/-- Without threads a statement can come to one thing only, which is what a single worker makes of it. -/
theorem runs_iff_of_not_threads {p : Partition} (refused : p.threads = false) {total : Nat}
    {master : RandomSource} {pool : Pool} {attempted : Option (Except Fault (Array Value))}
    {o : Outcome Batch} :
    p.Runs g e total master pool attempted o ↔
      attempted = none ∧ o = ({ p with workers := 1 } : Partition).run g e total master pool := by
  have one_piece : p.applies e total = false := by
    rw [applies, refused, Bool.and_false]
  rw [run_of_workers_le_one (le_refl 1)]
  constructor
  · intro runs
    cases runs with
    | whole => exact ⟨rfl, rfl⟩
    | split chunked attempt =>
      rw [one_piece] at chunked
      cases chunked
  · rintro ⟨rfl, rfl⟩
    exact .whole one_piece

/-- A statement whose attempt has failed leaves no trace of it but the words that were taken for its
chunks: after a shortage it is what a single worker makes of it, after any other fault it is that
fault. -/
theorem run_of_failed_attempt {p : Partition} {g : Grammar} {e : Expr} {total : Nat}
    {master : RandomSource} {pool : Pool} {fault : Fault} {o : Outcome Batch}
    (h : p.Runs g e total master pool (some (.error fault)) o) :
    let advanced := (master.draws RandomSource.nextLong p.workers).2
    (fault.isShortage = true →
      o = ({ p with workers := 1 } : Partition).run g e total advanced pool) ∧
    (fault.isShortage = false → o = ⟨.error fault, advanced, pool⟩) := by
  cases h with
  | split chunked attempt =>
    rw [conclude, attempt.restore, chunks_snd]
    constructor
    · intro shortage
      rw [if_pos shortage, run_of_workers_le_one (le_refl 1)]
    · intro other
      rw [if_neg (Bool.eq_false_iff.1 other)]

/-- The first of two chunks takes the only candidate, the second is refused. -/
theorem run_of_failed_attempt_of_last_candidate :
    let e := Expr.call "one_of_unique" [.list [.literal (.text "a") 1] 1] 1
    let master := RandomSource.ofSeed 0
    (∃ fault, fault.isShortage = true ∧
      Runs ⟨2, 0, true⟩ ∅ e 2 master ∅ (some (.error fault)) (run ⟨2, 0, true⟩ ∅ e 2 master ∅)) ∧
    run ⟨2, 0, true⟩ ∅ e 2 master ∅ =
      run ⟨1, 0, true⟩ ∅ e 2 (master.draws RandomSource.nextLong 2).2 ∅ := by
  intro e master
  let draw (s : RandomSource) : Pool.Request := ⟨⟨none, [.text "a"]⟩, .one, 1, s⟩
  have evaluates (s : RandomSource) (p : Pool) : ((e.evaluate ∅ 1 []).dialogue s).run p =
      ((match (p.answer (draw s)).1 with
        | ⟨.ok drawn, s⟩ => (.ok (.varying #[drawn.getD 0 default]), s)
        | ⟨.error fault, s⟩ => (.error fault, s)), (p.answer (draw s)).2) := by
    simp only [e, Expr.evaluate, Expr.evaluateAll, pure_bind]
    show (Dialogue.run (.ask (draw s) _) p) = _
    rw [Dialogue.run]
    obtain ⟨⟨outcome, s⟩, left⟩ := p.answer (draw s)
    cases outcome with
    | ok drawn => rfl
    | error fault => rfl
  obtain ⟨first, second, advanced, chunks⟩ :
      ∃ first second advanced, chunks ⟨2, 0, true⟩ 2 master = ([(1, first), (1, second)], advanced) :=
    ⟨_, _, _, rfl⟩
  have one : (draw first).demand.amount ≤ ((∅ : Pool).left (draw first).key).size :=
    Nat.le_refl 1
  obtain ⟨values, s, granted, -⟩ := Pool.serve_granted one
  rw [← Pool.answer_fst] at granted
  have nothing : (((∅ : Pool).answer (draw first)).2.left (draw second).key).size <
      (draw second).demand.amount := by
    have taken := Pool.size_serve_of_granted one
    rw [Pool.left_answer, if_pos rfl]
    exact Nat.lt_of_lt_of_eq (Nat.lt_succ_self _) taken
  obtain ⟨fault, shortage, refused⟩ := Pool.serve_refused nothing
  have refused : (((∅ : Pool).answer (draw first)).2.answer (draw second)).1 =
      ⟨.error fault, second⟩ := by
    rw [Pool.answer_fst, refused]
  have failed : (runChunks ∅ e (Partition.chunks ⟨2, 0, true⟩ 2 master).1 ∅).1 = .error fault := by
    have first_ok := evaluates first ∅
    have second_fails := evaluates second ((∅ : Pool).answer (draw first)).2
    rw [granted] at first_ok
    rw [refused] at second_fails
    rw [chunks, runChunks_of_ok first_ok, runChunks_of_error second_fails]
    rfl
  have attempt := attempt_runChunks ∅ e (Partition.chunks ⟨2, 0, true⟩ 2 master).1 ∅
  rw [failed] at attempt
  have runs : Runs ⟨2, 0, true⟩ ∅ e 2 master ∅ (some (.error fault)) (run ⟨2, 0, true⟩ ∅ e 2 master ∅) := by
    have chunked : applies ⟨2, 0, true⟩ e 2 = true := rfl
    rw [run, if_pos chunked]
    dsimp only
    rw [failed]
    exact .split chunked attempt
  exact ⟨⟨fault, shortage, runs⟩, (run_of_failed_attempt runs).1 shortage⟩

end Partition

end Phrasemill
