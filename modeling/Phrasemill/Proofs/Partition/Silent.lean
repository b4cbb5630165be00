import Mathlib
import Phrasemill.Proofs.Alignment
import Phrasemill.Proofs.Partition.Attempt
import Phrasemill.Proofs.Quiet

/-!
# Statements that draw nothing

The chunks of a statement whose expression reaches no draw have nothing to do with each other, nor
with the pool: their workers are done as soon as they begin. So a statement can come to the same
things whatever the pool holds, it leaves the pool as it is, and what it comes to is put together
from what its chunks come to alone (`runs_iff_of_drawsNothing`).
-/

namespace Phrasemill

/-- Nobody steps any more when all workers are done. -/
theorem Crew.run_of_finished {α : Type} {c : Crew α}
    (h : ∀ w ∈ c.workers, ∃ a, w = .free (.finished a)) (schedule : List Nat) :
    c.run schedule = c := by
  refine run_induction (P := (· = c)) (fun d i same => ?_) rfl schedule
  subst same
  obtain passes | ⟨request, resume, found, -⟩ | ⟨request, resume, found, -⟩ := d.step_cases i
  · exact passes
  · obtain ⟨a, done⟩ := h _ (List.mem_of_getElem? found)
    cases done
  · obtain ⟨a, done⟩ := h _ (List.mem_of_getElem? found)
    cases done

namespace Partition

/-- What a chunk comes to by itself, with a pool that nobody has drawn from. -/
def chunkAlone (g : Grammar) (e : Expr) (chunk : Nat × RandomSource) : Except Fault Batch :=
  ((e.evaluate g chunk.1 []).outcome chunk.2 ∅).result

/-- What the chunks of a statement come to, each by itself with a source that is seeded by its long
word of the master source. -/
def alone (p : Partition) (g : Grammar) (e : Expr) (total : Nat) (master : RandomSource) :
    List (Except Fault Batch) :=
  List.zipWith (fun size seed => chunkAlone g e (size, .ofSeed seed)) (chunkSizes total p.workers)
    (master.draws RandomSource.nextLong p.workers).1.toList

theorem alone_eq (p : Partition) (g : Grammar) (e : Expr) (total : Nat) (master : RandomSource) :
    p.alone g e total master = (p.chunks total master).1.map (chunkAlone g e) := by
  rw [chunks_fst, List.map_zipWith]
  rfl

theorem size_joined (batches : List Batch) :
    (joined batches).size = (batches.map Batch.size).sum := by
  induction batches with
  | nil => rfl
  | cons batch batches ih =>
    rw [List.map_cons, List.sum_cons, ← ih, ← Batch.size_toArray, ← Array.size_append]
    rfl

variable {g : Grammar} {e : Expr}

/-- Chunks that succeed have the values of all their repetitions between them. -/
theorem size_joined_of_chunks {chunks : List (Nat × RandomSource)} {batches : List Batch}
    (all : chunks.map (chunkAlone g e) = batches.map .ok) :
    (joined batches).size = (chunks.map Prod.fst).sum := by
  rw [size_joined]
  congr 1
  induction chunks generalizing batches with
  | nil =>
    rw [List.map_eq_nil_iff.1 all.symm]
    rfl
  | cons chunk chunks ih =>
    obtain ⟨batch, batches, rfl, first, others⟩ := List.map_eq_cons_iff.1 all.symm
    have size := Expr.returns_size_evaluate e _ _ batch first.symm
    rw [List.map_cons, List.map_cons, size, ih others.symm]

theorem size_joined_of_alone {p : Partition} {total : Nat} {master : RandomSource}
    (several : 1 < p.workers) {batches : List Batch}
    (all : p.alone g e total master = batches.map .ok) : (joined batches).size = total := by
  rw [alone_eq] at all
  rw [size_joined_of_chunks all, map_fst_chunks (Nat.zero_lt_of_lt several), sum_chunkSizes]

section

variable (silent : e.DrawsNothing g)

include silent

theorem not_shortage_of_mem_map_chunkAlone {chunks : List (Nat × RandomSource)} {fault : Fault}
    (mem : .error fault ∈ chunks.map (chunkAlone g e)) : fault.isShortage = false := by
  obtain ⟨chunk, -, result⟩ := List.mem_map.1 mem
  exact (Expr.quiet_evaluate silent).neverShort chunk.2 ∅ fault result

/-- The workers are done as soon as they begin. -/
theorem run_crew_of_drawsNothing (chunks : List (Nat × RandomSource)) (pool : Pool)
    (schedule : List Nat) : (crew g e chunks pool).run schedule = crew g e chunks pool := by
  refine Crew.run_of_finished (fun w mem => ?_) schedule
  rw [crew, Crew.start, List.map_map, List.mem_map] at mem
  obtain ⟨chunk, -, rfl⟩ := mem
  exact ⟨_, congrArg Worker.free ((Expr.quiet_evaluate silent).dialogue_eq chunk.2)⟩

theorem ends_crew_of_drawsNothing (chunks : List (Nat × RandomSource)) (pool : Pool) :
    ends (crew g e chunks pool) = (chunks.map (chunkAlone g e)).map some := by
  rw [ends, crew, Crew.start, List.map_map, List.map_map, List.map_map]
  refine List.map_congr_left fun chunk _ => ?_
  rw [Function.comp_apply, Function.comp_apply, (Expr.quiet_evaluate silent).dialogue_eq]
  rfl

/-- An attempt comes to what its chunks come to alone, and nothing is taken for it. -/
theorem attempt_iff_of_drawsNothing {chunks : List (Nat × RandomSource)} {pool drained : Pool}
    {result : Except Fault (Array Value)} :
    Attempt g e chunks pool result drained ↔ drained = pool ∧
      ((∃ batches, chunks.map (chunkAlone g e) = batches.map .ok ∧ result = .ok (joined batches)) ∨
        ∃ fault, .error fault ∈ chunks.map (chunkAlone g e) ∧ result = .error fault) := by
  have stays := run_crew_of_drawsNothing silent chunks pool
  have ended := ends_crew_of_drawsNothing silent chunks pool
  constructor
  · intro attempt
    cases attempt with
    | succeeded schedule batches all =>
      rw [stays] at all ⊢
      have all : (chunks.map (chunkAlone g e)).map some = (batches.map .ok).map some := by
        rw [← ended, all, List.map_map]
        rfl
      exact ⟨rfl, .inl ⟨batches, List.map_injective_iff.2 (Option.some_injective _) all, rfl⟩⟩
    | failed schedule fault some_chunk settled =>
      rw [stays] at some_chunk ⊢
      rw [ended, List.mem_map_of_injective (Option.some_injective _)] at some_chunk
      exact ⟨rfl, .inr ⟨fault, some_chunk, rfl⟩⟩
  · rintro ⟨rfl, ⟨batches, all, rfl⟩ | ⟨fault, mem, rfl⟩⟩
    · refine .succeeded [] batches ?_
      rw [stays, ended, all, List.map_map]
      rfl
    · refine .failed [] fault ?_ fun i mem => absurd mem List.not_mem_nil
      rw [stays, ended]
      exact List.mem_map_of_mem mem

variable {p : Partition} {total : Nat} {master : RandomSource} {pool : Pool}
  {attempted : Option (Except Fault (Array Value))} {o : Outcome Batch}

/-- In chunks, the statement comes to what these come to, or to the fault of one. -/
theorem runs_iff_of_applies (chunked : p.applies e total = true) :
    p.Runs g e total master pool attempted o ↔
      (∃ batches, p.alone g e total master = batches.map .ok ∧
        attempted = some (.ok (joined batches)) ∧
        o = ⟨.ok (.varying (joined batches)), (p.chunks total master).2, pool⟩) ∨
      ∃ fault, .error fault ∈ p.alone g e total master ∧ attempted = some (.error fault) ∧
        o = ⟨.error fault, (p.chunks total master).2, pool⟩ := by
  rw [alone_eq]
  constructor
  · intro runs
    cases runs with
    | whole one_piece =>
      rw [chunked] at one_piece
      cases one_piece
    | split _ attempt =>
      obtain ⟨rfl, ⟨batches, all, rfl⟩ | ⟨fault, mem, rfl⟩⟩ :=
        (attempt_iff_of_drawsNothing silent).1 attempt
      · exact .inl ⟨batches, all, rfl, rfl⟩
      · refine .inr ⟨fault, mem, rfl, ?_⟩
        exact (Runs.split chunked attempt).eq_fault (not_shortage_of_mem_map_chunkAlone silent mem)
  · rintro (⟨batches, all, rfl, rfl⟩ | ⟨fault, mem, rfl, rfl⟩)
    · exact .split chunked ((attempt_iff_of_drawsNothing silent).2 ⟨rfl, .inl ⟨batches, all, rfl⟩⟩)
    · have runs : p.Runs g e total master pool _ _ := .split chunked
        ((attempt_iff_of_drawsNothing silent).2 ⟨rfl, .inr ⟨fault, mem, rfl⟩⟩)
      exact runs.eq_fault (not_shortage_of_mem_map_chunkAlone silent mem) ▸ runs

end

/-- Where not all chunks succeed there is a fault. -/
theorem exists_error_of_ne_map_ok {results : List (Except Fault Batch)}
    (h : ∀ batches : List Batch, results ≠ batches.map .ok) : ∃ fault, .error fault ∈ results := by
  induction results with
  | nil => exact absurd rfl (h [])
  | cons result results ih =>
    cases result with
    | error fault => exact ⟨fault, List.mem_cons_self⟩
    | ok batch =>
      obtain ⟨fault, mem⟩ := ih fun batches all => h (batch :: batches) (by rw [all, List.map_cons])
      exact ⟨fault, List.mem_cons_of_mem _ mem⟩

theorem not_error_of_map_ok {batches : List Batch} {fault : Fault} :
    Except.error fault ∉ batches.map Except.ok := by
  intro mem
  obtain ⟨batch, -, same⟩ := List.mem_map.1 mem
  cases same

/-- A statement in chunks, which have threads, that reaches no draw comes to the same with every pool
and leaves it as it is: to the values of its chunks in order if these succeed alone, else to the fault
of one. -/
theorem runs_iff_of_drawsNothing {p : Partition} {g : Grammar} {e : Expr} {total : Nat}
    {master : RandomSource} (silent : e.DrawsNothing g) (several : 1 < p.workers)
    (many : p.threshold ≤ total) (compound : e.isLiteral = false) (threads : p.threads = true) :
    let advanced := (master.draws RandomSource.nextLong p.workers).2
    (∀ batches : List Batch, p.alone g e total master = batches.map .ok →
      (joined batches).size = total ∧
      ∀ pool attempted o, p.Runs g e total master pool attempted o ↔
        attempted = some (.ok (joined batches)) ∧
          o = ⟨.ok (.varying (joined batches)), advanced, pool⟩) ∧
    ((∀ batches : List Batch, p.alone g e total master ≠ batches.map .ok) →
      (∃ fault, .error fault ∈ p.alone g e total master) ∧
      ∀ pool attempted o, p.Runs g e total master pool attempted o ↔
        ∃ fault, .error fault ∈ p.alone g e total master ∧ attempted = some (.error fault) ∧
          o = ⟨.error fault, advanced, pool⟩) := by
  have chunked : p.applies e total = true := applies_iff.2 ⟨several, many, compound, threads⟩
  rw [← chunks_snd p total]
  refine ⟨fun batches all => ⟨size_joined_of_alone several all, fun pool attempted o => ?_⟩,
    fun not_all => ⟨exists_error_of_ne_map_ok not_all, fun pool attempted o => ?_⟩⟩
  · rw [runs_iff_of_applies silent chunked, all]
    constructor
    · rintro (⟨batches', same, done⟩ | ⟨fault, mem, -⟩)
      · rw [List.map_injective_iff.2 (fun _ _ => Except.ok.inj) same]
        exact done
      · exact absurd mem not_error_of_map_ok
    · exact fun done => .inl ⟨batches, rfl, done⟩
  · rw [runs_iff_of_applies silent chunked]
    constructor
    · rintro (⟨batches, all, -⟩ | failed)
      · exact absurd all (not_all batches)
      · exact failed
    · exact .inr

/-- Three rolls of a die that is looked up, in two chunks. -/
theorem runs_iff_of_drawsNothing_of_die :
    let roll := Expr.method (.reference "number" 1) "between"
      [.literal (.integer 1) 1, .literal (.integer 6) 1] 1
    let g := (∅ : Grammar).define "die" roll
    let e := Expr.reference "die" 2
    e.DrawsNothing g ∧ e.isLiteral = false ∧
      ∃ batches, alone ⟨2, 0, true⟩ g e 3 (.ofSeed 0) = batches.map .ok ∧
        (joined batches).size = 3 ∧
        ∀ pool, ∃ o, Runs ⟨2, 0, true⟩ g e 3 (.ofSeed 0) pool (some (.ok (joined batches))) o ∧
          o.pool = pool := by
  intro roll g e
  have found : g.find? "die" = some roll := rfl
  have silent : e.DrawsNothing g :=
    Expr.everywhere_reference trivial found (Expr.everywhere_method (by decide)
      (Expr.everywhere_category trivial rfl)
      (Expr.everywhere_literals (fun _ => trivial) [.integer 1, .integer 6]))
  have rolls (n : Nat) (s : RandomSource) : ∃ batch, chunkAlone g e (n, s) = .ok batch := by
    have bounds : Expr.evaluateAll g n ["die"] [.literal (.integer 1) 1, .literal (.integer 6) 1] =
        pure (Batch.constants [.integer 1, .integer 6] n) :=
      Expr.evaluateAll_eq_pure g n ["die"] (.cons (Expr.evaluate_literal g n _ _ 1)
        (.cons (Expr.evaluate_literal g n _ _ 1) .nil))
    rw [chunkAlone, Expr.evaluate_reference g n [] rfl, found]
    dsimp only
    rw [if_neg List.not_mem_nil, Expr.evaluate_method g n ["die"]
      (Expr.evaluate_category g n ["die"] rfl 1) rfl rfl bounds rfl]
    exact ⟨_, rfl⟩
  obtain ⟨first, second, alone_eq⟩ : ∃ first second,
      alone ⟨2, 0, true⟩ g e 3 (.ofSeed 0) = [chunkAlone g e (1, first), chunkAlone g e (2, second)] :=
    ⟨_, _, rfl⟩
  obtain ⟨one, first_ok⟩ := rolls 1 first
  obtain ⟨two, second_ok⟩ := rolls 2 second
  have all : alone ⟨2, 0, true⟩ g e 3 (.ofSeed 0) = [one, two].map .ok := by
    rw [alone_eq, first_ok, second_ok]
    rfl
  obtain ⟨size, outcomes⟩ := (runs_iff_of_drawsNothing (p := ⟨2, 0, true⟩) silent Nat.one_lt_two
    (Nat.zero_le 3) rfl rfl).1 _ all
  exact ⟨silent, rfl, _, all, size, fun pool => ⟨_, (outcomes pool _ _).2 ⟨rfl, rfl⟩, rfl⟩⟩

end Partition

end Phrasemill
