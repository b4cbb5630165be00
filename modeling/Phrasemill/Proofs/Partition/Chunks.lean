import Mathlib
import Phrasemill.Partition

/-!
# Chunks

The chunks of a statement have all of its repetitions between them, and splitting it takes as many
long words of the master source as there are workers.
-/

namespace Phrasemill

namespace RandomSource

variable {α β : Type}

/-- Drawing and then mapping what was drawn. -/
theorem repeatDraw_map (draw : RandomSource → α × RandomSource) (f : α → β) (count : Nat)
    (drawn : Array α) (s : RandomSource) :
    repeatDraw (fun s => (f (draw s).1, (draw s).2)) count (drawn.map f) s =
      ((repeatDraw draw count drawn s).1.map f, (repeatDraw draw count drawn s).2) := by
  induction count generalizing s drawn with
  | zero => rfl
  | succ count ih =>
    rw [repeatDraw, repeatDraw]
    dsimp only
    rw [← Array.map_push, ih]

/-- The sources that are forked one after the other are seeded by consecutive long words. -/
theorem draws_fork (count : Nat) (s : RandomSource) :
    s.draws fork count =
      ((s.draws nextLong count).1.map ofSeed, (s.draws nextLong count).2) := by
  have by_seed : fork = fun s => (ofSeed (nextLong s).1, (nextLong s).2) := rfl
  rw [draws, draws, by_seed, ← repeatDraw_map, Array.map_empty]

theorem size_repeatDraw (draw : RandomSource → α × RandomSource) (count : Nat) (drawn : Array α)
    (s : RandomSource) : (repeatDraw draw count drawn s).1.size = drawn.size + count := by
  induction count generalizing s drawn with
  | zero => rfl
  | succ count ih =>
    rw [repeatDraw]
    dsimp only
    rw [ih, Array.size_push]
    omega

theorem size_draws (draw : RandomSource → α × RandomSource) (count : Nat) (s : RandomSource) :
    (s.draws draw count).1.size = count := by
  rw [draws, size_repeatDraw, Array.size_empty, Nat.zero_add]

end RandomSource

namespace Partition

/-- Splitting a statement takes one long word of the master source for each worker. -/
theorem chunks_snd (p : Partition) (total : Nat) (master : RandomSource) :
    (p.chunks total master).2 = (master.draws RandomSource.nextLong p.workers).2 := by
  rw [chunks, RandomSource.draws_fork]

/-- Each chunk has a source seeded by its long word. -/
theorem chunks_fst (p : Partition) (total : Nat) (master : RandomSource) :
    (p.chunks total master).1 =
      List.zipWith (fun size seed => (size, .ofSeed seed)) (chunkSizes total p.workers)
        (master.draws RandomSource.nextLong p.workers).1.toList := by
  rw [chunks, RandomSource.draws_fork]
  dsimp only
  rw [Array.toList_map, List.zip, List.zipWith_map_right]

theorem length_chunkSizes {total workers : Nat} (h : 0 < workers) :
    (chunkSizes total workers).length = workers := by
  rw [chunkSizes, Nat.max_eq_left h, List.length_append, List.length_replicate]
  exact Nat.sub_add_cancel h

/-- The chunks have all repetitions between them. -/
theorem sum_chunkSizes (total workers : Nat) : (chunkSizes total workers).sum = total := by
  rw [chunkSizes, List.sum_append, List.sum_replicate, List.sum_singleton, smul_eq_mul, Nat.mul_comm]
  refine Nat.add_sub_cancel' ?_
  calc total / max workers 1 * (max workers 1 - 1)
      ≤ total / max workers 1 * max workers 1 := Nat.mul_le_mul_left _ (Nat.sub_le _ 1)
    _ ≤ total := Nat.div_mul_le_self total _

theorem map_fst_chunks {p : Partition} (h : 0 < p.workers) (total : Nat) (master : RandomSource) :
    (p.chunks total master).1.map Prod.fst = chunkSizes total p.workers := by
  refine List.map_fst_zip ?_
  rw [length_chunkSizes h, Array.length_toList]
  exact Nat.le_of_eq (RandomSource.size_draws RandomSource.fork p.workers master).symm

end Partition

end Phrasemill
