import Phrasemill.Evaluation

/-!
# Split evaluation

A large print statement is split into chunks, one for each worker. Every chunk is evaluated with a
random source of its own, forked from the master source before any chunk begins, and the values are
put together in the order of the chunks. The pool is shared.

The machine may have no threads for the workers. Then there are no chunks: nothing is forked for them,
and the statement is evaluated in one piece.

If a chunk faults, the pool goes back to what it was before the statement. Where the fault is a
shortage of unique candidates the whole statement is evaluated again in one piece, so that the counts
it reports are those of the statement and not of a chunk.
-/

namespace Phrasemill

/-- When and how evaluation is split. -/
structure Partition where
  workers : Nat
  threshold : Nat
  /-- Whether there are threads for the workers. -/
  threads : Bool := true

namespace Partition

/-- The sizes of `workers` chunks of `total` repetitions: equal parts, the last with the rest. -/
def chunkSizes (total workers : Nat) : List Nat :=
  let workers := max workers 1
  let base := total / workers
  List.replicate (workers - 1) base ++ [total - base * (workers - 1)]

/-- Whether an expression is split: the chunks are many, the repetitions enough, the expression is
more than a constant, and the workers have threads. -/
def applies (p : Partition) (e : Expr) (total : Nat) : Bool :=
  decide (1 < p.workers) && decide (p.threshold ≤ total) && !e.isLiteral && p.threads

theorem applies_iff {p : Partition} {e : Expr} {total : Nat} :
    p.applies e total = true ↔
      1 < p.workers ∧ p.threshold ≤ total ∧ e.isLiteral = false ∧ p.threads = true := by
  simp [applies, and_assoc]

/-- The chunks of a statement with their sources, and the master source after them. -/
def chunks (p : Partition) (total : Nat) (master : RandomSource) :
    List (Nat × RandomSource) × RandomSource :=
  let (sources, master) := master.draws RandomSource.fork p.workers
  ((chunkSizes total p.workers).zip sources.toList, master)

/-- Evaluates chunks one after the other up to the first fault. -/
def runChunks (g : Grammar) (e : Expr) :
    List (Nat × RandomSource) → Pool → Except Fault (Array Value) × Pool
  | [], pool => (.ok #[], pool)
  | (size, source) :: chunks, pool =>
    match (e.evaluate g size []).outcome source pool with
    | ⟨.error fault, _, pool⟩ => (.error fault, pool)
    | ⟨.ok batch, _, pool⟩ =>
      match runChunks g e chunks pool with
      | (.ok values, pool) => (.ok (batch.toArray ++ values), pool)
      | (.error fault, pool) => (.error fault, pool)

/-- Evaluates in one piece, from a source forked from the master source. -/
def runWhole (g : Grammar) (e : Expr) (total : Nat) (master : RandomSource) (pool : Pool) :
    Outcome Batch :=
  let (source, master) := master.fork
  let outcome := (e.evaluate g total []).outcome source pool
  { outcome with source := master }

/-- What becomes of a statement whose chunks were tried on `pool` with a result and left `drained`
behind: a fault puts the pool back, and a shortage has the whole statement evaluated again. -/
def conclude (g : Grammar) (e : Expr) (total : Nat) (master : RandomSource) (pool : Pool) :
    Except Fault (Array Value) → (drained : Pool) → Outcome Batch
  | .ok values, drained => ⟨.ok (.varying values), master, drained⟩
  | .error fault, drained =>
    let pool := drained.restore pool.checkpoint
    if fault.isShortage then runWhole g e total master pool else ⟨.error fault, master, pool⟩

/-- Evaluates an expression for `total` repetitions, split where the partition says so. Where it would
be split but for want of threads, the master source is as if there were a single worker. -/
def run (p : Partition) (g : Grammar) (e : Expr) (total : Nat) (master : RandomSource)
    (pool : Pool) : Outcome Batch :=
  if p.applies e total then
    let (chunks, master) := p.chunks total master
    let (result, drained) := runChunks g e chunks pool
    conclude g e total master pool result drained
  else runWhole g e total master pool

end Partition

end Phrasemill
