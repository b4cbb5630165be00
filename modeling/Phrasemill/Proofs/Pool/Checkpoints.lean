import Mathlib
import Phrasemill.Proofs.Pool.Entries

/-!
# Going back to a checkpoint

A pool that is drawn from, recorded and put back again, in any order. Whatever happens to it after a
checkpoint, checkpoints that are taken later and returns to earlier or later ones included, a return
to that checkpoint gives every key what was recorded of it, and entries to no other key
(`Ledger.restore_run`).

The keys need not come back in the order of their first draws, since a key that was dropped in between
is added again behind the others. Nothing can be seen of that: pools that agree on every key answer
all draws alike (`Agrees.answers`).
-/

namespace Phrasemill

namespace Pool

/-! ### Pools that agree -/

/-- The pools have the same keys, with the same candidates left in the same order. -/
def Agrees (p q : Pool) : Prop := ∀ k, p.find? k = q.find? k

namespace Agrees

variable {p q : Pool}

theorem left (h : p.Agrees q) (k : Key) : p.left k = q.left k := by
  rw [Pool.left, Pool.left, h k]

theorem remaining? (h : p.Agrees q) (k : Key) : p.remaining? k = q.remaining? k := by
  rw [Pool.remaining?, Pool.remaining?, h k]

theorem mem_keys_iff (h : p.Agrees q) {k : Key} : k ∈ p.keys ↔ k ∈ q.keys := by
  rw [← not_iff_not, ← find?_eq_none_iff, ← find?_eq_none_iff, h k]

theorem answer_fst (h : p.Agrees q) (r : Request) : (p.answer r).1 = (q.answer r).1 := by
  rw [Pool.answer_fst, Pool.answer_fst, h.left]

theorem answer_snd (h : p.Agrees q) (r : Request) : (p.answer r).2.Agrees (q.answer r).2 := by
  intro k
  rw [find?_answer, find?_answer, h.left, h k]

end Agrees

/-- A draw that will take its randomness from where the draw before it stopped. -/
structure Draw where
  key : Key
  demand : Demand
  line : Nat

def Draw.request (d : Draw) (s : RandomSource) : Request := ⟨d.key, d.demand, d.line, s⟩

/-- What draws get one after the other, whether they are granted or not, and what randomness and which
pool they leave. -/
def answers :
    List Draw → RandomSource → Pool → List (Except Fault (Array Value)) × RandomSource × Pool
  | [], s, p => ([], s, p)
  | d :: draws, s, p =>
    let (reply, p) := p.answer (d.request s)
    let (outcomes, s, p) := answers draws reply.source p
    (reply.outcome :: outcomes, s, p)

theorem answers_cons (d : Draw) (draws : List Draw) (s : RandomSource) (p : Pool) :
    answers (d :: draws) s p =
      ((p.answer (d.request s)).1.outcome ::
          (answers draws (p.answer (d.request s)).1.source (p.answer (d.request s)).2).1,
        (answers draws (p.answer (d.request s)).1.source (p.answer (d.request s)).2).2) := rfl

/-- Pools that agree answer all draws alike and go on agreeing. -/
theorem Agrees.answers {p q : Pool} (h : p.Agrees q) (draws : List Draw) (s : RandomSource) :
    (answers draws s p).1 = (answers draws s q).1 ∧
      (answers draws s p).2.1 = (answers draws s q).2.1 ∧
        (answers draws s p).2.2.Agrees (answers draws s q).2.2 := by
  induction draws generalizing s p q with
  | nil => exact ⟨rfl, rfl, h⟩
  | cons d draws ih =>
    have reply := h.answer_fst (d.request s)
    obtain ⟨outcomes, source, pool⟩ :=
      ih (h.answer_snd (d.request s)) (q.answer (d.request s)).1.source
    simp only [answers_cons, reply, outcomes, source, true_and]
    exact pool

/-! ### A pool and its checkpoints -/

/-- A pool with the checkpoints that were taken of it, in the order in which they were taken. -/
structure Ledger where
  pool : Pool
  taken : List Checkpoint

/-- What is done to a pool that is kept in a ledger. -/
inductive Move where
  | draw (r : Request)
  | checkpoint
  /-- Goes back to a checkpoint that has been taken, by its number. -/
  | restore (i : Nat)

namespace Ledger

def step (l : Ledger) : Move → Ledger
  | .draw r => { l with pool := (l.pool.answer r).2 }
  | .checkpoint => { l with taken := l.taken ++ [l.pool.checkpoint] }
  | .restore i =>
    match l.taken[i]? with
    | some c => { l with pool := l.pool.restore c }
    | none => l

def run (l : Ledger) (moves : List Move) : Ledger := moves.foldl step l

theorem taken_prefix_step (l : Ledger) (m : Move) : l.taken <+: (l.step m).taken := by
  cases m with
  | draw r => exact List.prefix_rfl
  | checkpoint => exact List.prefix_append l.taken _
  | restore i =>
    unfold step
    dsimp only
    split
    · exact List.prefix_rfl
    · exact List.prefix_rfl

/-- A checkpoint that was taken is kept. -/
theorem taken_prefix_run (l : Ledger) (moves : List Move) : l.taken <+: (l.run moves).taken := by
  induction moves generalizing l with
  | nil => exact List.prefix_rfl
  | cons m moves ih => exact (l.taken_prefix_step m).trans (ih (l.step m))

theorem pool_step_restore {l : Ledger} {i : Nat} {c : Checkpoint} (found : l.taken[i]? = some c) :
    (l.step (.restore i)).pool = l.pool.restore c := by
  simp only [step, found]

/-- The checkpoint that is taken next can be found under its number ever after. -/
theorem getElem?_taken_run (l : Ledger) (moves : List Move) :
    ((l.step .checkpoint).run moves).taken[l.taken.length]? = some l.pool.checkpoint := by
  obtain ⟨later, kept⟩ := taken_prefix_run (l.step .checkpoint) moves
  rw [← kept]
  simp [step]

/-- Once a checkpoint has been taken, anything may be done with the pool: going back to that
checkpoint, each key has again what it had, all other keys are gone, and all draws are answered as if
nothing had been done. -/
theorem restore_run (l : Ledger) (moves : List Move) :
    let back := (((l.step .checkpoint).run moves).step (.restore l.taken.length)).pool
    (∀ k, k ∈ back.keys ↔ k ∈ l.pool.keys) ∧
      (∀ k, back.find? k = l.pool.find? k) ∧
      (∀ k, back.remaining? k = l.pool.remaining? k) ∧
      ∀ draws s, (answers draws s back).1 = (answers draws s l.pool).1 ∧
        (answers draws s back).2.1 = (answers draws s l.pool).2.1 ∧
        ∀ k, (answers draws s back).2.2.find? k = (answers draws s l.pool).2.2.find? k := by
  intro back
  have restored : back = ((l.step .checkpoint).run moves).pool.restore l.pool.checkpoint :=
    pool_step_restore (l.getElem?_taken_run moves)
  have agrees : back.Agrees l.pool := by
    intro k
    rw [restored, find?_restore]
    rfl
  exact ⟨fun k => agrees.mem_keys_iff, agrees, agrees.remaining?, agrees.answers⟩

end Ledger

end Pool

end Phrasemill
