import Mathlib
import Phrasemill.Dialogue
import Phrasemill.Proofs.Pool.Entries
import Phrasemill.Proofs.Pool.Serving

/-!
# Workers at one pool

Several computations draw from one pool at the same time. Each of them is a dialogue, its worker
carries it on, and a draw takes the worker two steps: the first finds or makes the entry of the key,
the second takes candidates from it and goes on with the reply. Between the two any other worker may
take a step of its own. A schedule says whose step comes next, so a fact about all schedules is a fact
about all interleavings; a worker that is done, or that does not exist, lets its turn pass.

The same crew can also work in turns, each draw being answered at once by `Pool.answer`. The record of
a crew, the draws in the order of their second steps, says which turns those are.
-/

namespace Phrasemill

variable {α : Type}

/-- How far a worker has come. -/
inductive Worker (α : Type) where
  /-- It stands before its next draw, or is done. -/
  | free (dialogue : Dialogue α)
  /-- It has found the entry for its draw and will take candidates from it next. -/
  | entered (request : Pool.Request) (resume : Pool.Reply → Dialogue α)

namespace Worker

/-- What the worker still has to do, as if its present draw had not begun. -/
def program : Worker α → Dialogue α
  | free dialogue => dialogue
  | entered request resume => .ask request resume

/-- The key whose entry the worker has found for its present draw. -/
def pending? : Worker α → Option Pool.Key
  | free _ => none
  | entered request _ => some request.key

/-- What the worker has come to, if it is done. -/
def result? : Worker α → Option α
  | free (.finished a) => some a
  | _ => none

end Worker

structure Draw where
  worker : Nat
  request : Pool.Request
  reply : Pool.Reply

/-- Workers at one pool and the draws they have made, in the order in which candidates were taken. -/
structure Crew (α : Type) where
  pool : Pool
  workers : List (Worker α)
  record : List Draw

namespace Crew

def start (pool : Pool) (programs : List (Dialogue α)) : Crew α where
  pool := pool
  workers := programs.map .free
  record := []

def step (c : Crew α) (i : Nat) : Crew α :=
  match c.workers[i]? with
  | some (.free (.ask request resume)) =>
    { c with
      pool := c.pool.enter request.key
      workers := c.workers.set i (.entered request resume) }
  | some (.entered request resume) =>
    let (reply, pool) := c.pool.take request
    ⟨pool, c.workers.set i (.free (resume reply)), c.record ++ [⟨i, request, reply⟩]⟩
  | _ => c

/-- The steps of the workers whose turn it is, one after the other. -/
def run (c : Crew α) (schedule : List Nat) : Crew α := schedule.foldl step c

/-- The next draw of a worker with nothing in between. -/
def turn (c : Crew α) (i : Nat) : Crew α :=
  match c.workers[i]? with
  | some (.free (.ask request resume)) =>
    let (reply, pool) := c.pool.answer request
    ⟨pool, c.workers.set i (.free (resume reply)), c.record ++ [⟨i, request, reply⟩]⟩
  | _ => c

/-- The draws of the workers whose turn it is, one after the other. -/
def turns (c : Crew α) (order : List Nat) : Crew α := order.foldl turn c

def order (c : Crew α) : List Nat := c.record.map Draw.worker

def handed (c : Crew α) (k : Pool.Key) : List Value :=
  c.record.flatMap fun d => if d.request.key = k then d.reply.values else []

/-! ### What a step can be -/

theorem set_eq_self {β : Type} {l : List β} {i : Nat} {b : β} (h : l[i]? = some b) :
    l.set i b = l := by
  obtain ⟨_, rfl⟩ := List.getElem?_eq_some_iff.1 h
  rw [List.set_getElem_self]

/-- A step passes, finds the entry for a draw, or takes candidates from it. -/
theorem step_cases (c : Crew α) (i : Nat) :
    c.step i = c ∨
    (∃ request resume, c.workers[i]? = some (.free (.ask request resume)) ∧
      c.step i = ⟨c.pool.enter request.key, c.workers.set i (.entered request resume), c.record⟩) ∨
    ∃ request resume, c.workers[i]? = some (.entered request resume) ∧
      c.step i = ⟨(c.pool.take request).2,
        c.workers.set i (.free (resume (c.pool.take request).1)),
        c.record ++ [⟨i, request, (c.pool.take request).1⟩]⟩ := by
  unfold step
  split
  · next request resume found => exact .inr (.inl ⟨request, resume, found, rfl⟩)
  · next request resume found => exact .inr (.inr ⟨request, resume, found, rfl⟩)
  · exact .inl rfl

theorem step_of_ask {c : Crew α} {i : Nat} {request : Pool.Request}
    {resume : Pool.Reply → Dialogue α} (h : c.workers[i]? = some (.free (.ask request resume))) :
    c.step i = ⟨c.pool.enter request.key, c.workers.set i (.entered request resume), c.record⟩ := by
  rw [step, h]

theorem step_of_entered {c : Crew α} {i : Nat} {request : Pool.Request}
    {resume : Pool.Reply → Dialogue α} (h : c.workers[i]? = some (.entered request resume)) :
    c.step i = ⟨(c.pool.take request).2,
      c.workers.set i (.free (resume (c.pool.take request).1)),
      c.record ++ [⟨i, request, (c.pool.take request).1⟩]⟩ := by
  rw [step, h]

theorem turn_of_ask {c : Crew α} {i : Nat} {request : Pool.Request}
    {resume : Pool.Reply → Dialogue α} (h : c.workers[i]? = some (.free (.ask request resume))) :
    c.turn i = ⟨(c.pool.answer request).2,
      c.workers.set i (.free (resume (c.pool.answer request).1)),
      c.record ++ [⟨i, request, (c.pool.answer request).1⟩]⟩ := by
  rw [turn, h]

@[simp] theorem run_nil (c : Crew α) : c.run [] = c := rfl

@[simp] theorem run_cons (c : Crew α) (i : Nat) (schedule : List Nat) :
    c.run (i :: schedule) = (c.step i).run schedule := rfl

theorem run_append (c : Crew α) (first rest : List Nat) :
    c.run (first ++ rest) = (c.run first).run rest :=
  List.foldl_append

/-- What every step keeps, every run keeps. -/
theorem run_induction {P : Crew α → Prop} (step : ∀ c i, P c → P (c.step i)) {c : Crew α} (h : P c)
    (schedule : List Nat) : P (c.run schedule) := by
  induction schedule generalizing c with
  | nil => exact h
  | cons i schedule ih => exact ih (step c i h)

/-- Nobody removes an entry, and new ones come behind the others. -/
theorem keys_prefix_run (c : Crew α) (schedule : List Nat) :
    c.pool.keys <+: (c.run schedule).pool.keys := by
  refine run_induction (P := fun d => c.pool.keys <+: d.pool.keys) ?_ List.prefix_rfl schedule
  intro d i h
  obtain same | ⟨request, resume, -, next⟩ | ⟨request, resume, -, next⟩ := d.step_cases i
  · rw [same]
    exact h
  · rw [next]
    exact h.trans (d.pool.keys_prefix_enter request.key)
  · rw [next]
    exact h.trans (d.pool.keys_prefix_take request)

/-! ### A worker that is not interrupted -/

/-- Steps of one worker alone carry it to the end of its program, with the result and the pool of
running that program by itself. -/
theorem exists_run_dialogue (d : Dialogue α) {c : Crew α} {i : Nat}
    (h : c.workers[i]? = some (.free d)) :
    ∃ schedule record, (∀ j ∈ schedule, j = i) ∧
      c.run schedule =
        ⟨(d.run c.pool).2, c.workers.set i (.free (.finished (d.run c.pool).1)), record⟩ := by
  have lt : i < c.workers.length := (List.getElem?_eq_some_iff.1 h).1
  induction d generalizing c with
  | finished a =>
    refine ⟨[], c.record, by simp, ?_⟩
    rw [run_nil, Dialogue.run, set_eq_self h]
  | ask request resume ih =>
    have second : (c.step i).step i =
        ⟨(c.pool.answer request).2, c.workers.set i (.free (resume (c.pool.answer request).1)),
          c.record ++ [⟨i, request, (c.pool.answer request).1⟩]⟩ := by
      rw [step_of_ask h, step_of_entered (List.getElem?_set_self lt), List.set_set]
      rfl
    obtain ⟨schedule, record, alone, eq⟩ :=
      ih (c.pool.answer request).1 (c := (c.step i).step i)
        (by rw [second]; exact List.getElem?_set_self lt)
        (by rw [second, List.length_set]; exact lt)
    refine ⟨i :: i :: schedule, record, ?_, ?_⟩
    · intro j hj
      rw [List.mem_cons, List.mem_cons] at hj
      rcases hj with rfl | rfl | hj
      · rfl
      · rfl
      · exact alone j hj
    · rw [run_cons, run_cons, eq, second, List.set_set]
      rfl

end Crew

end Phrasemill
