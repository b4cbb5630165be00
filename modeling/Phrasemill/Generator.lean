import Phrasemill.Dialogue

/-!
# Generators

A generator produces a result or a fault while it uses up a random source and draws from the pool.
The source and the pool keep what a failing generator has done to them.
-/

namespace Phrasemill

/-- A computation that takes randomness, draws from the pool and can fault. -/
abbrev Generator := ExceptT Fault (StateT RandomSource Dialogue)

structure Outcome (α : Type) where
  result : Except Fault α
  source : RandomSource
  pool : Pool

namespace Generator

def outcome {α : Type} (g : Generator α) (s : RandomSource) (p : Pool) : Outcome α :=
  let ((result, s), p) := (StateT.run (ExceptT.run g) s).run p
  ⟨result, s, p⟩

def random {α : Type} (draw : RandomSource → α × RandomSource) : Generator α :=
  ExceptT.lift (fun s => pure (draw s))

def draw (key : Pool.Key) (demand : Pool.Demand) (line : Nat) : Generator (Array Value) :=
  ExceptT.mk fun s => .ask ⟨key, demand, line, s⟩ fun reply => .finished (reply.outcome, reply.source)

/-- Draws one unique candidate; the answer to such a draw is never empty. -/
def drawOne (key : Pool.Key) (line : Nat) : Generator Value := do
  let drawn ← draw key .one line
  return drawn.getD 0 default

def check {α : Type} (e : Except Fault α) : Generator α := ExceptT.mk (pure e)

/-! ### What the parts of a generator do -/

@[simp] theorem outcome_pure {α : Type} (a : α) (s : RandomSource) (p : Pool) :
    (pure a : Generator α).outcome s p = ⟨.ok a, s, p⟩ := rfl

@[simp] theorem outcome_throw {α : Type} (f : Fault) (s : RandomSource) (p : Pool) :
    (throw f : Generator α).outcome s p = ⟨.error f, s, p⟩ := rfl

@[simp] theorem outcome_random {α : Type} (draw : RandomSource → α × RandomSource)
    (s : RandomSource) (p : Pool) : (random draw).outcome s p = ⟨.ok (draw s).1, (draw s).2, p⟩ :=
  rfl

@[simp] theorem outcome_draw (key : Pool.Key) (demand : Pool.Demand) (line : Nat)
    (s : RandomSource) (p : Pool) :
    (draw key demand line).outcome s p =
      ⟨(p.answer ⟨key, demand, line, s⟩).1.outcome, (p.answer ⟨key, demand, line, s⟩).1.source,
        (p.answer ⟨key, demand, line, s⟩).2⟩ :=
  rfl

@[simp] theorem outcome_check {α : Type} (e : Except Fault α) (s : RandomSource) (p : Pool) :
    (check e).outcome s p = ⟨e, s, p⟩ := rfl

/-- A generator goes on only after a result, from the source and the pool that are left. -/
theorem outcome_bind {α β : Type} (g : Generator α) (f : α → Generator β) (s : RandomSource)
    (p : Pool) :
    (g >>= f).outcome s p =
      match g.outcome s p with
      | ⟨.ok a, s, p⟩ => (f a).outcome s p
      | ⟨.error e, s, p⟩ => ⟨.error e, s, p⟩ := by
  simp only [outcome, ExceptT.run_bind, StateT.run_bind, Dialogue.run_bind]
  generalize (StateT.run (ExceptT.run g) s).run p = r
  obtain ⟨⟨e | a, s⟩, p⟩ := r <;> rfl

end Generator

end Phrasemill
