import Mathlib
import Phrasemill.Proofs.Partition.Values
import Phrasemill.Session

/-!
# Sessions, statement by statement

What a session does with a statement and with a sequence of them, and what holds of every session:
its pool is faithful, which is all that is asked of a pool for its statements to put out members of
their languages.
-/

namespace Phrasemill

namespace Session

theorem generate_of_workers_le_one {s : Session} (single : s.settings.workers ≤ 1) (e : Expr)
    (count : Nat) :
    s.generate e count =
      let outcome :=
        ((s.grammar.resolve e).evaluate s.grammar count []).outcome s.master.fork.1 s.pool
      (outcome.result, { s with master := s.master.fork.2, pool := outcome.pool }) := by
  rw [Session.generate, Partition.run_of_workers_le_one single]
  rfl

theorem process_print (count : Nat) (e : Expr) (line : Nat) (s : Session) :
    s.process (.print count e line) =
      ((s.generate e count).1.map fun batch => some (linesOf s.settings batch),
        (s.generate e count).2) := by
  have settings_eq : (s.generate e count).2.settings = s.settings := rfl
  rw [process]
  cases generated : s.generate e count with
  | mk result left =>
    rw [generated] at settings_eq
    cases result with
    | ok batch => rw [← settings_eq]; rfl
    | error fault => rfl

theorem processAll_cons (statement : Statement) (p : Program) (s : Session) :
    s.processAll (statement :: p) =
      ((s.process statement).1 :: ((s.process statement).2.processAll p).1,
        ((s.process statement).2.processAll p).2) := rfl

theorem processAll_append (p q : Program) (s : Session) :
    s.processAll (p ++ q) =
      ((s.processAll p).1 ++ ((s.processAll p).2.processAll q).1,
        ((s.processAll p).2.processAll q).2) := by
  induction p generalizing s with
  | nil => rfl
  | cons statement p ih =>
    rw [List.cons_append, processAll_cons, processAll_cons, ih]
    rfl

/-! ### The pool of a session -/

theorem faithful_process (statement : Statement) {s : Session} (faithful : s.pool.Faithful) :
    (s.process statement).2.pool.Faithful := by
  cases statement with
  | define name body line => exact faithful
  | print count e line =>
    obtain ⟨attempted, runs⟩ := Partition.exists_runs_run s.partition s.grammar
      (s.grammar.resolve e) count s.master s.pool
    rw [process_print]
    exact Partition.faithful_of_runs faithful runs

theorem faithful_processAll (p : Program) {s : Session} (faithful : s.pool.Faithful) :
    (s.processAll p).2.pool.Faithful := by
  induction p generalizing s with
  | nil => exact faithful
  | cons statement p ih => exact ih (faithful_process statement faithful)

end Session

end Phrasemill
