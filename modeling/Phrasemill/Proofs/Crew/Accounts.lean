import Mathlib
import Phrasemill.Proofs.Crew
import Phrasemill.Proofs.Needs

/-!
# The accounts of a crew

The candidates that are left and the ones that workers still need change together: a draw that is
granted takes from both, a draw that is refused from neither. So in every state of every run
`left + total = opening + needed`, key by key (`Balanced`). A draw is only refused if more is needed
than there is, and that was so from the start.
-/

namespace Phrasemill

variable {α : Type}

theorem sum_eq_add_sum_set {l : List (Multiset Pool.Key)} {i : Nat} {a b : Multiset Pool.Key}
    (h : l[i]? = some (a + b)) : l.sum = a + (l.set i b).sum := by
  induction l generalizing i with
  | nil => cases h
  | cons c l ih =>
    cases i with
    | zero =>
      rw [List.getElem?_cons_zero, Option.some.injEq] at h
      rw [List.set_cons_zero, List.sum_cons, List.sum_cons, h, add_assoc]
    | succ i =>
      rw [List.getElem?_cons_succ] at h
      rw [List.set_cons_succ, List.sum_cons, List.sum_cons, ih h, add_left_comm]

theorem forall₂_set {β γ : Type} {R : β → γ → Prop} {bs : List β} {cs : List γ}
    (h : List.Forall₂ R bs cs) {b : β} {c : γ} (new : R b c) (i : Nat) :
    List.Forall₂ R (bs.set i b) (cs.set i c) := by
  induction h generalizing i with
  | nil => exact .nil
  | cons here rest ih =>
    cases i with
    | zero => exact .cons new rest
    | succ i => exact .cons here (ih i)

theorem forall₂_getElem? {β γ : Type} {R : β → γ → Prop} {bs : List β} {cs : List γ}
    (h : List.Forall₂ R bs cs) {i : Nat} {b : β} (at_i : bs[i]? = some b) :
    ∃ c, cs[i]? = some c ∧ R b c := by
  induction h generalizing i with
  | nil => cases at_i
  | cons here rest ih =>
    cases i with
    | zero =>
      rw [List.getElem?_cons_zero, Option.some.injEq] at at_i
      exact ⟨_, List.getElem?_cons_zero, at_i ▸ here⟩
    | succ i =>
      rw [List.getElem?_cons_succ] at at_i
      obtain ⟨c, at_c, related⟩ := ih at_i
      exact ⟨c, by rw [List.getElem?_cons_succ]; exact at_c, related⟩

theorem Dialogue.Needs.of_ask {short : Prop} {request : Pool.Request}
    {resume : Pool.Reply → Dialogue (Except Fault α × RandomSource)} {need : Multiset Pool.Key}
    (h : (Dialogue.ask request resume).Needs short need) :
    ∃ rest, need = request.asked + rest ∧ (∀ values s, (resume ⟨.ok values, s⟩).Needs short rest) ∧
      ∀ fault s, resume ⟨.error fault, s⟩ = .finished (.error fault, s) := by
  cases h with
  | ask granted refused => exact ⟨_, rfl, granted, refused⟩

namespace Crew

/-- More is drawn of some key than there was at first. -/
def Exceeds (opening : Pool) (total : Multiset Pool.Key) : Prop :=
  ∃ k, (opening.left k).size < total.count k

/-- Every candidate is accounted for: what is left and what has been asked for in all are what there
was at first and what the workers still need. -/
def Balanced (opening : Pool) (total : Multiset Pool.Key)
    (c : Crew (Except Fault α × RandomSource)) : Prop :=
  ∃ needs : List (Multiset Pool.Key),
    List.Forall₂ (fun w need => w.program.Needs (Exceeds opening total) need) c.workers needs ∧
      ∀ k, (c.pool.left k).size + total.count k = (opening.left k).size + needs.sum.count k

variable {opening : Pool} {total : Multiset Pool.Key} {c : Crew (Except Fault α × RandomSource)}

theorem balanced_start (opening : Pool) {programs : List (Dialogue (Except Fault α × RandomSource))}
    {needs : List (Multiset Pool.Key)}
    (h : List.Forall₂ (fun d need => ∀ short, d.Needs short need) programs needs) :
    Balanced opening needs.sum (start opening programs) := by
  refine ⟨needs, ?_, fun k => rfl⟩
  rw [start, List.forall₂_map_left_iff]
  exact h.imp fun d need needed => needed _

theorem count_asked_self (request : Pool.Request) :
    request.asked.count request.key = request.demand.amount :=
  Multiset.count_replicate_self _ _

theorem count_asked_of_ne {request : Pool.Request} {k : Pool.Key} (h : k ≠ request.key) :
    request.asked.count k = 0 := by
  rw [Pool.Request.asked, Multiset.count_replicate, if_neg h.symm]

/-- A draw that is granted takes from what is left and from what is needed. -/
theorem size_left_take_add {request : Pool.Request} {p : Pool}
    (enough : request.demand.amount ≤ (p.left request.key).size) (k : Pool.Key) :
    ((p.take request).2.left k).size + request.asked.count k = (p.left k).size := by
  rw [Pool.left_take]
  by_cases same : k = request.key
  · subst same
    rw [if_pos rfl, count_asked_self, Pool.size_serve_of_granted enough]
  · rw [if_neg same, count_asked_of_ne same, Nat.add_zero]

/-- A draw is refused only if its key was short from the start. -/
theorem exceeds_of_refused {request : Pool.Request} {needs : List (Multiset Pool.Key)}
    {p : Pool} (balance : ∀ k, (p.left k).size + total.count k =
      (opening.left k).size + needs.sum.count k)
    {i : Nat} {rest : Multiset Pool.Key} (at_i : needs[i]? = some (request.asked + rest))
    (short : (p.left request.key).size < request.demand.amount) : Exceeds opening total := by
  refine ⟨request.key, ?_⟩
  have key_balance := balance request.key
  rw [sum_eq_add_sum_set at_i, Multiset.count_add, count_asked_self] at key_balance
  omega

theorem balanced_step (h : Balanced opening total c) (i : Nat) :
    Balanced opening total (c.step i) := by
  obtain ⟨needs, programs, balance⟩ := h
  obtain same | ⟨request, resume, found, next⟩ | ⟨request, resume, found, next⟩ := c.step_cases i
  · rw [same]
    exact ⟨needs, programs, balance⟩
  · -- Finding the entry changes neither side.
    obtain ⟨need, at_i, needed⟩ := forall₂_getElem? programs found
    refine ⟨needs, ?_, ?_⟩
    · rw [next, ← set_eq_self at_i]
      refine forall₂_set programs ?_ i
      exact needed
    · intro k
      rw [next, Pool.left_enter]
      exact balance k
  · obtain ⟨need, at_i, needed⟩ := forall₂_getElem? programs found
    obtain ⟨rest, rfl, granted, refused⟩ := Dialogue.Needs.of_ask needed
    rw [next]
    by_cases enough : request.demand.amount ≤ (c.pool.left request.key).size
    · obtain ⟨values, s, reply, -⟩ := Pool.serve_granted enough
      refine ⟨needs.set i rest, forall₂_set programs ?_ i, fun k => ?_⟩
      · show (resume (c.pool.take request).1).Needs _ rest
        rw [Pool.take_fst, reply]
        exact granted values s
      · have key_balance := balance k
        rw [sum_eq_add_sum_set at_i, Multiset.count_add] at key_balance
        have taken := size_left_take_add enough k
        dsimp only
        omega
    · rw [Nat.not_le] at enough
      obtain ⟨fault, -, reply⟩ := Pool.serve_refused enough
      refine ⟨needs, ?_, fun k => ?_⟩
      · rw [← set_eq_self at_i]
        refine forall₂_set programs ?_ i
        show (resume (c.pool.take request).1).Needs _ _
        rw [Pool.take_fst, reply, refused]
        exact .fault (fun _ => exceeds_of_refused balance at_i enough) _ _
      · rw [← balance k, Pool.left_take, reply]
        split
        · next same => rw [same]
        · rfl

theorem balanced_run (h : Balanced opening total c) (schedule : List Nat) :
    Balanced opening total (c.run schedule) :=
  run_induction (P := Balanced opening total) (fun _ i h => balanced_step h i) h schedule

/-! ### The end of a run -/

theorem eq_of_result? {w : Worker (Except Fault α × RandomSource)}
    {r : Except Fault α × RandomSource} (h : w.result? = some r) : w = .free (.finished r) := by
  unfold Worker.result? at h
  split at h
  · cases h
    rfl
  · cases h

/-- Once all workers have a result, what is missing is what was asked for. -/
theorem Balanced.size_left (h : Balanced opening total c)
    (all : ∀ w ∈ c.workers, ∃ a s, w.result? = some (.ok a, s)) (k : Pool.Key) :
    (c.pool.left k).size + total.count k = (opening.left k).size := by
  obtain ⟨needs, programs, balance⟩ := h
  have nothing : needs.sum = 0 := by
    apply List.sum_eq_zero
    intro need mem
    obtain ⟨i, at_i⟩ := List.mem_iff_getElem?.1 mem
    obtain ⟨w, found, needed⟩ := forall₂_getElem? programs.flip at_i
    obtain ⟨a, s, result⟩ := all w (List.mem_of_getElem? found)
    rw [eq_of_result? result] at needed
    cases needed with
    | ok a s => rfl
  rw [balance k, nothing, Multiset.count_zero, Nat.add_zero]

/-- A worker can only run short if more is asked for than there was. -/
theorem Balanced.exceeds (h : Balanced opening total c)
    {w : Worker (Except Fault α × RandomSource)} (mem : w ∈ c.workers) {fault : Fault}
    {s : RandomSource} (result : w.result? = some (.error fault, s))
    (shortage : fault.isShortage = true) : Exceeds opening total := by
  obtain ⟨needs, programs, -⟩ := h
  obtain ⟨i, found⟩ := List.mem_iff_getElem?.1 mem
  obtain ⟨need, -, needed⟩ := forall₂_getElem? programs found
  rw [eq_of_result? result] at needed
  cases needed with
  | fault cause s need => exact cause shortage

end Crew

end Phrasemill
