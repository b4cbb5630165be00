import Mathlib
import Phrasemill.Proofs.Crew

/-!
# What a crew draws

Two facts about every interleaving. No candidate is lost or handed out twice: what was handed out of a
key and what the key has left are, at all times and together, what the key had at the beginning
(`handed_perm`). And an interleaving cannot be told from working in turns: if every draw is answered
at once when its second step comes, each gets the same reply (`Serial`). The first step of a draw is
where several workers may race to make one entry; it is invisible because an entry that is made holds
just what a key without an entry has left.
-/

namespace Phrasemill

namespace Crew

variable {α : Type}

/-! ### Nothing is lost -/

theorem handed_append (pool : Pool) (workers : List (Worker α)) (record : List Draw) (d : Draw)
    (k : Pool.Key) :
    (⟨pool, workers, record ++ [d]⟩ : Crew α).handed k =
      (⟨pool, workers, record⟩ : Crew α).handed k ++
        if d.request.key = k then d.reply.values else [] := by
  rw [handed, List.flatMap_append, List.flatMap_singleton, handed]

/-- A step moves candidates from what is left to what was handed out, or none at all. -/
theorem handed_step_perm (c : Crew α) (i : Nat) (k : Pool.Key) :
    ((c.step i).handed k ++ ((c.step i).pool.left k).toList).Perm
      (c.handed k ++ (c.pool.left k).toList) := by
  obtain same | ⟨request, resume, -, next⟩ | ⟨request, resume, -, next⟩ := c.step_cases i
  · rw [same]
  · rw [next, Pool.left_enter]
    exact List.Perm.refl _
  · rw [next, handed_append, Pool.left_take, Pool.take_fst]
    by_cases here : request.key = k
    · subst here
      rw [if_pos rfl, if_pos rfl, List.append_assoc]
      exact (Pool.serve_perm request _).append_left _
    · rw [if_neg here, if_neg (Ne.symm here), List.append_nil]
      exact List.Perm.refl _

theorem handed_perm (pool : Pool) (programs : List (Dialogue α)) (schedule : List Nat)
    (k : Pool.Key) :
    (((start pool programs).run schedule).handed k ++
      (((start pool programs).run schedule).pool.left k).toList).Perm (pool.left k).toList := by
  refine run_induction
    (P := fun c => (c.handed k ++ (c.pool.left k).toList).Perm (pool.left k).toList) ?_ ?_ schedule
  · intro c i h
    exact (handed_step_perm c i k).trans h
  · exact List.Perm.refl _

/-! ### Working in turns -/

/-- A crew `s` that has made the same draws as `c` in turns: every worker stands where it stands in
`c`, or before the draw it is about to take candidates for, and every key has the same left. A key
without an entry in `s` may have one in `c` only because a worker has just found it. -/
structure Serial (s c : Crew α) : Prop where
  record : s.record = c.record
  workers : s.workers = c.workers.map fun w => .free w.program
  left : ∀ k, s.pool.left k = c.pool.left k
  found : ∀ k, s.pool.find? k = c.pool.find? k ∨
    s.pool.find? k = none ∧
      ∃ (i : Nat) (w : Worker α), c.workers[i]? = some w ∧ w.pending? = some k

/-- Finding an entry is not to be seen from outside. -/
theorem Serial.enter {s c : Crew α} (h : Serial s c) {i : Nat} {request : Pool.Request}
    {resume : Pool.Reply → Dialogue α} (at_i : c.workers[i]? = some (.free (.ask request resume))) :
    Serial s
      ⟨c.pool.enter request.key, c.workers.set i (.entered request resume), c.record⟩ where
  record := h.record
  workers := by
    have standing : (c.workers.map fun w => Worker.free w.program)[i]? =
        some (.free (Worker.entered request resume).program) := by
      rw [List.getElem?_map, at_i]
      rfl
    rw [h.workers, List.map_set, set_eq_self standing]
  left := by
    intro k
    rw [Pool.left_enter]
    exact h.left k
  found := by
    intro k
    obtain ⟨lt, -⟩ := List.getElem?_eq_some_iff.1 at_i
    rw [Pool.find?_enter]
    by_cases hk : k = request.key
    · subst hk
      rw [if_pos rfl]
      cases absent : s.pool.find? request.key with
      | none =>
        refine .inr ⟨rfl, i, .entered request resume, ?_, rfl⟩
        exact List.getElem?_set_self lt
      | some left =>
        left
        rw [← h.left, Pool.left, absent, Option.getD_some]
    · rw [if_neg hk]
      obtain same | ⟨absent, j, w, at_j, pending⟩ := h.found k
      · exact .inl same
      · refine .inr ⟨absent, j, w, ?_, pending⟩
        have ne : i ≠ j := by
          rintro rfl
          rw [at_i, Option.some.injEq] at at_j
          subst at_j
          cases pending
        rw [List.getElem?_set_ne ne]
        exact at_j

/-- Taking candidates is the whole draw. -/
theorem Serial.take {s c : Crew α} (h : Serial s c) {i : Nat} {request : Pool.Request}
    {resume : Pool.Reply → Dialogue α} (at_i : c.workers[i]? = some (.entered request resume)) :
    Serial (s.turn i)
      ⟨(c.pool.take request).2, c.workers.set i (.free (resume (c.pool.take request).1)),
        c.record ++ [⟨i, request, (c.pool.take request).1⟩]⟩ := by
  obtain ⟨lt, -⟩ := List.getElem?_eq_some_iff.1 at_i
  have standing : s.workers[i]? = some (.free (.ask request resume)) := by
    rw [h.workers, List.getElem?_map, at_i]
    rfl
  have reply : (s.pool.answer request).1 = (c.pool.take request).1 := by
    rw [Pool.answer_fst, Pool.take_fst, h.left]
  rw [turn_of_ask standing, reply]
  constructor
  case record =>
    rw [h.record]
  case workers =>
    rw [h.workers, List.map_set]
    rfl
  case left =>
    intro k
    rw [Pool.left_answer, Pool.left_take, h.left, h.left]
  case found =>
    intro k
    rw [Pool.find?_answer, Pool.find?_take, h.left]
    by_cases hk : k = request.key
    · rw [if_pos hk, if_pos hk]
      exact .inl rfl
    · rw [if_neg hk, if_neg hk]
      obtain same | ⟨absent, j, w, at_j, pending⟩ := h.found k
      · exact .inl same
      · refine .inr ⟨absent, j, w, ?_, pending⟩
        have ne : i ≠ j := by
          rintro rfl
          rw [at_i, Option.some.injEq] at at_j
          subst at_j
          rw [Worker.pending?, Option.some.injEq] at pending
          exact hk pending.symm
        rw [List.getElem?_set_ne ne]
        exact at_j

theorem serial_start (pool : Pool) (programs : List (Dialogue α)) :
    Serial (start pool programs) (start pool programs) where
  record := rfl
  workers := by
    rw [start, List.map_map]
    rfl
  left _ := rfl
  found _ := .inl rfl

theorem turns_append (c : Crew α) (order : List Nat) (i : Nat) :
    c.turns (order ++ [i]) = (c.turns order).turn i :=
  List.foldl_concat turn c i order

/-- Every interleaving has made the draws of its record as if they had been made in turns. -/
theorem serial_turns (pool : Pool) (programs : List (Dialogue α)) (schedule : List Nat) :
    Serial ((start pool programs).turns ((start pool programs).run schedule).order)
      ((start pool programs).run schedule) := by
  refine run_induction (P := fun c => Serial ((start pool programs).turns c.order) c)
    (c := start pool programs) ?_ (serial_start pool programs) schedule
  intro c i h
  obtain same | ⟨request, resume, at_i, next⟩ | ⟨request, resume, at_i, next⟩ := c.step_cases i
  · rw [same]
    exact h
  · rw [next]
    exact h.enter at_i
  · rw [next, order, List.map_append]
    exact turns_append _ c.order i ▸ h.take at_i

/-- Whatever the workers' programs and however their steps meet: the candidates handed out of a key
are distinct, none of them is left, and with what is left they are all the candidates of the key; and
every draw got the reply, and every key has the entry, that it gets when the draws are made in turns in
the order of their second steps. -/
theorem distinct_and_serial (programs : List (Dialogue α)) (schedule : List Nat) :
    let c := (start ∅ programs).run schedule
    let s := (start ∅ programs).turns c.order
    (∀ k, (c.handed k).Nodup ∧ (c.pool.left k).toList.Nodup ∧
      (∀ v ∈ c.handed k, v ∉ (c.pool.left k).toList) ∧
      (∀ v, v ∈ c.handed k ∨ v ∈ (c.pool.left k).toList ↔ v ∈ k.candidates)) ∧
    s.record = c.record ∧
    s.workers = c.workers.map (fun w => .free w.program) ∧
    (∀ k, s.pool.left k = c.pool.left k) ∧
    ((∀ w ∈ c.workers, w.pending? = none) → ∀ k, s.pool.find? k = c.pool.find? k) := by
  intro c s
  have serial : Serial s c := serial_turns ∅ programs schedule
  refine ⟨?_, serial.record, serial.workers, serial.left, ?_⟩
  · intro k
    have together : (c.handed k ++ (c.pool.left k).toList).Perm k.distinct.toList :=
      handed_perm ∅ programs schedule k
    have nodup := together.nodup_iff.2 (Pool.nodup_distinct k)
    rw [List.nodup_append] at nodup
    refine ⟨nodup.1, nodup.2.1, ?_, ?_⟩
    · intro v handed left
      exact nodup.2.2 v handed v left rfl
    · intro v
      rw [← List.mem_append, together.mem_iff, Pool.mem_distinct]
  · intro idle k
    obtain same | ⟨-, i, w, at_i, pending⟩ := serial.found k
    · exact same
    · rw [idle w (List.mem_of_getElem? at_i)] at pending
      cases pending

end Crew

end Phrasemill
