import Mathlib
import Phrasemill.Pool
import Phrasemill.Proofs.Lookup

/-!
# The entries of a pool

What each operation on a pool does to the entry of a key. A pool is known by its keys, which stand in
the order of their first draws, and by what each of them has left; so every operation is described by
`find?_…`, by `left_…` and by what it does to the keys, and nothing else looks at the list of entries.

Keys are only ever added behind the others. That is why a pool that has been drawn from still begins
with the keys it had at an earlier time, and why going back to that time gives the same pool and not
just one with the same entries.
-/

namespace Phrasemill

namespace Pool

/-! ### The candidates of a key -/

theorem nodup_eraseDups (values : List Value) : values.eraseDups.Nodup := by
  induction h : values.length using Nat.strongRecOn generalizing values with
  | ind n ih =>
    cases values with
    | nil => exact List.nodup_nil
    | cons v values =>
      rw [List.eraseDups_cons, List.nodup_cons, List.mem_eraseDups]
      refine ⟨by simp, ih _ ?_ _ rfl⟩
      rw [← h, List.length_cons]
      exact Nat.lt_succ_of_le (List.length_filter_le _ values)

theorem nodup_distinct (k : Key) : k.distinct.toList.Nodup := nodup_eraseDups k.candidates

theorem mem_distinct {k : Key} {v : Value} : v ∈ k.distinct.toList ↔ v ∈ k.candidates :=
  List.mem_eraseDups

@[simp] theorem find?_empty (k : Key) : (∅ : Pool).find? k = none := rfl

@[simp] theorem left_empty (k : Key) : (∅ : Pool).left k = k.distinct := rfl

/-! ### Setting an entry -/

theorem find?_put (p : Pool) (k j : Key) (left : Array Value) :
    (p.put k left).find? j = if j = k then some left else p.find? j := by
  unfold put
  split
  · next found => exact lookup_replaced_of_isSome found j left
  · next absent => exact lookup_concat_of_not_isSome absent j left

@[simp] theorem find?_put_self (p : Pool) (k : Key) (left : Array Value) :
    (p.put k left).find? k = some left := by
  rw [find?_put, if_pos rfl]

theorem find?_put_of_ne {k j : Key} (h : j ≠ k) (p : Pool) (left : Array Value) :
    (p.put k left).find? j = p.find? j := by
  rw [find?_put, if_neg h]

theorem left_put (p : Pool) (k j : Key) (left : Array Value) :
    (p.put k left).left j = if j = k then left else p.left j := by
  rw [Pool.left, find?_put]
  split
  · rfl
  · rfl

/-! ### The two steps of a draw -/

theorem find?_enter (p : Pool) (k j : Key) :
    (p.enter k).find? j = if j = k then some (p.left k) else p.find? j := by
  unfold enter
  split
  · next found =>
    obtain ⟨old, hold⟩ := Option.isSome_iff_exists.1 found
    by_cases hj : j = k
    · subst hj
      simp [Pool.left, hold]
    · rw [if_neg hj]
  · next absent =>
    rw [Option.not_isSome_iff_eq_none] at absent
    rw [find?_put, Pool.left, absent, Option.getD_none]

@[simp] theorem left_enter (p : Pool) (k j : Key) : (p.enter k).left j = p.left j := by
  rw [Pool.left, find?_enter]
  by_cases hj : j = k
  · rw [if_pos hj, Option.getD_some, hj]
  · rw [if_neg hj, Pool.left]

theorem take_fst (p : Pool) (r : Request) : (p.take r).1 = (serve r (p.left r.key)).1 := rfl

theorem take_snd (p : Pool) (r : Request) :
    (p.take r).2 = p.put r.key (serve r (p.left r.key)).2 := rfl

theorem find?_take (p : Pool) (r : Request) (j : Key) :
    (p.take r).2.find? j =
      if j = r.key then some (serve r (p.left r.key)).2 else p.find? j := by
  rw [take_snd, find?_put]

theorem left_take (p : Pool) (r : Request) (j : Key) :
    (p.take r).2.left j = if j = r.key then (serve r (p.left r.key)).2 else p.left j := by
  rw [take_snd, left_put]

theorem answer_fst (p : Pool) (r : Request) : (p.answer r).1 = (serve r (p.left r.key)).1 := by
  rw [answer, take_fst, left_enter]

theorem find?_answer (p : Pool) (r : Request) (j : Key) :
    (p.answer r).2.find? j =
      if j = r.key then some (serve r (p.left r.key)).2 else p.find? j := by
  rw [answer, find?_take, left_enter]
  by_cases hj : j = r.key
  · rw [if_pos hj, if_pos hj]
  · rw [if_neg hj, if_neg hj, find?_enter, if_neg hj]

theorem left_answer (p : Pool) (r : Request) (j : Key) :
    (p.answer r).2.left j = if j = r.key then (serve r (p.left r.key)).2 else p.left j := by
  rw [answer, left_take, left_enter, left_enter]

/-! ### Keys are added behind the others -/

theorem keys_put_of_mem {p : Pool} {k : Key} (h : k ∈ p.keys) (left : Array Value) :
    (p.put k left).keys = p.keys := by
  have found : (p.find? k).isSome := by
    rw [Option.isSome_iff_ne_none, ne_eq, find?_eq_none_iff, not_not]
    exact h
  rw [put, dif_pos found]
  exact map_fst_replaced p.entries k left

theorem keys_prefix_put (p : Pool) (k : Key) (left : Array Value) :
    p.keys <+: (p.put k left).keys := by
  by_cases h : k ∈ p.keys
  · rw [keys_put_of_mem h]
  · have absent : ¬ (p.find? k).isSome := by
      rw [Option.not_isSome_iff_eq_none, find?_eq_none_iff]
      exact h
    refine ⟨[k], ?_⟩
    rw [put, dif_neg absent, keys, keys, List.map_append]
    rfl

theorem keys_prefix_enter (p : Pool) (k : Key) : p.keys <+: (p.enter k).keys := by
  unfold enter
  split
  · exact List.prefix_rfl
  · exact keys_prefix_put p k _

theorem keys_prefix_take (p : Pool) (r : Request) : p.keys <+: (p.take r).2.keys :=
  keys_prefix_put p r.key _

/-! ### Going back -/

/-- A pool is its keys and what each of them has left. -/
theorem ext_find {p q : Pool} (keys : p.keys = q.keys) (found : ∀ k, p.find? k = q.find? k) :
    p = q := by
  obtain ⟨es, nodup⟩ := p
  obtain ⟨fs, nodup'⟩ := q
  simp only [Pool.keys, find?, mk.injEq] at *
  induction es generalizing fs with
  | nil =>
    exact (List.map_eq_nil_iff.1 keys.symm).symm
  | cons e es ih =>
    cases fs with
    | nil => simp at keys
    | cons f fs =>
      obtain ⟨k, left⟩ := e
      obtain ⟨k', left'⟩ := f
      simp only [List.map_cons, List.cons.injEq] at keys
      obtain ⟨rfl, keys⟩ := keys
      have head : left = left' := by simpa using found k
      rw [List.map_cons, List.nodup_cons] at nodup nodup'
      -- The first key does not come again, so it has no entry in either rest.
      have tail : ∀ j, es.lookup j = fs.lookup j := by
        intro j
        by_cases hj : j = k
        · subst hj
          have absent := find?_eq_none_iff (p := ⟨es, nodup.2⟩).2 nodup.1
          have absent' := find?_eq_none_iff (p := ⟨fs, nodup'.2⟩).2 nodup'.1
          exact absent.trans absent'.symm
        · have := found j
          rwa [lookup_cons_of_ne hj, lookup_cons_of_ne hj] at this
      rw [head, ih nodup.2 fs nodup'.2 keys tail]

theorem keys_filter (p : Pool) (test : Key → Bool) : (p.filter test).keys = p.keys.filter test := by
  rw [keys, filter, keys, List.filter_map]
  rfl

/-- Setting entries one after the other: the last value of each key stays. -/
theorem find?_foldl_put (entries : List (Key × Array Value)) (nodup : (entries.map Prod.fst).Nodup)
    (p : Pool) (k : Key) :
    (entries.foldl (fun p e => p.put e.1 e.2) p).find? k = (entries.lookup k).or (p.find? k) := by
  induction entries generalizing p with
  | nil => rfl
  | cons e entries ih =>
    obtain ⟨j, left⟩ := e
    rw [List.map_cons, List.nodup_cons] at nodup
    rw [List.foldl_cons, ih nodup.2]
    by_cases hk : k = j
    · subst hk
      have absent := find?_eq_none_iff (p := ⟨entries, nodup.2⟩).2 nodup.1
      rw [find?] at absent
      rw [absent, find?_put_self, List.lookup_cons_self]
      rfl
    · rw [find?_put_of_ne hk, lookup_cons_of_ne hk]

theorem keys_foldl_put (entries : List (Key × Array Value)) (p : Pool)
    (known : ∀ e ∈ entries, e.1 ∈ p.keys) :
    (entries.foldl (fun p e => p.put e.1 e.2) p).keys = p.keys := by
  induction entries generalizing p with
  | nil => rfl
  | cons e entries ih =>
    have same : (p.put e.1 e.2).keys = p.keys := keys_put_of_mem (known e List.mem_cons_self) e.2
    rw [List.foldl_cons, ih, same]
    intro f hf
    rw [same]
    exact known f (List.mem_cons_of_mem e hf)

/-- After going back every key has what was recorded of it, and no other key has an entry. -/
theorem find?_restore (p : Pool) (c : Checkpoint) (k : Key) :
    (p.restore c).find? k = c.entries.lookup k := by
  rw [restore, find?_foldl_put c.entries c.nodup]
  cases recorded : c.entries.lookup k with
  | some left => rfl
  | none =>
    rw [Option.none_or, find?_eq_none_iff, keys_filter, List.mem_filter]
    rintro ⟨-, h⟩
    rw [Checkpoint.contains, recorded] at h
    exact Bool.noConfusion h

/-- A pool that has only been drawn from since a checkpoint goes back to what it was. -/
theorem restore_checkpoint {p drained : Pool} (since : p.keys <+: drained.keys) :
    drained.restore p.checkpoint = p := by
  have contains (k : Key) : p.checkpoint.contains k = decide (k ∈ p.keys) := by
    rw [Checkpoint.contains, Bool.eq_iff_iff, decide_eq_true_eq, Option.isSome_iff_ne_none, ne_eq]
    exact not_iff_comm.1 (find?_eq_none_iff (p := p)).symm
  have kept : (drained.filter p.checkpoint.contains).keys = p.keys := by
    obtain ⟨new, hnew⟩ := since
    have nodup : drained.keys.Nodup := drained.nodup
    rw [← hnew, List.nodup_append] at nodup
    rw [keys_filter, ← hnew, List.filter_append, List.filter_eq_self.2, List.filter_eq_nil_iff.2,
      List.append_nil]
    · intro k hk old
      rw [contains, decide_eq_true_eq] at old
      exact nodup.2.2 k old k hk rfl
    · intro k hk
      rw [contains, decide_eq_true_eq]
      exact hk
  refine ext_find ?_ fun k => find?_restore drained p.checkpoint k
  rw [restore, keys_foldl_put, kept]
  intro e he
  rw [kept]
  exact List.mem_map_of_mem he

end Pool

end Phrasemill
