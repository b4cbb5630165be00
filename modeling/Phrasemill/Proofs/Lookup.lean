import Mathlib

/-!
# Setting a key of a table

The pool and the grammar are tables: lists of pairs in the order in which their keys were first set.
A key is set in its place if it is there and behind all others if it is not. Either way the key then
has the new value and every other key the one it had.
-/

namespace Phrasemill

variable {α β : Type} [DecidableEq α]

theorem lookup_cons_of_ne {k j : α} (h : j ≠ k) (b : β) (entries : List (α × β)) :
    ((k, b) :: entries).lookup j = entries.lookup j := by
  rw [List.lookup_cons, beq_false_of_ne h]

theorem lookup_replaced (entries : List (α × β)) (k j : α) (b : β) :
    (entries.map fun e => if e.1 = k then (k, b) else e).lookup j =
      if j = k then (entries.lookup k).map fun _ => b else entries.lookup j := by
  induction entries with
  | nil => simp
  | cons e entries ih =>
    obtain ⟨i, old⟩ := e
    rw [List.map_cons]
    by_cases hi : i = k
    · subst hi
      rw [if_pos rfl, List.lookup_cons_self, Option.map_some]
      by_cases hj : j = i
      · subst hj
        rw [List.lookup_cons_self, if_pos rfl]
      · rw [lookup_cons_of_ne hj, ih, if_neg hj, if_neg hj, lookup_cons_of_ne hj]
    · rw [if_neg hi, lookup_cons_of_ne (Ne.symm hi)]
      by_cases hj : j = i
      · subst hj
        rw [List.lookup_cons_self, if_neg hi, List.lookup_cons_self]
      · rw [lookup_cons_of_ne hj, ih, lookup_cons_of_ne hj]

theorem lookup_replaced_of_isSome {entries : List (α × β)} {k : α}
    (found : (entries.lookup k).isSome) (j : α) (b : β) :
    (entries.map fun e => if e.1 = k then (k, b) else e).lookup j =
      if j = k then some b else entries.lookup j := by
  obtain ⟨old, here⟩ := Option.isSome_iff_exists.1 found
  rw [lookup_replaced, here, Option.map_some]

theorem lookup_concat_of_not_isSome {entries : List (α × β)} {k : α}
    (absent : ¬ (entries.lookup k).isSome) (j : α) (b : β) :
    (entries ++ [(k, b)]).lookup j = if j = k then some b else entries.lookup j := by
  rw [Option.not_isSome_iff_eq_none] at absent
  rw [List.lookup_append]
  by_cases hj : j = k
  · subst hj
    rw [absent, if_pos rfl, Option.none_or, List.lookup_cons_self]
  · rw [if_neg hj, lookup_cons_of_ne hj, List.lookup_nil, Option.or_none]

end Phrasemill
