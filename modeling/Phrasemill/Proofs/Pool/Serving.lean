import Mathlib
import Phrasemill.Pool

/-!
# What a draw takes

A draw moves candidates from what is left into its reply and does nothing else: what it hands out and
what it leaves are together, up to order, what was there (`serve_perm`). It is granted exactly when
there is enough, and then hands out as many as it asked for; refused, it reports a shortage and leaves
everything, the randomness included.
-/

namespace Phrasemill

namespace Pool

def Demand.amount : Demand → Nat
  | one => 1
  | many count => count

def Reply.values (r : Reply) : List Value :=
  match r.outcome with
  | .ok values => values.toList
  | .error _ => []

@[simp] theorem Reply.values_ok (values : Array Value) (s : RandomSource) :
    Reply.values ⟨.ok values, s⟩ = values.toList := rfl

@[simp] theorem Reply.values_error (fault : Fault) (s : RandomSource) :
    Reply.values ⟨.error fault, s⟩ = [] := rfl

/-! ### One candidate -/

theorem swapRemove_perm {left : Array Value} {i : Nat} (h : i < left.size) :
    (left[i] :: (swapRemove left i h).toList).Perm left.toList := by
  obtain ⟨l⟩ := left
  have lt : i < l.length := h
  obtain ⟨init, last, rfl⟩ : ∃ init last, l = init ++ [last] := by
    cases l using List.reverseRecOn with
    | nil => exact absurd lt (Nat.not_lt_zero i)
    | append_singleton init last => exact ⟨init, last, rfl⟩
  have bound : (init ++ [last]).length - 1 < (init ++ [last]).length := by simp
  have at_end : (init ++ [last])[(init ++ [last]).length - 1] = last := by simp
  change ((init ++ [last])[i] ::
    ((init ++ [last]).set i (init ++ [last])[(init ++ [last]).length - 1]).dropLast).Perm _
  rw [at_end]
  by_cases inner : i < init.length
  · -- The last candidate moves to the place of the one that is taken.
    rw [List.set_append_left i last inner, List.dropLast_concat, List.getElem_append_left inner]
    have swap := List.getD_set_perm_cons init i last
    rw [List.getElem?_eq_getElem inner, Option.getD_some] at swap
    exact swap.trans (List.perm_append_singleton last init).symm
  · have eq : i = init.length := by
      rw [List.length_append, List.length_singleton] at lt
      omega
    subst eq
    rw [List.set_append_right _ last (le_refl _), Nat.sub_self, List.set_cons_zero,
      List.dropLast_concat, List.getElem_concat_length]
    · exact (List.perm_append_singleton last init).symm
    · rfl

theorem takeAny_perm {left rest : Array Value} {s t : RandomSource} {value : Value}
    (h : takeAny left s = some (value, rest, t)) : (value :: rest.toList).Perm left.toList := by
  simp only [takeAny] at h
  split at h
  · next lt =>
    simp only [Option.some.injEq, Prod.mk.injEq] at h
    obtain ⟨rfl, rfl, rfl⟩ := h
    exact swapRemove_perm lt
  · cases h

theorem takeAny_eq_none {left : Array Value} {s : RandomSource} (h : takeAny left s = none) :
    left.size = 0 := by
  by_contra pos
  have lt := RandomSource.index_lt (Nat.pos_of_ne_zero pos) .long s
  simp only [takeAny, dif_pos lt] at h
  cases h

theorem takeAny_empty {left : Array Value} (h : left.size = 0) (s : RandomSource) :
    takeAny left s = none := by
  have no : ¬ (s.index .long left.size).1 < left.size := by
    rw [h]
    exact Nat.not_lt_zero _
  simp only [takeAny, dif_neg no]

/-! ### Several candidates -/

theorem takeSome_perm (n : Nat) (drawn left : Array Value) (s : RandomSource) :
    ((takeSome n drawn left s).1.toList ++ (takeSome n drawn left s).2.1.toList).Perm
      (drawn.toList ++ left.toList) := by
  induction n generalizing drawn left s with
  | zero => exact List.Perm.refl _
  | succ n ih =>
    unfold takeSome
    split
    · next value rest t found =>
      refine (ih _ _ _).trans ?_
      rw [Array.toList_push, List.append_assoc, List.singleton_append]
      exact (takeAny_perm found).append_left _
    · exact List.Perm.refl _

theorem size_takeSome (n : Nat) (drawn left : Array Value) (s : RandomSource)
    (enough : n ≤ left.size) : (takeSome n drawn left s).1.size = drawn.size + n := by
  induction n generalizing drawn left s with
  | zero => rfl
  | succ n ih =>
    unfold takeSome
    split
    · next value rest t found =>
      have size := (takeAny_perm found).length_eq
      rw [List.length_cons, Array.length_toList, Array.length_toList] at size
      rw [ih _ _ _ (by omega), Array.size_push]
      omega
    · next missing =>
      have := takeAny_eq_none missing
      omega

/-! ### A whole draw -/

/-- Nothing is lost and nothing is made: what a draw hands out and what it leaves are what was there. -/
theorem serve_perm (r : Request) (left : Array Value) :
    ((serve r left).1.values ++ (serve r left).2.toList).Perm left.toList := by
  unfold serve
  split
  · split
    · next value rest t found => exact takeAny_perm found
    · exact List.Perm.refl _
  · split
    · exact List.Perm.refl _
    · next count _ _ => exact takeSome_perm count #[] left r.source

theorem serve_granted {r : Request} {left : Array Value} (enough : r.demand.amount ≤ left.size) :
    ∃ values s, (serve r left).1 = ⟨.ok values, s⟩ ∧ values.size = r.demand.amount := by
  obtain ⟨key, demand, line, source⟩ := r
  cases demand with
  | one =>
    cases found : takeAny left source with
    | none =>
      have := takeAny_eq_none found
      simp only [Demand.amount] at enough
      omega
    | some taken =>
      obtain ⟨value, rest, t⟩ := taken
      refine ⟨#[value], t, ?_, rfl⟩
      simp only [serve, found]
  | many count =>
    have size := size_takeSome count #[] left source enough
    rw [Array.size_empty, Nat.zero_add] at size
    have fits : ¬ left.size < count := Nat.not_lt.2 enough
    refine ⟨(takeSome count #[] left source).1, (takeSome count #[] left source).2.2, ?_, size⟩
    simp only [serve, if_neg fits]

theorem serve_refused {r : Request} {left : Array Value} (short : left.size < r.demand.amount) :
    ∃ fault, fault.isShortage = true ∧ serve r left = (⟨.error fault, r.source⟩, left) := by
  obtain ⟨key, demand, line, source⟩ := r
  cases demand with
  | one =>
    have empty : left.size = 0 := by
      simp only [Demand.amount] at short
      omega
    refine ⟨.poolExhausted line, rfl, ?_⟩
    simp only [serve, takeAny_empty empty]
  | many count =>
    refine ⟨.poolInsufficient count left.size line, rfl, ?_⟩
    simp only [serve, if_pos (show left.size < count from short)]

/-- A granted draw leaves less by what it asked for. -/
theorem size_serve_of_granted {r : Request} {left : Array Value}
    (enough : r.demand.amount ≤ left.size) :
    (serve r left).2.size + r.demand.amount = left.size := by
  obtain ⟨values, s, reply, size⟩ := serve_granted enough
  have together := (serve_perm r left).length_eq
  rw [reply, Reply.values_ok, List.length_append, Array.length_toList, Array.length_toList,
    Array.length_toList, size] at together
  omega

end Pool

end Phrasemill
