import Mathlib
import Phrasemill.Proofs.Crew.Replies
import Phrasemill.Proofs.Except
import Phrasemill.Proofs.Partition.Chunks

/-!
# What calls give

The values that a builtin can give for a row of operands, whatever the randomness and whatever is left
in the pool (`Builtin.Gives`). Applied to columns, a builtin gives in every repetition a value for
operands that the columns have in it, in whichever of its forms it is called (`Builtin.yields_apply`).
-/

namespace Phrasemill

namespace RandomSource

/-- A random integer lies in its range, the range of all integers included. -/
theorem between_mem {low high : Int64} (le : low ≤ high) (s : RandomSource) :
    low ≤ (s.between low high).1 ∧ (s.between low high).1 ≤ high := by
  have low_ge := low.le_toInt
  have high_le := high.toInt_le
  rw [Int64.toInt_maxValue] at high_le
  rw [Int64.le_iff_toInt_le] at le ⊢
  rw [Int64.le_iff_toInt_le]
  obtain ⟨size, size_eq⟩ : ∃ size, size = (high.toInt - low.toInt + 1).toNat := ⟨_, rfl⟩
  rw [between, ← size_eq]
  dsimp only
  split
  · next whole =>
    have ge := (s.nextLong.1.toInt64).le_toInt
    have le := (s.nextLong.1.toInt64).toInt_le
    rw [Int64.toInt_maxValue] at le
    have whole : size = 18446744073709551616 := whole
    dsimp only
    omega
  · have pos : 0 < size := by omega
    have lt := s.offset_lt pos
    dsimp only
    rw [Int64.toInt_ofInt_of_le (by omega) (by omega)]
    omega

theorem forall_mem_repeatDraw {α : Type} {P : α → Prop} {draw : RandomSource → α × RandomSource}
    (h : ∀ s, P (draw s).1) (count : Nat) {drawn : Array α} (before : ∀ a ∈ drawn, P a)
    (s : RandomSource) : ∀ a ∈ (repeatDraw draw count drawn s).1, P a := by
  induction count generalizing s drawn with
  | zero => exact before
  | succ count ih =>
    rw [repeatDraw]
    refine ih (fun a mem => ?_) _
    rcases Array.mem_push.1 mem with old | rfl
    · exact before a old
    · exact h s

end RandomSource

/-! ### Batches of values of a kind -/

namespace Batch

/-- All values of a batch are of a kind, and so is the value of a constant batch without
repetitions. -/
def Holds (P : Value → Prop) : Batch → Prop
  | constant value _ => P value
  | varying values => ∀ v ∈ values, P v

/-- A batch has so many values, all of a kind. -/
structure Consists (P : Value → Prop) (count : Nat) (b : Batch) : Prop where
  size : b.size = count
  holds : b.Holds P

theorem Consists.mono {P Q : Value → Prop} {count : Nat} {b : Batch} (h : b.Consists P count)
    (implies : ∀ v, P v → Q v) : b.Consists Q count := by
  refine ⟨h.size, ?_⟩
  cases b with
  | constant value n => exact implies value h.holds
  | varying values => exact fun v mem => implies v (h.holds v mem)

theorem consists_constant {P : Value → Prop} {value : Value} (h : P value) (count : Nat) :
    (constant value count).Consists P count := ⟨rfl, h⟩

theorem consists_singleton {P : Value → Prop} {value : Value} (h : P value) :
    (varying #[value]).Consists P 1 := by
  refine ⟨rfl, fun v mem => ?_⟩
  rw [Array.mem_singleton] at mem
  exact mem ▸ h

theorem Holds.mem {P : Value → Prop} {b : Batch} (h : b.Holds P) : ∀ v ∈ b.toArray, P v := by
  cases b with
  | constant value n =>
    intro v mem
    rw [(Array.mem_replicate.1 mem).2]
    exact h
  | varying values => exact h

theorem Holds.get? {P : Value → Prop} {b : Batch} (h : b.Holds P) {i : Nat} {v : Value}
    (found : b.get? i = some v) : P v := by
  rw [← getElem?_toArray] at found
  exact h.mem v (Array.mem_of_getElem? found)

theorem Holds.representative? {P : Value → Prop} {b : Batch} (h : b.Holds P) {v : Value}
    (found : b.representative? = some v) : P v := by
  cases b with
  | constant value n =>
    cases found
    exact h
  | varying values => exact h v (Array.mem_of_getElem? found)

/-! ### Columns of values of a kind -/

variable {ι : Type} {R : ι → Value → Prop} {count : Nat} {is : List ι} {columns : List Batch}

/-- Each repetition has a value from every column. -/
theorem forall₂_row (h : List.Forall₂ (fun i column => column.Consists (R i) count) is columns)
    {n : Nat} (lt : n < count) : List.Forall₂ R is (row columns n) := by
  induction h with
  | nil => exact .nil
  | @cons i column _ _ here _ ih =>
    obtain ⟨v, found⟩ : ∃ v, column.get? n = some v := by
      rw [← Option.isSome_iff_exists, get?_eq_some_iff_lt, here.size]
      exact lt
    rw [row, List.filterMap_cons, found]
    exact .cons (here.holds.get? found) ih

theorem forall₂_representatives
    (h : List.Forall₂ (fun i column => column.Consists (R i) count) is columns)
    (all : allConstant columns = true) : List.Forall₂ R is (representatives columns) := by
  induction h with
  | nil => exact .nil
  | @cons i column _ columns here _ ih =>
    rw [allConstant, List.all_cons, Bool.and_eq_true] at all
    obtain ⟨is_constant, all⟩ := all
    cases column with
    | constant value n => exact .cons here.holds (ih all)
    | varying values => cases is_constant

/-- Lists of values from every column. -/
theorem consists_lists (h : List.Forall₂ (fun i column => column.Consists (R i) count) is columns) :
    (lists columns count).Consists (fun v => ∃ values, List.Forall₂ R is values ∧ v = .list values)
      count := by
  unfold lists
  split
  · next all => exact consists_constant ⟨_, forall₂_representatives h all, rfl⟩ count
  · refine ⟨by simp [size], fun v mem => ?_⟩
    obtain ⟨n, n_mem, rfl⟩ := Array.mem_map.1 mem
    exact ⟨_, forall₂_row h (Array.mem_range.1 n_mem), rfl⟩

end Batch

namespace Builtin

/-- The values that a call can give for its operands. -/
inductive Gives : Builtin → List Value → Value → Prop
  | append (operands : List Value) : Gives append operands (joined operands)
  | lower (operand : Value) : Gives lower [operand] (lowered operand)
  | oneOf {operands : List Value} {v : Value} (mem : v ∈ candidates operands) :
      Gives oneOf operands v
  | oneOfUnique {operands : List Value} {v : Value} (mem : v ∈ candidates operands) :
      Gives oneOfUnique operands v
  | between {low high n : Int64} (ge : low ≤ n) (le : n ≤ high) :
      Gives between [.integer low, .integer high] (.integer n)
  | upto {high n : Int64} (ge : 0 ≤ n) (le : n ≤ high) : Gives upto [.integer high] (.integer n)

/-! ### Operands that are accepted -/

theorem eq_singleton_of_exactly {b : Builtin} {operands : List Value} {line : Nat}
    {vector : Vector Value 1} (h : b.exactly 1 operands line = .ok vector) :
    operands = [vector.get 0] := by
  unfold exactly at h
  split at h
  · next length =>
    cases h
    obtain ⟨first, rfl⟩ := List.length_eq_one_iff.1 length
    rfl
  · cases h

theorem eq_pair_of_exactly {b : Builtin} {operands : List Value} {line : Nat}
    {vector : Vector Value 2} (h : b.exactly 2 operands line = .ok vector) :
    operands = [vector.get 0, vector.get 1] := by
  unfold exactly at h
  split at h
  · next length =>
    cases h
    obtain ⟨first, second, rfl⟩ := List.length_eq_two.1 length
    rfl
  · cases h

theorem eq_integer_of_asInteger {method : String} {line : Nat} {v : Value} {n : Int64}
    (h : v.asInteger method line = .ok n) : v = .integer n := by
  cases v with
  | integer value =>
    cases h
    rfl
  | _ => cases h

theorem le_of_range {low high : Int64} {line : Nat} {bounds : Int64 × Int64}
    (h : range low high line = .ok bounds) : low ≤ high ∧ bounds = (low, high) := by
  unfold range at h
  split at h
  · cases h
  · next not_lt =>
    cases h
    exact ⟨Int64.not_lt.1 not_lt, rfl⟩

theorem gives_between {operands : List Value} {line : Nat} {bounds : Int64 × Int64}
    (h : betweenRange operands line = .ok bounds) (s : RandomSource) :
    Gives between operands (integerIn bounds s).1 := by
  obtain ⟨vector, two, h⟩ := bind_eq_ok_iff.1 h
  obtain ⟨low, low_eq, h⟩ := bind_eq_ok_iff.1 h
  obtain ⟨high, high_eq, h⟩ := bind_eq_ok_iff.1 h
  obtain ⟨le, rfl⟩ := le_of_range h
  obtain ⟨ge, le⟩ := RandomSource.between_mem le s
  have first : vector.get 0 = .integer low := eq_integer_of_asInteger low_eq
  have second : vector.get 1 = .integer high := eq_integer_of_asInteger high_eq
  rw [eq_pair_of_exactly two, first, second]
  exact .between ge le

theorem gives_upto {operands : List Value} {line : Nat} {bounds : Int64 × Int64}
    (h : uptoRange operands line = .ok bounds) (s : RandomSource) :
    Gives upto operands (integerIn bounds s).1 := by
  obtain ⟨vector, one, h⟩ := bind_eq_ok_iff.1 h
  obtain ⟨high, high_eq, h⟩ := bind_eq_ok_iff.1 h
  obtain ⟨le, rfl⟩ := le_of_range h
  obtain ⟨ge, le⟩ := RandomSource.between_mem le s
  have first : vector.get 0 = .integer high := eq_integer_of_asInteger high_eq
  rw [eq_singleton_of_exactly one, first]
  exact .upto ge le

theorem gives_lowered {operands : List Value} {line : Nat} {vector : Vector Value 1}
    (h : exactly lower 1 operands line = .ok vector) :
    Gives lower operands (lowered (vector.get 0)) := by
  rw [eq_singleton_of_exactly h]
  exact .lower _

/-- Whatever index is drawn, the element is one of the candidates. -/
theorem pick_mem {operands : List Value} {line : Nat}
    {chosen : { elements : Array Value // 0 < elements.size }}
    (h : choices operands line = .ok chosen) {draw : RandomSource → Nat × RandomSource}
    (draw_lt : ∀ s, (draw s).1 < chosen.1.size) (s : RandomSource) :
    (pick chosen.1 draw draw_lt s).1 ∈ candidates operands := by
  unfold choices at h
  dsimp only at h
  split at h
  · cases h
    exact List.mem_toArray.1 (Array.getElem_mem (draw_lt s))
  · cases h

/-! ### The forms of a call -/

variable (b : Builtin) (site : CallSite) (operands : List Value) (count : Nat)

theorem yields_rowValue : (b.rowValue site operands).Yields fun r => b.Gives operands r.1 := by
  cases b with
  | append => exact Generator.yields_pure (.append operands)
  | lower =>
    refine (Generator.yields_check fun vector one => gives_lowered one).bind fun vector gives => ?_
    exact Generator.yields_pure gives
  | oneOf =>
    refine (Generator.yields_check fun chosen found => found).bind fun chosen found => ?_
    refine Generator.Yields.bind (Generator.yields_random fun s => pick_mem found _ s) ?_
    exact fun value mem => Generator.yields_pure (.oneOf mem)
  | oneOfUnique =>
    refine (Generator.yields_drawOne (poolKey site operands) site.line).bind fun value mem => ?_
    exact Generator.yields_pure (.oneOfUnique mem)
  | between =>
    refine (Generator.yields_check fun bounds found => found).bind fun bounds found => ?_
    refine (Generator.yields_random fun s => gives_between found s).bind fun value gives => ?_
    exact Generator.yields_pure gives
  | upto =>
    refine (Generator.yields_check fun bounds found => found).bind fun bounds found => ?_
    refine (Generator.yields_random fun s => gives_upto found s).bind fun value gives => ?_
    exact Generator.yields_pure gives

theorem yields_callRow : (b.callRow site operands).Yields fun r => b.Gives operands r.1 :=
  Generator.Yields.bind (P := fun _ => True) (Generator.yields_check fun _ _ => trivial) fun _ _ =>
    b.yields_rowValue site operands

theorem yields_sampled {P : Value → Prop} {draw : RandomSource → Value × RandomSource}
    (h : ∀ s, P (draw s).1) : (sampled draw count).Yields (Batch.Consists P count) := by
  refine Generator.Yields.bind (Generator.yields_random fun s => ?_) fun values consists =>
    Generator.yields_pure consists
  exact ⟨RandomSource.size_draws draw count s,
    RandomSource.forall_mem_repeatDraw h count (fun a mem => absurd mem (Array.not_mem_empty a)) s⟩

theorem yields_batchValue :
    (b.batchValue site operands count).Yields (Batch.Consists (b.Gives operands) count) := by
  cases b with
  | append => exact Generator.yields_pure (Batch.consists_constant (.append operands) count)
  | lower =>
    refine (Generator.yields_check fun vector one => gives_lowered one).bind fun vector gives => ?_
    exact Generator.yields_pure (Batch.consists_constant gives count)
  | oneOf =>
    refine (Generator.yields_check fun chosen found => found).bind fun chosen found => ?_
    exact yields_sampled count fun s => .oneOf (pick_mem found _ s)
  | oneOfUnique =>
    rw [batchValue]
    split
    · next single =>
      subst single
      refine (yields_rowValue oneOfUnique site operands).bind fun r gives => ?_
      exact Generator.yields_pure (Batch.consists_singleton gives)
    · refine (Generator.yields_draw _ _ _).bind fun values granted => ?_
      obtain ⟨size, mem⟩ := granted
      exact Generator.yields_pure ⟨size, fun v here => .oneOfUnique (mem v here)⟩
  | between =>
    refine (Generator.yields_check fun bounds found => found).bind fun bounds found => ?_
    exact yields_sampled count (gives_between found)
  | upto =>
    refine (Generator.yields_check fun bounds found => found).bind fun bounds found => ?_
    exact yields_sampled count (gives_upto found)

theorem yields_callBatch :
    (b.callBatch site operands count).Yields (Batch.Consists (b.Gives operands) count) :=
  Generator.Yields.bind (P := fun _ => True) (Generator.yields_check fun _ _ => trivial) fun _ _ =>
    b.yields_batchValue site operands count

variable {ι : Type} {R : ι → Value → Prop} {is : List ι} {columns : List Batch}

theorem yields_callRows
    (h : List.Forall₂ (fun i column => column.Consists (R i) count) is columns) :
    (b.callRows site columns count).Yields
      (Batch.Consists (fun v => ∃ values, List.Forall₂ R is values ∧ b.Gives values v) count) := by
  refine Generator.Yields.bind (Generator.yields_mapM
    (P := fun v => ∃ values, List.Forall₂ R is values ∧ b.Gives values v) fun n mem => ?_) ?_
  · have row := Batch.forall₂_row h (List.mem_range.1 mem)
    refine (b.yields_callRow site (Batch.row columns n)).bind fun r gives => ?_
    exact Generator.yields_pure ⟨_, row, gives⟩
  · rintro values ⟨length, given⟩
    refine Generator.yields_pure ⟨?_, fun v mem => given v (List.mem_toArray.1 mem)⟩
    rw [Batch.size, List.size_toArray, length, List.length_range]

/-- Each value is given for operands that the columns have in its repetition. -/
theorem yields_apply (h : List.Forall₂ (fun i column => column.Consists (R i) count) is columns) :
    (b.apply site columns count).Yields
      (Batch.Consists (fun v => ∃ values, List.Forall₂ R is values ∧ b.Gives values v) count) := by
  unfold apply
  split
  · next all =>
    refine (b.yields_callBatch site _ count).mono fun batch consists => ?_
    exact consists.mono fun v gives => ⟨_, Batch.forall₂_representatives h all, gives⟩
  · exact b.yields_callRows site count h

end Builtin

end Phrasemill
