import Phrasemill.Value

/-!
# Batches

Evaluating an expression for `n` repetitions gives a batch of `n` values. A constant batch is one
value that was found without any randomness and stands for all repetitions; a varying batch has a
value of its own for each. Which of the two a batch is decides how a builtin is applied to it, so
the difference matters even between batches of the same values.
-/

namespace Phrasemill

/-- One value per repetition. -/
inductive Batch where
  /-- `count` copies of a value that took no randomness. -/
  | constant (value : Value) (count : Nat)
  | varying (values : Array Value)
  deriving DecidableEq

namespace Batch

/-- Whether one value stands for all repetitions. -/
def isConstant : Batch → Bool
  | constant _ _ => true
  | varying _ => false

def size : Batch → Nat
  | constant _ count => count
  | varying values => values.size

def isEmpty (b : Batch) : Bool := b.size == 0

def get? : Batch → Nat → Option Value
  | constant value count, i => if i < count then some value else none
  | varying values, i => values[i]?

/-- The value that stands for the batch: the constant, or the first value. -/
def representative? : Batch → Option Value
  | constant value _ => some value
  | varying values => values[0]?

def toArray : Batch → Array Value
  | constant value count => Array.replicate count value
  | varying values => values

def toLines : Batch → List String
  | constant value count => List.replicate count value.toText
  | varying values => values.toList.map Value.toText

@[simp] theorem size_toArray (b : Batch) : b.toArray.size = b.size := by
  cases b <;> simp [toArray, size]

theorem getElem?_toArray (b : Batch) (i : Nat) : b.toArray[i]? = b.get? i := by
  cases b <;> simp [toArray, get?, Array.getElem?_replicate]

theorem get?_eq_some_iff_lt {b : Batch} {i : Nat} : (b.get? i).isSome ↔ i < b.size := by
  rw [← getElem?_toArray, ← size_toArray]
  simp

/-! ### Walking through a batch -/

/-- A walk through the values of a batch and how far it has come. -/
structure Walk where
  batch : Batch
  index : Nat := 0

namespace Walk

def left (w : Walk) : Nat := w.batch.size - w.index

/-- The next value and the walk after it. -/
def next? (w : Walk) : Option (Value × Walk) :=
  (w.batch.get? w.index).map fun value => (value, { w with index := w.index + 1 })

theorem left_of_next? {w w' : Walk} {v : Value} (h : w.next? = some (v, w')) :
    w'.left + 1 = w.left := by
  obtain ⟨u, hu, e⟩ := Option.map_eq_some_iff.1 h
  have := get?_eq_some_iff_lt.1 (Option.isSome_iff_exists.2 ⟨u, hu⟩)
  simp only [Prod.mk.injEq] at e
  simp only [← e.2, left]
  omega

/-- The values still to come, each with the number of values left after it. -/
def remaining (w : Walk) : List (Value × Nat) :=
  match h : w.next? with
  | none => []
  | some (value, w') =>
    have : w'.left < w.left := Nat.lt_of_succ_le (Nat.le_of_eq (left_of_next? h))
    (value, w'.left) :: w'.remaining
termination_by w.left

end Walk

/-! ### Columns -/

/-- The values of one repetition, column by column. -/
def row (columns : List Batch) (i : Nat) : List Value := columns.filterMap (·.get? i)

def representatives (columns : List Batch) : List Value := columns.filterMap representative?

def allConstant (columns : List Batch) : Bool := columns.all isConstant

/-- One list per repetition, made of its values in every column. -/
def lists (columns : List Batch) (count : Nat) : Batch :=
  if allConstant columns then constant (.list (representatives columns)) count
  else varying ((Array.range count).map fun i => .list (row columns i))

end Batch

end Phrasemill
