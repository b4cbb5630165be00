import Phrasemill.Batch
import Phrasemill.Builtin
import Phrasemill.Generator

/-!
# Calling builtins

A builtin is called in one of two forms: on one row of operands, for one value, or on operands that
are the same in every repetition, for a whole batch. Text functions of constant operands give a
constant batch; everything random gives a varying one. The two forms of a random choice take their
randomness differently: a row chooses a single index, a batch draws many numbers from one range.
-/

namespace Phrasemill

structure CallSite where
  /-- The innermost rule that is being expanded. -/
  rule : Option String
  line : Nat

namespace Builtin

/-! ### Random choice -/

/-- A random element, its index found by `draw`. -/
def pick (elements : Array Value) (draw : RandomSource → Nat × RandomSource)
    (draw_lt : ∀ s, (draw s).1 < elements.size) (s : RandomSource) : Value × RandomSource :=
  have := draw_lt s
  (elements[(draw s).1], (draw s).2)

/-- The candidates of a choice; there has to be one. -/
def choices (operands : List Value) (line : Nat) :
    Except Fault { elements : Array Value // 0 < elements.size } :=
  let elements := (candidates operands).toArray
  if h : 0 < elements.size then .ok ⟨elements, h⟩ else .error (.emptyChoice line)

/-- The key of a draw without repetition. -/
def poolKey (site : CallSite) (operands : List Value) : Pool.Key :=
  ⟨site.rule, candidates operands⟩

/-! ### Random integers -/

/-- The bounds of a range that is not empty. -/
def range (low high : Int64) (line : Nat) : Except Fault (Int64 × Int64) :=
  if high < low then .error (.emptyRange low high line) else .ok (low, high)

def betweenRange (operands : List Value) (line : Nat) : Except Fault (Int64 × Int64) := do
  let operands ← exactly between 2 operands line
  let low ← operands[0].asInteger between.methodName line
  let high ← operands[1].asInteger between.methodName line
  range low high line

def uptoRange (operands : List Value) (line : Nat) : Except Fault (Int64 × Int64) := do
  let operands ← exactly upto 1 operands line
  let high ← operands[0].asInteger upto.methodName line
  range 0 high line

def integerIn (bounds : Int64 × Int64) (s : RandomSource) : Value × RandomSource :=
  let (n, s) := s.between bounds.1 bounds.2
  (.integer n, s)

/-! ### One row -/

/-- One value from one row of operands, and whether it took no randomness. -/
def rowValue (b : Builtin) (site : CallSite) (operands : List Value) : Generator (Value × Bool) :=
  match b with
  | append => return (joined operands, true)
  | lower => do
    let operands ← Generator.check (exactly lower 1 operands site.line)
    return (lowered operands[0], true)
  | oneOf => do
    let ⟨elements, h⟩ ← Generator.check (choices operands site.line)
    let value ← Generator.random
      (pick elements (·.index .word elements.size) (RandomSource.index_lt h .word))
    return (value, false)
  | oneOfUnique => do
    return (← Generator.drawOne (poolKey site operands) site.line, false)
  | between => do
    let bounds ← Generator.check (betweenRange operands site.line)
    return (← Generator.random (integerIn bounds), false)
  | upto => do
    let bounds ← Generator.check (uptoRange operands site.line)
    return (← Generator.random (integerIn bounds), false)

/-- One value from one row of operands whose number is checked first. -/
def callRow (b : Builtin) (site : CallSite) (operands : List Value) : Generator (Value × Bool) := do
  Generator.check (b.checkArity operands.length site.line)
  b.rowValue site operands

/-! ### A whole batch -/

def sampled (draw : RandomSource → Value × RandomSource) (count : Nat) : Generator Batch := do
  return .varying (← Generator.random (RandomSource.draws draw count))

/-- `count` values from operands that are the same for all. -/
def batchValue (b : Builtin) (site : CallSite) (operands : List Value) (count : Nat) :
    Generator Batch :=
  match b with
  | append => return .constant (joined operands) count
  | lower => do
    let operands ← Generator.check (exactly lower 1 operands site.line)
    return .constant (lowered operands[0]) count
  | oneOf => do
    let ⟨elements, h⟩ ← Generator.check (choices operands site.line)
    sampled (pick elements (·.offset elements.size) (RandomSource.offset_lt h)) count
  | oneOfUnique =>
    if count = 1 then do
      let (value, _) ← rowValue oneOfUnique site operands
      return .varying #[value]
    else do
      return .varying (← Generator.draw (poolKey site operands) (.many count) site.line)
  | between => do
    let bounds ← Generator.check (betweenRange operands site.line)
    sampled (integerIn bounds) count
  | upto => do
    let bounds ← Generator.check (uptoRange operands site.line)
    sampled (integerIn bounds) count

/-- `count` values from operands whose number is checked first. -/
def callBatch (b : Builtin) (site : CallSite) (operands : List Value) (count : Nat) :
    Generator Batch := do
  Generator.check (b.checkArity operands.length site.line)
  b.batchValue site operands count

/-! ### Columns of operands -/

/-- One value per repetition, each from its own row. -/
def callRows (b : Builtin) (site : CallSite) (columns : List Batch) (count : Nat) :
    Generator Batch := do
  let values ← (List.range count).mapM fun i => do
    let (value, _) ← b.callRow site (Batch.row columns i)
    return value
  return .varying values.toArray

/-- Applies a builtin to columns of operands: as a batch if all are constant, else row by row. -/
def apply (b : Builtin) (site : CallSite) (columns : List Batch) (count : Nat) : Generator Batch :=
  if Batch.allConstant columns then b.callBatch site (Batch.representatives columns) count
  else b.callRows site columns count

end Builtin

end Phrasemill
