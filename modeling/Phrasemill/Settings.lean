/-!
# Settings

What a run can be told apart from its grammar text, and whether the machine can do it that way.
-/

namespace Phrasemill

/-- How many workers large print statements are split among. -/
inductive Workers where
  /-- As many as the machine has processors. -/
  | automatic
  | fixed (count : Nat) (pos : 0 < count)
  deriving DecidableEq

namespace Workers

/-- The setting that a number stands for; zero leaves the choice to the machine. -/
def ofCount (count : Nat) : Workers :=
  if h : 0 < count then fixed count h else automatic

/-- The number of workers on a machine with so many processors, at least one. -/
def resolve (processors : Nat) : Workers → Nat
  | automatic => max processors 1
  | fixed count _ => count

end Workers

/-- The repetitions from which a print statement is split unless another number is set. -/
def defaultThreshold : Nat := 10000

structure Settings where
  workers : Nat := 1
  threshold : Nat := defaultThreshold
  /-- Whether what is generated becomes lines. -/
  materialize : Bool := true
  /-- What all randomness follows from. -/
  seed : UInt64 := 0
  /-- Whether the machine has threads for the workers. -/
  threads : Bool := true

end Phrasemill
