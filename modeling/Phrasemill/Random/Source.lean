import Phrasemill.Random.Keystream

/-!
# Random sources

A random source is a position in a keystream. Taking a word moves it on by one, taking a long word by
two. The current block is kept beside the position to save computing it for every word; it follows from
key and position, so it adds nothing to them.
-/

namespace Phrasemill

open Phrasemill.Random

/-- A stream of random words and how far it has been used. -/
structure RandomSource where
  key : Key
  position : Nat
  /-- The block that holds the next word. -/
  block : Block
  block_eq : block = keystreamBlock key (position / 16)

namespace RandomSource

/-- The stream of a key from a position on. -/
def ofPosition (key : Key) (position : Nat) : RandomSource where
  key := key
  position := position
  block := keystreamBlock key (position / 16)
  block_eq := rfl

def ofSeed (seed : UInt64) : RandomSource := ofPosition (keyOfSeed seed) 0

def advance (s : RandomSource) : RandomSource :=
  if h : (s.position + 1) % 16 = 0 then ofPosition s.key (s.position + 1)
  else
    { s with
      position := s.position + 1
      block_eq := by rw [show (s.position + 1) / 16 = s.position / 16 by omega]; exact s.block_eq }

def nextWord (s : RandomSource) : UInt32 × RandomSource :=
  (s.block[s.position % 16], s.advance)

/-- Takes two words as one number, the first being its low half. -/
def nextLong (s : RandomSource) : UInt64 × RandomSource :=
  let (low, s) := s.nextWord
  let (high, s) := s.nextWord
  (low.toUInt64 ||| (high.toUInt64 <<< 32), s)

/-- A new source, seeded by the next long word, and what is left of this one. -/
def fork (s : RandomSource) : RandomSource × RandomSource :=
  let (seed, s) := s.nextLong
  (ofSeed seed, s)

/-- Repeats a draw, each from where the one before it stopped. -/
def repeatDraw {α : Type} (draw : RandomSource → α × RandomSource) :
    Nat → Array α → RandomSource → Array α × RandomSource
  | 0, drawn, s => (drawn, s)
  | n + 1, drawn, s =>
    let (a, s) := draw s
    repeatDraw draw n (drawn.push a) s

def draws {α : Type} (draw : RandomSource → α × RandomSource) (count : Nat) (s : RandomSource) :
    Array α × RandomSource :=
  repeatDraw draw count #[] s

end RandomSource

end Phrasemill
