import Phrasemill.Random.Source

/-!
# Uniform choice

A number below `n` is made from a random word by multiplication: the high half of `word * n` is the
number, and the low half decides whether the word is used at all. Words whose low half lies outside
a zone are rejected and the next one is tried, so that every number below `n` keeps equally many
words. Two zones are in use: a single choice takes the power-of-two multiple of `n`, which is quick
to find; a range from which many numbers are drawn takes the largest multiple that fits.

The rejections of one choice are bounded by `retryLimit`, so that a choice always ends.
-/

namespace Phrasemill

namespace Random

/-- The width of the words a number is made from. -/
inductive Width where
  | word
  | long
  deriving DecidableEq

def Width.bits : Width → Nat
  | word => 32
  | long => 64

def Width.size : Width → Nat
  | word => UInt32.size
  | long => UInt64.size

/-- How many words in a row may be rejected, the next one being used as it is. Sampling by rejection
knows no such limit but goes on until a word is accepted. This is a deviation from it, made so that a
choice ends on every stream, and it is never met: either zone accepts at least half of all words, so a
stream that has a thousand to be rejected in a row comes up with a chance of one in two to the power of
a thousand. The number would be below `n` even then. -/
def retryLimit : Nat := 1000

/-- The low halves accepted for a single choice: `n` shifted to the top of the word. -/
def shiftedZone (w : Width) (n : Nat) : Nat := n <<< (w.bits - 1 - n.log2) - 1

/-- The low halves accepted for a range: the largest multiple of `n` that fits in a word. -/
def fullZone (w : Width) (n : Nat) : Nat := w.size - 1 - (w.size - n) % n

end Random

namespace RandomSource

open Phrasemill.Random

def next (w : Width) (s : RandomSource) : Nat × RandomSource :=
  match w with
  | .word => let (x, s) := s.nextWord; (x.toNat, s)
  | .long => let (x, s) := s.nextLong; (x.toNat, s)

/-- A number below `n` from the first word that the zone accepts. -/
def scaled (w : Width) (n zone : Nat) : (retries : Nat) → RandomSource → Nat × RandomSource
  | 0, s =>
    let (x, s) := s.next w
    (x * n / w.size, s)
  | retries + 1, s =>
    let (x, s) := s.next w
    if x * n % w.size ≤ zone then (x * n / w.size, s) else scaled w n zone retries s

/-- A single choice of an index below `n`. -/
def index (w : Width) (n : Nat) (s : RandomSource) : Nat × RandomSource :=
  s.scaled w n (shiftedZone w n) retryLimit

/-- A number below `n`, as one of many drawn from the same range. -/
def offset (n : Nat) (s : RandomSource) : Nat × RandomSource :=
  s.scaled .long n (fullZone .long n) retryLimit

/-- An integer from `low` to `high`, both included. The range of all integers takes any long word. -/
def between (low high : Int64) (s : RandomSource) : Int64 × RandomSource :=
  let size := (high.toInt - low.toInt + 1).toNat
  if size = UInt64.size then
    let (x, s) := s.nextLong
    (x.toInt64, s)
  else
    let (k, s) := s.offset size
    (Int64.ofInt (low.toInt + k), s)

/-! ### What is made from a word lies below the bound -/

theorem nextLong_lt (s : RandomSource) : s.nextLong.1.toNat < UInt64.size :=
  s.nextLong.1.toNat_lt_size

theorem next_lt (w : Width) (s : RandomSource) : (s.next w).1 < w.size := by
  cases w
  · exact s.nextWord.1.toNat_lt_size
  · exact s.nextLong_lt

theorem scaled_lt {w : Width} {n zone retries : Nat} (h : 0 < n) (s : RandomSource) :
    (s.scaled w n zone retries).1 < n := by
  have high (s : RandomSource) : (s.next w).1 * n / w.size < n :=
    Nat.div_lt_of_lt_mul (Nat.mul_lt_mul_of_pos_right (s.next_lt w) h)
  induction retries generalizing s with
  | zero => exact high s
  | succ retries ih =>
    unfold scaled
    dsimp only
    split
    · exact high s
    · exact ih _

theorem index_lt {n : Nat} (h : 0 < n) (w : Width) (s : RandomSource) : (s.index w n).1 < n :=
  scaled_lt h s

theorem offset_lt {n : Nat} (h : 0 < n) (s : RandomSource) : (s.offset n).1 < n :=
  scaled_lt h s

end RandomSource

end Phrasemill
