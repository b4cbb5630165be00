/-!
# The keystream

Random words are the keystream of the ChaCha block function with twelve rounds, a key of eight words
and no nonce. Block `n` is a function of the key and `n` alone, so a position in the stream says all
that there is to say about what comes next.
-/

namespace Phrasemill.Random

abbrev Key := Vector UInt32 8

/-- The state of the block function, and one block of the stream. -/
abbrev Block := Vector UInt32 16

/-- Rotates a word to the left by `n` bits, `0 < n < 32`. -/
def rotateLeft (x n : UInt32) : UInt32 := (x <<< n) ||| (x >>> (32 - n))

def quarterRound (s : Block) (a b c d : Fin 16) : Block :=
  let xa := s[a] + s[b]
  let xd := rotateLeft (s[d] ^^^ xa) 16
  let xc := s[c] + xd
  let xb := rotateLeft (s[b] ^^^ xc) 12
  let xa := xa + xb
  let xd := rotateLeft (xd ^^^ xa) 8
  let xc := xc + xd
  let xb := rotateLeft (xb ^^^ xc) 7
  (((s.set a xa).set b xb).set c xc).set d xd

def doubleRound (s : Block) : Block :=
  let s := quarterRound s 0 4 8 12
  let s := quarterRound s 1 5 9 13
  let s := quarterRound s 2 6 10 14
  let s := quarterRound s 3 7 11 15
  let s := quarterRound s 0 5 10 15
  let s := quarterRound s 1 6 11 12
  let s := quarterRound s 2 7 8 13
  quarterRound s 3 4 9 14

/-- The state before any round: four constants, the key, the block number and no nonce. -/
def initialState (key : Key) (n : Nat) : Block :=
  let constants : Vector UInt32 4 := #v[0x61707865, 0x3320646e, 0x79622d32, 0x6b206574]
  let number : Vector UInt32 4 := #v[UInt32.ofNat n, UInt32.ofNat (n / UInt32.size), 0, 0]
  show Vector UInt32 (4 + 8 + 4) from constants ++ key ++ number

def keystreamBlock (key : Key) (n : Nat) : Block :=
  let initial := initialState key n
  (Nat.repeat doubleRound 6 initial).zipWith (· + ·) initial

/-! ### Keys from seeds -/

/-- One step of the generator that spreads a seed over a key. -/
def spreadStep (s : UInt64) : UInt64 := s * 6364136223846793005 + 11634580027462260723

/-- The key word that a state of that generator gives. -/
def spreadWord (s : UInt64) : UInt32 :=
  let x := (((s >>> 18) ^^^ s) >>> 27).toUInt32
  let n := (s >>> 59).toUInt32
  (x >>> n) ||| (x <<< (32 - n))

def keyOfSeed (seed : UInt64) : Key :=
  Vector.ofFn fun i : Fin 8 => spreadWord (Nat.repeat spreadStep (i + 1) seed)

end Phrasemill.Random
