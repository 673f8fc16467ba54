import Recollection.Number.Word
/-!
# A stream of random words

Random choices are drawn from a stream cipher: the keystream of ChaCha with twelve rounds, whose
key is stretched from a seed of one word. Equal seeds give equal streams.

A block of sixteen words is made from four constants, eight words of key, a block counter of two
words and two words of zero. The rounds work on a copy, and the block itself is added to it.
-/

set_option autoImplicit false

namespace Recollection.Random

/-- A block of sixteen words. -/
abbrev Block : Type :=
  Vector UInt32 16

/-! ## Blocks -/

/-- Mixes four words of a block. -/
def quarterRound (a b c d : Fin 16) (block : Block) : Block :=
  let block := block.set a (block[a] + block[b])
  let block := block.set d (Word.rotateLeft (block[d] ^^^ block[a]) 16)
  let block := block.set c (block[c] + block[d])
  let block := block.set b (Word.rotateLeft (block[b] ^^^ block[c]) 12)
  let block := block.set a (block[a] + block[b])
  let block := block.set d (Word.rotateLeft (block[d] ^^^ block[a]) 8)
  let block := block.set c (block[c] + block[d])
  block.set b (Word.rotateLeft (block[b] ^^^ block[c]) 7)

/-- Mixes the columns of a block, and then its diagonals. -/
def doubleRound (block : Block) : Block :=
  let block := quarterRound 0 4 8 12 block
  let block := quarterRound 1 5 9 13 block
  let block := quarterRound 2 6 10 14 block
  let block := quarterRound 3 7 11 15 block
  let block := quarterRound 0 5 10 15 block
  let block := quarterRound 1 6 11 12 block
  let block := quarterRound 2 7 8 13 block
  quarterRound 3 4 9 14 block

/-- A block after a number of double rounds. -/
def mix : Nat → Block → Block
  | 0, block => block
  | rounds + 1, block => mix rounds (doubleRound block)

/-- The block of a key and a counter, before any round. -/
def startBlock (key : Vector UInt32 8) (counter : UInt64) : Block :=
  #v[0x61707865, 0x3320646e, 0x79622d32, 0x6b206574,
    key[0], key[1], key[2], key[3], key[4], key[5], key[6], key[7],
    counter.toUInt32, (counter >>> 32).toUInt32, 0, 0]

/-- The words of the keystream that a counter gives. -/
def keystream (key : Vector UInt32 8) (counter : UInt64) : List UInt32 :=
  let start := startBlock key counter
  (start.zipWith (· + ·) (mix 6 start)).toList

/-! ## Keys -/

/-- The next state of the seed. -/
def nextSeed (seed : UInt64) : UInt64 :=
  seed * 6364136223846793005 + 11634580027462260723

/-- The word that a state of the seed gives: the state is folded, and then rotated to the right by
its highest bits. -/
def seedWord (seed : UInt64) : UInt32 :=
  let folded := (((seed >>> 18) ^^^ seed) >>> 27).toUInt32
  let count := (seed >>> 59).toUInt32
  Word.rotateRight folded count

/-- The words of a number of states after a seed. -/
def seedWords : Nat → UInt64 → List UInt32
  | 0, _ => []
  | count + 1, seed => seedWord (nextSeed seed) :: seedWords count (nextSeed seed)

theorem length_seedWords (count : Nat) (seed : UInt64) :
    (seedWords count seed).length = count := by
  induction count generalizing seed with
  | zero => rfl
  | succ count ih => simp [seedWords, ih]

/-- The key that a seed is stretched to. -/
def keyOfSeed (seed : UInt64) : Vector UInt32 8 :=
  ⟨(seedWords 8 seed).toArray, by simp [length_seedWords]⟩

/-! ## The stream -/

/-- What is left of a stream. -/
structure Stream where
  /-- The key. -/
  key : Vector UInt32 8
  /-- The counter of the next block. -/
  counter : UInt64
  /-- The words left of the last block. -/
  pending : List UInt32

namespace Stream

/-- The stream of a seed. -/
def ofSeed (seed : UInt64) : Stream :=
  ⟨keyOfSeed seed, 0, []⟩

/-- The next word. -/
def next (stream : Stream) : UInt32 × Stream :=
  match stream.pending with
  | word :: rest => (word, { stream with pending := rest })
  | [] =>
    match keystream stream.key stream.counter with
    | word :: rest => (word, ⟨stream.key, stream.counter + 1, rest⟩)
    | [] => (0, stream)

end Stream

end Recollection.Random
