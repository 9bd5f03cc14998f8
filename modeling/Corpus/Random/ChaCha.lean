import Corpus.Random.Source

/-!
# The ChaCha generator

The random source of a seeded run: the stream cipher ChaCha with twelve rounds, whose key is
spread from a 64-bit seed. A block of sixteen words is made from the key and the number of the
block; words are given out in order, block after block, so equal seeds give equal streams.
-/

set_option autoImplicit false

namespace Corpus.Random

/-- The sixteen words of a block. -/
abbrev Block := Vector UInt32 16

namespace Block

/-- Turns a word to the left. -/
def rotate (x : UInt32) (n : UInt32) : UInt32 :=
  (x <<< n) ||| (x >>> (32 - n))

/-- Mixes four words. -/
def quarterRound (b : Block) (i j k l : Fin 16) : Block :=
  let b := b.set i (b[i] + b[j])
  let b := b.set l (rotate (b[l] ^^^ b[i]) 16)
  let b := b.set k (b[k] + b[l])
  let b := b.set j (rotate (b[j] ^^^ b[k]) 12)
  let b := b.set i (b[i] + b[j])
  let b := b.set l (rotate (b[l] ^^^ b[i]) 8)
  let b := b.set k (b[k] + b[l])
  b.set j (rotate (b[j] ^^^ b[k]) 7)

/-- Mixes the columns of the block, then its diagonals. -/
def doubleRound (b : Block) : Block :=
  let b := b.quarterRound 0 4 8 12
  let b := b.quarterRound 1 5 9 13
  let b := b.quarterRound 2 6 10 14
  let b := b.quarterRound 3 7 11 15
  let b := b.quarterRound 0 5 10 15
  let b := b.quarterRound 1 6 11 12
  let b := b.quarterRound 2 7 8 13
  b.quarterRound 3 4 9 14

/-- Mixes the block that many times over, two rounds each time. -/
def mix : Nat → Block → Block
  | 0, b => b
  | n + 1, b => mix n b.doubleRound

end Block

/-- The eight words of a key. -/
abbrev Key := Vector UInt32 8

namespace Key

/-- The state that follows in the sequence from which keys are spread. -/
def advance (state : UInt64) : UInt64 :=
  state * 6364136223846793005 + 11634580027462260723

/-- The word that a state of that sequence gives: its upper half folded into 32 bits and turned by
its topmost bits. -/
def fold (state : UInt64) : UInt32 :=
  let word := (((state >>> 18) ^^^ state) >>> 27).toUInt32
  let turn := (state >>> 59).toUInt32
  (word >>> turn) ||| (word <<< ((32 - turn) &&& 31))

def ofSeed (seed : UInt64) : Key :=
  let s1 := advance seed
  let s2 := advance s1
  let s3 := advance s2
  let s4 := advance s3
  let s5 := advance s4
  let s6 := advance s5
  let s7 := advance s6
  let s8 := advance s7
  #v[fold s1, fold s2, fold s3, fold s4, fold s5, fold s6, fold s7, fold s8]

end Key

def Block.ofKey (key : Key) (number : UInt64) : Block :=
  let initial : Block :=
    #v[0x61707865, 0x3320646E, 0x79622D32, 0x6B206574,
       key[0], key[1], key[2], key[3], key[4], key[5], key[6], key[7],
       number.toUInt32, (number >>> 32).toUInt32, 0, 0]
  Vector.zipWith (· + ·) (Block.mix 6 initial) initial

/-- A place in the stream of a key: the words left of the block in hand, and the number of the
block to come. -/
structure ChaCha where
  key : Key
  block : UInt64
  ready : List UInt32

namespace ChaCha

/-- The beginning of the stream of a seed. -/
def ofSeed (seed : UInt64) : ChaCha :=
  ⟨.ofSeed seed, 0, []⟩

def word (s : ChaCha) : UInt32 × ChaCha :=
  match s.ready with
  | x :: ready => (x, { s with ready })
  | [] =>
    match (Block.ofKey s.key s.block).toList with
    | x :: ready => (x, { s with block := s.block + 1, ready })
    | [] => (0, s)

instance : RandomSource ChaCha where
  word := word

end ChaCha

end Corpus.Random
