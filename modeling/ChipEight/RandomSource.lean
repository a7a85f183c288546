/-!
# Random words

A machine takes its random numbers from an endless sequence of 32-bit words and only counts how
many it has drawn. Seeded sequences are the keystream of the ChaCha cipher with twelve rounds: the
seed is stretched to a key of eight words, and block `n` of the stream gives the words `16 * n` to
`16 * n + 15`. The nonce is zero and the block number has 64 bits.
-/

namespace ChipEight

/-- A sequence of random words and the number of those already drawn. -/
structure RandomSource where
  words : Nat → UInt32
  drawn : Nat

namespace RandomSource

/-- The random byte that the next draw gives: the low byte of the next word. -/
def nextByte (r : RandomSource) : UInt8 := (r.words r.drawn).toUInt8

def skip (r : RandomSource) (count : Nat) : RandomSource := { r with drawn := r.drawn + count }

/-- The source that gives the words of a list and then zeros. -/
def ofList (words : List UInt32) : RandomSource :=
  let table := words.toArray
  ⟨fun n => table.getD n 0, 0⟩

/-- One step of the generator that stretches a seed. -/
def stretch (s : UInt64) : UInt64 := s * 6364136223846793005 + 11634580027462260723

def rotateRight (x : UInt32) (count : UInt32) : UInt32 :=
  (x >>> count) ||| (x <<< (32 - count))

/-- The key word of a stage of the stretched seed: its high bits are folded onto the others, and the
highest five say how far the result is rotated. -/
def keyWord (s : UInt64) : UInt32 :=
  rotateRight (((s >>> 18) ^^^ s) >>> 27).toUInt32 (s >>> 59).toUInt32

def key (seed : UInt64) : Vector UInt32 8 :=
  Vector.ofFn fun i => keyWord (Nat.repeat stretch (i.val + 1) seed)

abbrev Block := Vector UInt32 16

local instance Block.neZero : @NeZero Nat Zero.ofOfNat0 16 := Nat.instNeZeroSucc

/-- Adds word `b` to word `a` and mixes the sum into word `d`, which is rotated by `count` towards
its high end. -/
def addMix (s : Block) (a b d : Fin 16) (count : UInt32) : Block :=
  let sum := s[a.val] + s[b.val]
  (s.set a.val sum).set d.val (rotateRight (s[d.val] ^^^ sum) (32 - count))

def quarterRound (s : Block) (a b c d : Fin 16) : Block :=
  let s := addMix s a b d 16
  let s := addMix s c d b 12
  let s := addMix s a b d 8
  addMix s c d b 7

/-- A round on the four columns and a round on the four diagonals. -/
def doubleRound (s : Block) : Block :=
  let s := quarterRound s 0 4 8 12
  let s := quarterRound s 1 5 9 13
  let s := quarterRound s 2 6 10 14
  let s := quarterRound s 3 7 11 15
  let s := quarterRound s 0 5 10 15
  let s := quarterRound s 1 6 11 12
  let s := quarterRound s 2 7 8 13
  quarterRound s 3 4 9 14

/-- The block before the rounds: four constant words, the key, the block number and a zero nonce. -/
def blockInput (key : Vector UInt32 8) (number : UInt64) : Block :=
  #v[0x61707865, 0x3320646E, 0x79622D32, 0x6B206574,
    key[0], key[1], key[2], key[3], key[4], key[5], key[6], key[7],
    number.toUInt32, (number >>> 32).toUInt32, 0, 0]

/-- One block of the keystream: six double rounds, added to the block before them. -/
def block (key : Vector UInt32 8) (number : UInt64) : Block :=
  let input := blockInput key number
  Vector.zipWith (· + ·) (Nat.repeat doubleRound 6 input) input

def ofSeed (seed : UInt64) : RandomSource :=
  let k := key seed
  ⟨fun n => (block k (UInt64.ofNat (n / 16)))[n % 16], 0⟩

end RandomSource
end ChipEight
