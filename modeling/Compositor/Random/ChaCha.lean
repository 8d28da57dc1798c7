/-! # Random draws from a seed

Draws are a function of a seed and of how many words were used before: the words
are the key stream of the ChaCha cipher with twelve rounds, whose key is expanded
from the seed.  A `Generator` is a key and the number of words used.
-/

namespace Compositor

/-- A source of random draws. -/
structure Generator where
  /-- The eight words of the key. -/
  key : Vector UInt32 8
  /-- How many words of sixty-four bits were used. -/
  used : Nat

namespace Generator

/-! ## The key stream -/

/-- The sixteen words of a cipher block. -/
abbrev Block : Type := Vector UInt32 16

/-- Rotates a word to the left. -/
def rotateLeft (x : UInt32) (n : UInt32) : UInt32 := (x <<< n) ||| (x >>> (32 - n))

/-- Mixes four words of a block. -/
def quarterRound (s : Block) (a b c d : Fin 16) : Block :=
  let s := s.set a (s[a] + s[b])
  let s := s.set d (rotateLeft (s[d] ^^^ s[a]) 16)
  let s := s.set c (s[c] + s[d])
  let s := s.set b (rotateLeft (s[b] ^^^ s[c]) 12)
  let s := s.set a (s[a] + s[b])
  let s := s.set d (rotateLeft (s[d] ^^^ s[a]) 8)
  let s := s.set c (s[c] + s[d])
  s.set b (rotateLeft (s[b] ^^^ s[c]) 7)

/-- Mixes the four columns and then the four diagonals of a block. -/
def doubleRound (s : Block) : Block :=
  let s := quarterRound s 0 4 8 12
  let s := quarterRound s 1 5 9 13
  let s := quarterRound s 2 6 10 14
  let s := quarterRound s 3 7 11 15
  let s := quarterRound s 0 5 10 15
  let s := quarterRound s 1 6 11 12
  let s := quarterRound s 2 7 8 13
  quarterRound s 3 4 9 14

/-- Six double rounds. -/
def rounds : Nat → Block → Block
  | 0, s => s
  | n + 1, s => rounds n (doubleRound s)

/-- The block before mixing: four constant words, the key, and the number of the
    block in two words. -/
def startBlock (key : Vector UInt32 8) (number : Nat) : Block :=
  #v[0x61707865, 0x3320646e, 0x79622d32, 0x6b206574,
     key[0], key[1], key[2], key[3], key[4], key[5], key[6], key[7],
     UInt32.ofNat number, UInt32.ofNat (number / Nat.pow 2 32), 0, 0]

/-- A block of the key stream. -/
def block (key : Vector UInt32 8) (number : Nat) : Block :=
  let start := startBlock key number
  Vector.zipWith (· + ·) (rounds 6 start) start

/-- A word of the key stream, made of two words of a block, the low one first. -/
def wordAt (key : Vector UInt32 8) (index : Nat) : UInt64 :=
  let b := block key (index / 8)
  let low := b.get ⟨2 * (index % 8), by omega⟩
  let high := b.get ⟨2 * (index % 8) + 1, by omega⟩
  low.toUInt64 ||| (high.toUInt64 <<< 32)

/-! ## Seeding -/

/-- One step of the expansion of a seed. -/
def seedStep (state : UInt64) : UInt64 := state * 6364136223846793005 + 11634580027462260723

/-- The word of the key that a state of the expansion gives. -/
def seedWord (state : UInt64) : UInt32 :=
  let mixed := (((state >>> 18) ^^^ state) >>> 27).toUInt32
  let turn := (state >>> 59).toUInt32
  if turn = 0 then mixed else (mixed >>> turn) ||| (mixed <<< (32 - turn))

/-- The state of the expansion after some steps. -/
def seedState (seed : UInt64) : Nat → UInt64
  | 0 => seed
  | n + 1 => seedStep (seedState seed n)

/-- The generator of a seed. -/
def ofSeed (seed : UInt64) : Generator where
  key := Vector.ofFn fun i => seedWord (seedState seed (i.val + 1))
  used := 0

instance : Inhabited Generator := ⟨ofSeed 0⟩

/-! ## Draws -/

/-- The next word. -/
def nextWord (g : Generator) : UInt64 × Generator :=
  (wordAt g.key g.used, { g with used := g.used + 1 })

/-- The greatest low half that a product may have: the multiples of `bound` below
    it are shared out evenly among the draws. -/
def zone (bound : Nat) : Nat := bound * Nat.pow 2 (63 - bound.log2) % Nat.pow 2 64 - 1

theorem product_lt {bound : Nat} [below : Nonempty (Fin bound)] (word : UInt64) :
    word.toNat * bound / Nat.pow 2 64 < bound :=
  below.elim fun n => Nat.div_lt_of_lt_mul (Nat.mul_lt_mul_of_pos_right word.toNat_lt n.pos)

/-- Tries the next word.  It stands for the high half of its product with `bound`, a
    number below `bound`, but is refused if the low half is too great: only words whose
    products share a part out evenly are taken. -/
def tryBelow (bound : Nat) [Nonempty (Fin bound)] (g : Generator) :
    Generator ⊕ (Fin bound × Generator) :=
  let word := g.nextWord.1
  let g := g.nextWord.2
  if word.toNat * bound % Nat.pow 2 64 ≤ zone bound then
    .inr (⟨word.toNat * bound / Nat.pow 2 64, product_lt word⟩, g)
  else .inl g

/-- Draws a number below `bound`: words are tried until one is taken, however many are
    refused. -/
def drawBelow (bound : Nat) [Nonempty (Fin bound)] (g : Generator) : Fin bound × Generator :=
  Id.run (repeatM (tryBelow bound) g)

/-- Draws a number below `bound`. -/
def draw (g : Generator) (bound : Nat) [Nonempty (Fin bound)] : Nat × Generator :=
  let (n, g) := drawBelow bound g
  (n.val, g)

end Generator

end Compositor
