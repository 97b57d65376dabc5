/-!
# A reproducible stream of words

The random numbers of the bench come from the ChaCha block function with eight rounds. The stream
is a function of a key and a position, so a position is all the state that a reader of the stream
has. The key is spread from a seed of 64 bits by a congruential generator whose output is
permuted.
-/

namespace KeyBench.Random

/-- The sixteen words on which the block function works. -/
abbrev Block := Vector UInt32 16

/-- The eight words that select a stream. -/
abbrev StreamKey := Vector UInt32 8

/-! ## The block function -/

/-- A word with its bits moved to the left in a circle. -/
def rotateLeft (x : UInt32) (k : UInt32) : UInt32 := (x <<< k) ||| (x >>> (32 - k))

/-- A word with its bits moved to the right in a circle. -/
def rotateRight (x : UInt32) (k : UInt32) : UInt32 := (x >>> k) ||| (x <<< (32 - k))

/-- Mixes four words of a block. -/
def quarterRound (s : Block) (a b c d : Fin 16) : Block :=
  let s := s.set a (s[a] + s[b])
  let s := s.set d (rotateLeft (s[d] ^^^ s[a]) 16)
  let s := s.set c (s[c] + s[d])
  let s := s.set b (rotateLeft (s[b] ^^^ s[c]) 12)
  let s := s.set a (s[a] + s[b])
  let s := s.set d (rotateLeft (s[d] ^^^ s[a]) 8)
  let s := s.set c (s[c] + s[d])
  s.set b (rotateLeft (s[b] ^^^ s[c]) 7)

/-- Mixes the columns, then the diagonals. -/
def doubleRound (s : Block) : Block :=
  let s := quarterRound s 0 4 8 12
  let s := quarterRound s 1 5 9 13
  let s := quarterRound s 2 6 10 14
  let s := quarterRound s 3 7 11 15
  let s := quarterRound s 0 5 10 15
  let s := quarterRound s 1 6 11 12
  let s := quarterRound s 2 7 8 13
  quarterRound s 3 4 9 14

/-- A block before it is mixed: the constants, the key, and the number of the block. -/
def initialBlock (key : StreamKey) (counter : UInt64) : Block :=
  #v[0x61707865, 0x3320646e, 0x79622d32, 0x6b206574,
    key[0], key[1], key[2], key[3], key[4], key[5], key[6], key[7],
    counter.toUInt32, (counter >>> 32).toUInt32, 0, 0]

/-- Block number `counter` of a stream. -/
def block (key : StreamKey) (counter : UInt64) : Block :=
  let initial := initialBlock key counter
  initial.zipWith (· + ·) (doubleRound (doubleRound (doubleRound (doubleRound initial))))

/-- Word number `position` of a stream, counted in words of 64 bits. The lower half comes first. -/
def word (key : StreamKey) (position : Nat) : UInt64 :=
  let b := block key (UInt64.ofNat (position / 8))
  have h : position % 8 < 8 := Nat.mod_lt _ (by decide)
  (b[2 * (position % 8)]).toUInt64 ||| (b[2 * (position % 8) + 1]).toUInt64 <<< 32

/-- The number of words after which a stream starts anew: eight in each block, of which there are
as many as counters. -/
def period : Nat := 8 * UInt64.size

theorem word_add_period (key : StreamKey) (position : Nat) :
    word key (position + period) = word key position := by
  have hmod : (position + period) % 8 = position % 8 := by unfold period; omega
  have hdiv : UInt64.ofNat ((position + period) / 8) = UInt64.ofNat (position / 8) := by
    apply UInt64.toNat_inj.mp
    simp only [UInt64.toNat_ofNat']
    unfold period UInt64.size
    omega
  simp only [word, hmod, hdiv]

/-! ## Seeds -/

/-- The state of the congruential generator after some steps. -/
def seedState (seed : UInt64) : Nat → UInt64
  | 0 => seed
  | n + 1 => seedState seed n * 6364136223846793005 + 11634580027462260723

/-- The output of the congruential generator in a state. -/
def seedOutput (state : UInt64) : UInt32 :=
  rotateRight (((state >>> 18) ^^^ state) >>> 27).toUInt32 (state >>> 59).toUInt32

/-- The key of the stream that a seed selects. -/
def StreamKey.ofSeed (seed : UInt64) : StreamKey :=
  Vector.ofFn fun i : Fin 8 => seedOutput (seedState seed (i + 1))

end KeyBench.Random
