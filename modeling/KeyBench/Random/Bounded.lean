import KeyBench.Random.ChaCha

/-!
# Drawing numbers below a bound

A word `v` of 64 bits selects the number `v * n / 2 ^ 64` below `n`. To make every number equally
likely, a word is rejected, and the next one tried, if the lower half of `v * n` lies above a zone
whose size is the greatest multiple of `n` of the form `n * 2 ^ z` that fits into 64 bits.
-/

namespace KeyBench.Random

/-- The number of zero bits in front of a number of 64 bits. -/
def leadingZeros (n : Nat) : Nat := 63 - n.log2

/-- The last lower half that is accepted when drawing below `n`. -/
def zone (n : Nat) : Nat := (n <<< leadingZeros n) - 1

/-- The number up to `k` that a word selects, unless the word is rejected. -/
def select? (k : Nat) (v : UInt64) : Option (Fin (k + 1)) :=
  let product := v.toNat * (k + 1)
  if product % UInt64.size ≤ zone (k + 1) then
    some ⟨product / UInt64.size, by
      have hv : v.toNat < UInt64.size := v.toNat_lt
      exact Nat.div_lt_of_lt_mul (Nat.mul_lt_mul_of_pos_right hv (Nat.succ_pos k))⟩
  else none

/-- Tries at most `tries` words from a position on. Returns the number and the position after the
word that selected it. -/
def search (w : Nat → UInt64) (k : Nat) : (tries : Nat) → (position : Nat) → Fin (k + 1) × Nat
  | 0, position => (0, position)
  | tries + 1, position =>
    match select? k (w position) with
    | some i => (i, position + 1)
    | none => search w k tries (position + 1)

/-- A place in a stream of words. -/
structure Stream where
  key : StreamKey
  position : Nat

namespace Stream

/-- The start of the stream that a seed selects. -/
def ofSeed (seed : UInt64) : Stream := ⟨StreamKey.ofSeed seed, 0⟩

/-- Draws a number up to `k`. The words of a whole period are tried; if all were rejected, so
would be all that follow. -/
def draw (s : Stream) (k : Nat) : Fin (k + 1) × Stream :=
  let (i, position) := search (word s.key) k period s.position
  (i, { s with position })

end Stream

end KeyBench.Random
