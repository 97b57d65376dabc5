import KeyBench.Json.Error

/-!
# Numbers in JSON

A number without a point and without an exponent is an integer if it fits into 64 bits, and every
other number is a float. `-0` counts as a float.

## How a float is found

The digits are collected into a significand as long as it fits into 64 bits. Digits before the
point that no longer fit count as powers of ten, and from then on no digit of that part is
collected. The significand is then multiplied with or divided by the power of ten, in steps of at
most `10 ^ 308`.
-/

namespace KeyBench.Json

/-! ## The form of a number -/

/-- The digits of a number without its sign. -/
structure Numeral where
  integer : List Char
  /-- The digits after the point; there are none only if there is no point. -/
  fraction : List Char
  exponent? : Option Int

/-- Cuts the digits off the front of a text. -/
def takeDigits (s : List Char) : List Char × List Char :=
  (s.takeWhile Char.isDigit, s.dropWhile Char.isDigit)

/-- Reads the digits before the point: a zero alone, or digits of which the first is no zero. -/
def readInteger : List Char → Except Error (List Char × List Char)
  | [] => .error .endInValue
  | c :: s =>
    if c = '0' then
      match s with
      | d :: _ => if d.isDigit then .error .invalidNumber else .ok (['0'], s)
      | [] => .ok (['0'], s)
    else if c.isDigit then .ok (takeDigits (c :: s))
    else .error .invalidNumber

/-- Reads the digits that a point or an exponent must have. -/
def readDigits (s : List Char) : Except Error (List Char × List Char) :=
  match takeDigits s with
  | ([], []) => .error .endInValue
  | ([], _) => .error .invalidNumber
  | (digits, rest) => .ok (digits, rest)

/-- Reads the part after the point, if there is one. -/
def readFraction : List Char → Except Error (List Char × List Char)
  | '.' :: s => readDigits s
  | s => .ok ([], s)

/-- The number that decimal digits write. -/
def decimalValue (digits : List Char) : Nat :=
  digits.foldl (fun n c => 10 * n + (c.toNat - 0x30)) 0

/-- Reads the exponent, if there is one. -/
def readExponent (s : List Char) : Except Error (Option Int × List Char) :=
  match s with
  | e :: rest =>
    if e = 'e' ∨ e = 'E' then
      let (negative, unsigned) := match rest with
        | '-' :: r => (true, r)
        | '+' :: r => (false, r)
        | r => (false, r)
      match readDigits unsigned with
      | .error e => .error e
      | .ok (digits, after) =>
        let n : Int := decimalValue digits
        .ok (some (if negative then -n else n), after)
    else .ok (none, s)
  | [] => .ok (none, s)

/-- Reads a number without its sign. -/
def readNumeral (s : List Char) : Except Error (Numeral × List Char) :=
  match readInteger s with
  | .error e => .error e
  | .ok (integer, s₁) =>
    match readFraction s₁ with
    | .error e => .error e
    | .ok (fraction, s₂) =>
      match readExponent s₂ with
      | .error e => .error e
      | .ok (exponent?, rest) => .ok (⟨integer, fraction, exponent?⟩, rest)

/-- Checks a number without its sign. Whatever is wrong with it, it is an invalid number. -/
def skipNumeral (s : List Char) : Except Error (List Char) :=
  match readNumeral s with
  | .error _ => .error .invalidNumber
  | .ok (_, rest) => .ok rest

/-! ## What is consumed -/

theorem length_takeDigits_le (s : List Char) : (takeDigits s).2.length ≤ s.length :=
  (List.dropWhile_sublist Char.isDigit).length_le

theorem length_of_readInteger {s digits rest : List Char}
    (h : readInteger s = .ok (digits, rest)) : rest.length < s.length := by
  unfold readInteger at h
  split at h
  · cases h
  · next c s =>
    split at h
    · split at h
      · split at h
        · cases h
        · cases h; simp
      · cases h; simp
    · split at h
      · next hd =>
        cases h
        simp only [List.dropWhile_cons, hd, if_true, List.length_cons]
        exact Nat.lt_succ_of_le (length_takeDigits_le s)
      · cases h

theorem length_of_readDigits {s digits rest : List Char}
    (h : readDigits s = .ok (digits, rest)) : rest.length ≤ s.length := by
  have hs := length_takeDigits_le s
  unfold readDigits at h
  split at h
  · cases h
  · cases h
  · next heq =>
    cases h
    rw [heq] at hs
    exact hs

theorem length_of_readFraction {s digits rest : List Char}
    (h : readFraction s = .ok (digits, rest)) : rest.length ≤ s.length := by
  unfold readFraction at h
  split at h
  · have := length_of_readDigits h
    simp only [List.length_cons]; omega
  · cases h; exact Nat.le_refl _

theorem length_of_readExponent {s rest : List Char} {e : Option Int}
    (h : readExponent s = .ok (e, rest)) : rest.length ≤ s.length := by
  unfold readExponent at h
  split at h
  · next c r =>
    split at h
    · simp only at h
      split at h
      · cases h
      · next hd =>
        cases h
        have hlen := length_of_readDigits hd
        simp only [List.length_cons]
        refine Nat.le_trans hlen ?_
        split <;> simp only [List.length_cons] <;> omega
    · cases h; exact Nat.le_refl _
  · cases h; exact Nat.le_refl _

theorem length_of_readNumeral {s rest : List Char} {n : Numeral}
    (h : readNumeral s = .ok (n, rest)) : rest.length < s.length := by
  unfold readNumeral at h
  split at h
  · cases h
  · next h₁ =>
    split at h
    · cases h
    · next h₂ =>
      split at h
      · cases h
      · next h₃ =>
        cases h
        have := length_of_readInteger h₁
        have := length_of_readFraction h₂
        have := length_of_readExponent h₃
        omega

theorem length_of_skipNumeral {s rest : List Char} (h : skipNumeral s = .ok rest) :
    rest.length < s.length := by
  unfold skipNumeral at h
  split at h
  · cases h
  · next hn => cases h; exact length_of_readNumeral hn

/-! ## The value of a number -/

/-- The value of a number: a natural number, the negative of a positive one, or a float. -/
inductive Number where
  | natural (n : Nat)
  | negative (n : Nat)
  | float (x : Float)

/-- The number as an error tells it. -/
def Number.found : Number → Found
  | .natural n => .integer n
  | .negative n => .integer (-(n : Int))
  | .float x => .float x

/-- The greatest significand. -/
def maxSignificand : Nat := UInt64.size - 1

/-- Appends digits to a significand until the next one no longer fits. Returns the significand and
how many digits were left out. -/
def collect (significand : Nat) : List Char → Nat × Nat
  | [] => (significand, 0)
  | c :: digits =>
    let next := 10 * significand + (c.toNat - 0x30)
    if next ≤ maxSignificand then collect next digits else (significand, digits.length + 1)

/-- A power of ten. -/
def powerOfTen (n : Nat) : Float := Float.ofScientific 1 false n

/-- The greatest power of ten that is a float. -/
def maxPower : Nat := 308

/-- `x` times a power of ten. -/
def scale (x : Float) (power : Int) : Except Error Float :=
  if power.natAbs ≤ maxPower then
    if 0 ≤ power then
      let y := x * powerOfTen power.natAbs
      if y.isInf then .error .numberOutOfRange else .ok y
    else .ok (x / powerOfTen power.natAbs)
  else if x == 0 then .ok x
  else if 0 ≤ power then .error .numberOutOfRange
  else scale (x / powerOfTen maxPower) (power + maxPower)
termination_by power.natAbs
decreasing_by
  unfold maxPower at *
  omega

/-- The value of a number with or without a minus sign. -/
def Numeral.value (negative : Bool) (n : Numeral) : Except Error Number :=
  let (significand, excess) := collect 0 n.integer
  if n.fraction.isEmpty && n.exponent?.isNone && excess = 0 then
    if !negative then .ok (.natural significand)
    else if significand = 0 || UInt64.size / 2 < significand then
      .ok (.float (-(Float.ofNat significand)))
    else .ok (.negative significand)
  else
    let (significand, dropped) := collect significand n.fraction
    let power : Int := excess - (n.fraction.length - dropped : Nat) + n.exponent?.getD 0
    match scale (Float.ofNat significand) power with
    | .error e => .error e
    | .ok x => .ok (.float (if negative then -x else x))

/-- Reads a number after its sign. -/
def readNumber (negative : Bool) (s : List Char) : Except Error (Number × List Char) :=
  match readNumeral s with
  | .error e => .error e
  | .ok (numeral, rest) =>
    match numeral.value negative with
    | .error e => .error e
    | .ok number => .ok (number, rest)

theorem length_of_readNumber {negative : Bool} {s rest : List Char} {n : Number}
    (h : readNumber negative s = .ok (n, rest)) : rest.length < s.length := by
  unfold readNumber at h
  split at h
  · cases h
  · next hn =>
    split at h
    · cases h
    · cases h; exact length_of_readNumeral hn

end KeyBench.Json
