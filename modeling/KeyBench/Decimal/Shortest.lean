/-!
# The shortest decimal of a float

A float of 64 bits stands for `mantissa * 2 ^ exponent`, and every real of an interval around that
number is rounded to it. Its shortest decimal lies on the coarsest grid `10 ^ place` that has a
point in the interval. If both neighbours of the number on that grid are in the interval, the
nearer one is taken, and the even one of two that are equally near. All comparisons are made in
whole numbers.
-/

namespace KeyBench.Decimal

/-! ## The interval of a float -/

/-- A positive number `mantissa * 2 ^ exponent` and how far the reals reach that are rounded to
it. -/
structure Binary where
  mantissa : Nat
  exponent : Int
  /-- Whether the float below is only half as far away as the one above. -/
  narrowBelow : Bool

namespace Binary

/-- The value of the leading bit of a mantissa, which is not among the bits of the float. -/
def hiddenBit : Nat := 1 <<< 52

/-- The number with the bits of a finite float, without its sign. -/
def ofBits (bits : UInt64) : Binary :=
  let biased : Nat := (bits.toNat >>> 52) % 2048
  let fraction : Nat := bits.toNat % hiddenBit
  if biased = 0 then ⟨fraction, -1074, false⟩
  else ⟨hiddenBit + fraction, (biased : Int) - 1075, fraction = 0 && biased != 1⟩

/-- The interval in quarters of a unit of the mantissa: its lower end, the number, its upper end. -/
def quarters (v : Binary) : Nat × Nat × Nat :=
  (4 * v.mantissa - (if v.narrowBelow then 1 else 2), 4 * v.mantissa, 4 * v.mantissa + 2)

/-- A quarter of a unit of the mantissa is `2 ^ (exponent - 2)`. On the grid `10 ^ place` this is
a fraction of the grid's step, with this numerator and this denominator. -/
def quarterOnGrid (v : Binary) (place : Int) : Nat × Nat :=
  let binary := v.exponent - 2
  (Nat.pow 2 binary.toNat * Nat.pow 10 (-place).toNat,
    Nat.pow 2 (-binary).toNat * Nat.pow 10 place.toNat)

/-- The point of a grid that is nearest to the number, if it is in the interval. -/
def pointOnGrid? (v : Binary) (place : Int) : Option Nat :=
  let (low, middle, high) := v.quarters
  let (num, den) := v.quarterOnGrid place
  let inside (point : Nat) : Bool :=
    if v.mantissa % 2 = 0 then low * num ≤ point * den && point * den ≤ high * num
    else low * num < point * den && point * den < high * num
  let below := middle * num / den
  let above := below + 1
  let toBelow := middle * num - below * den
  let toAbove := above * den - middle * num
  match inside below, inside above with
  | true, true =>
    if toBelow < toAbove || (toBelow = toAbove && below % 2 = 0) then some below else some above
  | true, false => some below
  | false, true => some above
  | false, false => none

/-- The places of the grids that are tried, coarsest first: every float has a point on one of
them. -/
def places : List Int := (List.range 633).map fun (i : Nat) => 308 - (i : Int)

/-- The shortest decimal `digits * 10 ^ place` of the number. -/
def shortest (v : Binary) : Nat × Int :=
  let point? := places.findSome? fun place =>
    (v.pointOnGrid? place).map fun digits => (digits, place)
  point?.getD (0, 0)

end Binary

/-! ## Writing it -/

/-- Digits with the point after the first `whole` of them; zeros are written where digits are
missing. -/
def positional (digits : List Char) (whole : Int) : List Char :=
  if whole ≤ 0 then ['0', '.'] ++ List.replicate (-whole).toNat '0' ++ digits
  else
    let count := whole.toNat
    let before := digits.take count ++ List.replicate (count - digits.length) '0'
    let after := digits.drop count
    before ++ ['.'] ++ (if after.isEmpty then ['0'] else after)

/-- One digit before the point and the power of ten after an `e`, always with its sign. -/
def scientific (digits : List Char) (power : Int) : List Char :=
  let point := if digits.length ≤ 1 then [] else ['.']
  let sign := if power < 0 then '-' else '+'
  digits.take 1 ++ point ++ digits.drop 1 ++ ['e', sign] ++ Nat.toDigits 10 power.natAbs

/-- The shortest decimal of a finite float as text: positional if the first digit stands for a
power of ten from `-5` to `15`, and scientific otherwise. -/
def ofFloat (x : Float) : String :=
  let sign := if x.toBits < 0x8000000000000000 then [] else ['-']
  let v := Binary.ofBits x.toBits
  if v.mantissa = 0 then String.ofList (sign ++ ['0', '.', '0'])
  else
    let (number, place) := v.shortest
    let digits := Nat.toDigits 10 number
    let power := place + digits.length - 1
    String.ofList (sign ++
      if -5 ≤ power && power ≤ 15 then positional digits (power + 1) else scientific digits power)

end KeyBench.Decimal
