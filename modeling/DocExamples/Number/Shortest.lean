import DocExamples.Number.Double

/-!
The fewest decimal digits that read back as a given number.

A positive number stands for the interval of values that read as it; its ends belong to it when
the mantissa is even. For each count of digits from one to seventeen, the two decimals next to the
number are tried, and the first count with a decimal in the interval wins; of two such decimals
the nearer is taken. Some writers only ever round the number itself; for them there is the decimal
with the fewest digits among its roundings.
-/

namespace DocExamples.Number

/-- A positive decimal: `0.d₁d₂d₃… * 10 ^ point` with the digits written as one whole number. -/
structure Decimal where
  digits : List Nat
  point : Int
  deriving DecidableEq, Repr

namespace Decimal

/-- The digits of a positive whole number, most significant first. -/
def digitsOf (n : Nat) : List Nat := go n n []
where
  /-- The first argument bounds the steps: a whole number has no more digits than its size. -/
  go : Nat → Nat → List Nat → List Nat
    | 0, _, acc => acc
    | fuel + 1, n, acc => if n = 0 then acc else go fuel (n / 10) (n % 10 :: acc)

/-- Drops the zeros a list of digits ends with. -/
def trimZeros (ds : List Nat) : List Nat := (ds.reverse.dropWhile (· = 0)).reverse

/-- The values that read as a number, over the common denominator `den`: `low < value < high`, the
ends included when `closed` holds. -/
structure Interval where
  low : Nat
  value : Nat
  high : Nat
  den : Nat
  closed : Bool

/-- The interval of the finite number `m * 2 ^ e`. Below a power of two the numbers lie twice as
dense, so the lower end is nearer there. -/
def intervalOf (m : Nat) (e : Int) : Interval :=
  let narrow := m = 2 ^ 52 ∧ Double.leastExponent < e
  let low := if narrow then 4 * m - 1 else 4 * m - 2
  let (value, den) := Double.scaleTwo (4 * m) 4 e
  let (low, _) := Double.scaleTwo low 4 e
  let (high, _) := Double.scaleTwo (4 * m + 2) 4 e
  ⟨low, value, high, den, m % 2 = 0⟩

/-- Holds when `num / den` lies in the interval. -/
def Interval.contains (i : Interval) (num den : Nat) : Bool :=
  let x := num * i.den
  if i.closed then i.low * den ≤ x && x ≤ i.high * den
  else i.low * den < x && x < i.high * den

/-- The exponent `p` with `10 ^ (p - 1) ≤ num / den < 10 ^ p`, found by steps from an estimate. -/
def pointOf (num den : Nat) : Int :=
  let estimate : Int := Double.floorLog num den * 30103 / 100000 - 1
  go 4 estimate
where
  go : Nat → Int → Int
    | 0, p => p
    | fuel + 1, p =>
      let below := if 0 ≤ p then num < den * 10 ^ p.toNat else num * 10 ^ (-p).toNat < den
      if below then p else go fuel (p + 1)

/-- The decimal with `count` digits that reads back, if there is one; `point` is that of the
number. -/
def withDigits? (i : Interval) (point : Int) (count : Nat) : Option (Nat × Int) :=
  let p := point - count
  let (scaleNum, scaleDen) : Nat × Nat :=
    if 0 ≤ p then (10 ^ p.toNat, 1) else (1, 10 ^ (-p).toNat)
  let below := i.value * scaleDen / (i.den * scaleNum)
  let above := below + 1
  let inBelow := below ≠ 0 && i.contains (below * scaleNum) scaleDen
  let inAbove := i.contains (above * scaleNum) scaleDen
  let twice := 2 * (i.value * scaleDen)
  let middle := (2 * below + 1) * (i.den * scaleNum)
  if inBelow && inAbove then
    some (if twice < middle ∨ (twice = middle ∧ below % 2 = 0) then (below, p) else (above, p))
  else if inBelow then some (below, p)
  else if inAbove then some (above, p)
  else none

/-- The shortest decimal of the positive number `m * 2 ^ e`. -/
def shortest (m : Nat) (e : Int) : Decimal :=
  let i := intervalOf m e
  let point := pointOf i.value i.den
  match (List.range 17).findSome? fun k => withDigits? i point (k + 1) with
  | some (n, p) =>
    let ds := digitsOf n
    ⟨trimZeros ds, p + ds.length⟩
  | none => ⟨[], 0⟩

/-- The decimal of `count` digits nearest to a number, if it reads back. -/
def roundedTo? (i : Interval) (point : Int) (count : Nat) : Option (Nat × Int) :=
  let p := point - count
  let (num, den) : Nat × Nat :=
    if 0 ≤ p then (i.value, i.den * 10 ^ p.toNat) else (i.value * 10 ^ (-p).toNat, i.den)
  let digits := Double.divideToEven num den
  let reads :=
    if 0 ≤ p then i.contains (digits * 10 ^ p.toNat) 1 else i.contains digits (10 ^ (-p).toNat)
  if reads then some (digits, p) else none

/-- The decimal of the positive number `m * 2 ^ e` with the fewest digits to which the number can be
rounded so that it reads back. Below a power of two this can take a digit more than the shortest
decimal has, for the shortest need not be the nearest of its length. -/
def rounded (m : Nat) (e : Int) : Decimal :=
  let i := intervalOf m e
  let point := pointOf i.value i.den
  match (List.range 17).findSome? fun k => roundedTo? i point (k + 1) with
  | some (n, p) =>
    let ds := digitsOf n
    ⟨trimZeros ds, p + ds.length⟩
  | none => ⟨[], 0⟩

end Decimal

end DocExamples.Number
