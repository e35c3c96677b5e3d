import DocExamples.Number.Arithmetic

/-!
Powers with any exponent, and square roots.

A whole exponent of modest size is taken exactly and rounded once. For the others the logarithm and
the exponential are computed in binary fractions with so many places that the error does not reach
the rounding.
-/

namespace DocExamples.Number.Double

/-- The number one in binary fractions of 256 places. -/
def unit : Nat := 2 ^ 256

/-- Twice the inverse hyperbolic tangent of a fraction up to a third, by its series. -/
def artanhTwice (z : Nat) : Nat := go 90 1 z 0
where
  /-- Adds the terms of the series; the first argument counts them. -/
  go : Nat → Nat → Nat → Nat → Nat
    | 0, _, _, sum => sum
    | count + 1, k, power, sum =>
      go count (k + 2) (power * z / unit * z / unit) (sum + 2 * power / k)

/-- The natural logarithm of two. -/
def logTwo : Nat := artanhTwice (unit / 3)

/-- The natural logarithm of `num / den`, for positive `num` and `den`. -/
def logarithm (num den : Nat) : Int :=
  let e := floorLog num den
  let (n, d) := scaleTwo num den (-e)
  e * logTwo + artanhTwice ((n - d) * unit / (n + d))

/-- The exponential of a fraction, by its series. -/
def exponentialSum (r : Nat) : Nat := go 80 1 unit 0
where
  /-- Adds the terms of the series; the first argument counts them. -/
  go : Nat → Nat → Nat → Nat → Nat
    | 0, _, _, sum => sum
    | count + 1, k, term, sum => go count (k + 1) (term * r / unit / k) (sum + term)

/-- The number nearest to the exponential of a fraction. -/
def exponential (r : Int) : Double :=
  let k := Int.fdiv r logTwo
  if 2000 < k then .infinite false
  else if k < -2000 then zero
  else
    let (num, den) := scaleTwo (exponentialSum (r - k * logTwo).toNat) unit k
    ofRatio false num den

/-- The size of a finite number to a power, with a sign. -/
def powerOfSize (negative : Bool) (m : Nat) (e : Int) (y : Int × Nat) : Double :=
  let (num, den) := scaleTwo m 1 e
  let size := exponential (Int.fdiv (logarithm num den * y.1) y.2)
  if negative then size.negate else size

/-- The greatest whole exponent for which the power is taken exactly. -/
def greatestExact : Nat := 2048

/-- A number to a whole power of any size. -/
def raiseWhole (x : Double) (n : Int) : Double :=
  if n.natAbs ≤ greatestExact then x.power n
  else
    match x with
    | .finite negative (m + 1) e => powerOfSize (negative && n % 2 != 0) (m + 1) e (n, 1)
    | x => x.power (n.sign * (if n % 2 = 0 then 2 else 1))

/-- A number to the power of another. Neither of the two numbers of size one has an infinite power. -/
def raise (x y : Double) : Double :=
  match y.toInt?, y with
  | some n, _ => x.raiseWhole n
  | none, .nan => .nan
  | none, .infinite negative =>
    match x with
    | .nan => .nan
    | .infinite _ => if negative then zero else .infinite false
    | .finite _ m e =>
      let (num, den) := scaleTwo m 1 e
      if num = den then .nan else if (num < den) == negative then .infinite false else zero
  | none, .finite negative n f =>
    match x with
    | .nan => .nan
    | .infinite _ => if negative then zero else .infinite false
    | .finite _ 0 _ => if negative then .infinite false else zero
    | .finite true _ _ => .nan
    | .finite false m e =>
      let (num, den) := scaleTwo n 1 f
      powerOfSize false m e (if negative then -(num : Int) else num, den)

/-! ## Square roots, and numbers as fractions to compute with -/

/-- The number nearest to the square root of `num / den`. The root is taken of a number so large that
what is cut off does not reach the rounding. -/
def rootOf (num den : Nat) : Double :=
  if num = 0 ∨ den = 0 then zero
  else
    let places := ((400 - floorLog num den) / 2).toNat
    ofRatio false (Nat.sqrt (num * 4 ^ places / den)) (2 ^ places)

/-- The square root of a number. -/
def squareRoot : Double → Double
  | .finite negative 0 e => .finite negative 0 e
  | .finite true _ _ => .nan
  | .finite false m e =>
    let (num, den) := scaleTwo m 1 e
    rootOf num den
  | .infinite false => .infinite false
  | _ => .nan

/-- The size of a number. -/
def size : Double → Double
  | .finite _ m e => .finite false m e
  | .infinite _ => .infinite false
  | .nan => .nan

/-- The length of the longest side of a triangle with a right angle, from the other two. -/
def longSide (x y : Double) : Double :=
  match x, y with
  | .infinite _, _ | _, .infinite _ => .infinite false
  | x, y =>
    match x.ratio?, y.ratio? with
    | some (a, b), some (c, d) =>
      rootOf ((a.natAbs * d) ^ 2 + (c.natAbs * b) ^ 2) ((b * d) ^ 2)
    | _, _ => .nan

/-- A number with few digits: the nearest one with a mantissa of 24 bits, as far as there is one. -/
def single : Double → Double
  | .finite negative m e =>
    let (num, den) := scaleTwo m 1 e
    if num = 0 then .finite negative 0 e
    else
      let least := max (-149) (floorLog num den - 23)
      let (n, d) := scaleTwo num den (-least)
      let (num, den) := scaleTwo (divideToEven n d) 1 least
      if 2 ^ 128 * den ≤ num then .infinite negative else ofRatio negative num den
  | x => x

end DocExamples.Number.Double
