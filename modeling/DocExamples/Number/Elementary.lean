import DocExamples.Number.Power

/-!
Logarithms, exponentials and what is made of them.

Each function is computed in binary fractions with so many places that the error does not reach the
rounding. Where the result would be too small for the places, the first terms of its series say it
exactly enough.
-/

namespace DocExamples.Number.Double

/-- A finite number as a fraction with its sign apart; nothing for the others and for zero. -/
def parts? : Double → Option (Bool × Nat × Nat)
  | .finite _ 0 _ => none
  | .finite negative m e =>
    let (num, den) := scaleTwo m 1 e
    some (negative, num, den)
  | _ => none

/-- A fraction of whole numbers, the second of them positive, as a number. -/
def ofFraction (num : Int) (den : Nat) : Double := ofRatio (num < 0) num.natAbs den

/-- Holds of a fraction so small that the first terms of a series are enough. -/
def isTiny (num den : Nat) : Bool := num * 2 ^ 40 < den

/-- The sum `x + a x ^ 2 + b x ^ 3 + c x ^ 4 + d x ^ 5` at a fraction, the factors being fractions
themselves. -/
def seriesAt (num : Int) (den : Nat) (a b c d : Int × Nat) : Double :=
  let term (f : Int × Nat) (n : Nat) : Int × Nat := (f.1 * num ^ n, f.2 * den ^ n)
  let plus (x y : Int × Nat) : Int × Nat := (x.1 * y.2 + y.1 * x.2, x.2 * y.2)
  let (n, m) := plus (num, den) (plus (term a 2) (plus (term b 3) (plus (term c 4) (term d 5))))
  ofFraction n m

/-- The exponential of a fraction: a fraction of the unit, and a power of two. -/
def exponentialParts (num : Int) (den : Nat) : Nat × Int :=
  let r := Int.fdiv (num * unit) den
  let k := Int.fdiv r logTwo
  (exponentialSum (r - k * logTwo).toNat, k)

/-- The size of an exponent beyond which exponentials are infinite or zero. -/
def greatestExponential : Nat := 1000

/-- The exponential of a number. -/
def exp (x : Double) : Double :=
  match x, x.parts? with
  | .nan, _ => .nan
  | .infinite negative, _ => if negative then zero else .infinite false
  | _, none => ofInt 1
  | _, some (negative, num, den) =>
    if greatestExponential * den < num then if negative then zero else .infinite false
    else
      let (sum, k) := exponentialParts (if negative then -num else num) den
      let (n, d) := scaleTwo sum unit k
      ofRatio false n d

/-- The exponential of a number less one. -/
def expLessOne (x : Double) : Double :=
  match x, x.parts? with
  | .nan, _ => .nan
  | .infinite negative, _ => if negative then ofInt (-1) else .infinite false
  | x, none => x
  | _, some (negative, num, den) =>
    let n : Int := if negative then -num else num
    if isTiny num den then seriesAt n den (1, 2) (1, 6) (1, 24) (1, 120)
    else if greatestExponential * den < num then if negative then ofInt (-1) else .infinite false
    else
      let (sum, k) := exponentialParts n den
      let (a, b) := scaleTwo sum unit k
      ofFraction ((a : Int) - b) b

/-- The natural logarithm of a number, divided by a number of the unit. -/
def logBy (divisor : Nat) (x : Double) : Double :=
  match x, x.parts? with
  | .nan, _ | .infinite true, _ => .nan
  | .infinite false, _ => .infinite false
  | _, none => .infinite true
  | _, some (negative, num, den) =>
    if negative then .nan else if num = den then zero else ofFraction (logarithm num den) divisor

/-- The natural logarithm of a number. -/
def log (x : Double) : Double := x.logBy unit

/-- The logarithm of a number in base two. -/
def logBaseTwo (x : Double) : Double := x.logBy logTwo

/-- A decimal as a number. -/
def decimal (digits : Nat) (exponent : Int) : Double := ofDecimal false digits exponent

/-- The logarithm of a number in base ten. The power of two in the number and the rest are taken
apart, and the logarithm of two is a sum of two numbers, the first of which has few digits. -/
def logBaseTen (x : Double) : Double :=
  match x, x.parts? with
  | .nan, _ | .infinite true, _ => .nan
  | .infinite false, _ => .infinite false
  | _, none => .infinite true
  | _, some (negative, num, den) =>
    if negative then .nan
    else
      let k := floorLog num den
      let y := if k < 0 then k + 1 else k
      let (n, d) := scaleTwo num den (-y)
      let rest := (log (ofRatio false n d)).multiply (decimal 434294481903251816668 (-21))
      let low := (ofInt y).multiply (decimal 369423907715893078616 (-33))
      let high := (ofInt y).multiply (decimal 301029995663611771306 (-21))
      (low.add rest).add high

/-- The natural logarithm of one more than a number. -/
def logOneMore (x : Double) : Double :=
  match x, x.parts? with
  | .nan, _ | .infinite true, _ => .nan
  | .infinite false, _ => .infinite false
  | x, none => x
  | _, some (negative, num, den) =>
    let n : Int := if negative then -num else num
    if isTiny num den then seriesAt n den (-1, 2) (1, 3) (-1, 4) (1, 5)
    else if n + den < 0 then .nan
    else if n + den = 0 then .infinite true
    else ofFraction (logarithm (n + den).toNat den) unit

/-- The cube root of a number. -/
def cubeRoot (x : Double) : Double :=
  match x, x.parts? with
  | .finite negative m e, some _ => powerOfSize negative m e (1, 3)
  | x, _ => x

/-! ## Hyperbolic functions -/

/-- A function of the exponential of a positive fraction and of its inverse, as an odd function of a
number. The first argument gives a number that the function is beyond a bound, the second one its
series for tiny numbers. -/
def odd (beyond : Double) (series : Int → Nat → Double) (f : Nat → Nat → Double) (x : Double) :
    Double :=
  let signed (negative : Bool) (y : Double) : Double := if negative then y.negate else y
  match x, x.parts? with
  | .nan, _ => .nan
  | .infinite negative, _ => signed negative beyond
  | x, none => x
  | _, some (negative, num, den) =>
    if isTiny num den then series (if negative then -num else num) den
    else if greatestExponential * den < num then signed negative beyond
    else
      let (sum, k) := exponentialParts num den
      let (a, b) := scaleTwo sum unit k
      signed negative (f a b)

/-- The hyperbolic sine. -/
def sinh : Double → Double :=
  odd (.infinite false) (fun n d => seriesAt n d (0, 1) (1, 6) (0, 1) (1, 120)) fun a b =>
    ofFraction ((a : Int) * a - (b : Int) * b) (2 * a * b)

/-- The hyperbolic tangent. -/
def tanh : Double → Double :=
  odd (ofInt 1) (fun n d => seriesAt n d (0, 1) (-1, 3) (0, 1) (2, 15)) fun a b =>
    ofFraction ((a : Int) * a - (b : Int) * b) (a * a + b * b)

/-- The hyperbolic cosine. -/
def cosh (x : Double) : Double :=
  match x.size, x.parts? with
  | .finite .., some (_, num, den) =>
    if greatestExponential * den < num then .infinite false
    else
      let (sum, k) := exponentialParts num den
      let (a, b) := scaleTwo sum unit k
      ofFraction ((a : Int) * a + (b : Int) * b) (2 * a * b)
  | .finite .., none => ofInt 1
  | x, _ => x

/-- The square root of a fraction, as a fraction of the given denominator. -/
def rootFraction (num den whole : Nat) : Nat := Nat.sqrt (num * whole * whole / den)

/-- The inverse of the hyperbolic sine. -/
def arsinh (x : Double) : Double :=
  match x, x.parts? with
  | x, none => x
  | _, some (negative, num, den) =>
    if isTiny num den then
      seriesAt (if negative then -num else num) den (0, 1) (-1, 6) (0, 1) (3, 40)
    else
      let root := rootFraction (num * num + den * den) (den * den) unit
      let y := ofFraction (logarithm (num * unit + root * den) (den * unit)) unit
      if negative then y.negate else y

/-- The inverse of the hyperbolic cosine. -/
def arcosh (x : Double) : Double :=
  match x, x.parts? with
  | .infinite false, _ => .infinite false
  | .finite .., some (false, num, den) =>
    if num < den then .nan
    else if num = den then zero
    else
      let root := rootFraction (num * num - den * den) (den * den) unit
      ofFraction (logarithm (num * unit + root * den) (den * unit)) unit
  | _, _ => .nan

/-- The inverse of the hyperbolic tangent. -/
def artanh (x : Double) : Double :=
  match x, x.parts? with
  | .infinite _, _ => .nan
  | x, none => x
  | _, some (negative, num, den) =>
    let signed (y : Double) : Double := if negative then y.negate else y
    if isTiny num den then
      seriesAt (if negative then -num else num) den (0, 1) (1, 3) (0, 1) (1, 5)
    else if den < num then .nan
    else if den = num then signed (.infinite false)
    else signed (ofFraction (logarithm (den + num) (den - num)) (2 * unit))

end DocExamples.Number.Double
