import DocExamples.Number.Whole

/-!
Double-precision numbers as exact values: a finite number is a sign, a whole mantissa and a power
of two. Reading a ratio picks the nearest number, and of two equally near ones the one with the
even mantissa, so reading is one function on whole numbers that proofs can evaluate.
-/

namespace DocExamples.Number

/-- A double-precision number. A finite one is `mantissa * 2 ^ exponent` with the sign in front;
its mantissa is below `2 ^ 53`, its exponent at least -1074, and the mantissa is at least `2 ^ 52`
unless the exponent is -1074, so equal numbers have equal parts. -/
inductive Double where
  | nan
  | infinite (negative : Bool)
  | finite (negative : Bool) (mantissa : Nat) (exponent : Int)
  deriving DecidableEq, Repr, Inhabited

namespace Double

/-- The exponent of the smallest numbers. -/
def leastExponent : Int := -1074

/-- The exponent of the greatest finite numbers. -/
def greatestExponent : Int := 971

/-- Positive zero. -/
def zero : Double := .finite false 0 leastExponent

/-- `2 ^ e` as a factor of a numerator, or of a denominator when `e` is negative. -/
def scaleTwo (num den : Nat) (e : Int) : Nat × Nat :=
  if 0 ≤ e then (num * 2 ^ e.toNat, den) else (num, den * 2 ^ (-e).toNat)

/-- The whole number nearest to `num / den`; a half goes to the even neighbour. -/
def divideToEven (num den : Nat) : Nat :=
  let quotient := num / den
  let rest := 2 * (num % den)
  if den < rest ∨ (rest = den ∧ quotient % 2 = 1) then quotient + 1 else quotient

/-- The greatest `e` with `2 ^ e ≤ num / den`, for positive `num` and `den`. -/
def floorLog (num den : Nat) : Int :=
  let guess : Int := (num.log2 : Int) - (den.log2 : Int)
  let (n, d) := scaleTwo num den (-guess)
  if n < d then guess - 1 else guess

/-- The number nearest to `num / den`. -/
def ofRatio (negative : Bool) (num den : Nat) : Double :=
  if num = 0 ∨ den = 0 then .finite negative 0 leastExponent
  else
    let e := max leastExponent (floorLog num den - 52)
    let (n, d) := scaleTwo num den (-e)
    let m := divideToEven n d
    let (m, e) := if m = 2 ^ 53 then (2 ^ 52, e + 1) else (m, e)
    if greatestExponent < e then .infinite negative else .finite negative m e

/-- The number nearest to `digits * 10 ^ exponent`. Exponents beyond the range of any double are
decided by their size alone, so a text with a huge exponent is read at once. -/
def ofDecimal (negative : Bool) (digits : Nat) (exponent : Int) : Double :=
  let magnitude : Int := (digits.log2 : Int) * 30103 / 100000 + exponent
  if digits = 0 then .finite negative 0 leastExponent
  else if 400 < magnitude then .infinite negative
  else if magnitude < -400 then .finite negative 0 leastExponent
  else if 0 ≤ exponent then ofRatio negative (digits * 10 ^ exponent.toNat) 1
  else ofRatio negative digits (10 ^ (-exponent).toNat)

/-- The number nearest to a whole number. -/
def ofInt (n : Int) : Double := ofRatio (n < 0) n.natAbs 1

/-- Holds of a number that is neither infinite nor undefined. -/
def isFinite : Double → Bool
  | .finite .. => true
  | _ => false

/-- Holds of either zero. -/
def isZero : Double → Bool
  | .finite _ 0 _ => true
  | _ => false

/-- The whole number that a finite number equals, if it equals one. -/
def toInt? : Double → Option Int
  | .finite negative m e =>
    let magnitude : Option Nat :=
      if 0 ≤ e then some (m * 2 ^ e.toNat)
      else if m % 2 ^ (-e).toNat = 0 then some (m / 2 ^ (-e).toNat) else none
    magnitude.map fun n => if negative then -(n : Int) else n
  | _ => none

end Double

end DocExamples.Number
