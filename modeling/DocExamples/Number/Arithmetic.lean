import DocExamples.Number.Double

/-!
Arithmetic of doubles. Every operation takes the exact result and rounds it once, to the nearest
double; only the undefined and the infinite numbers need rules of their own.
-/

namespace DocExamples.Number.Double

/-- Holds of a number with a minus sign, negative zero included. -/
def isNegative : Double → Bool
  | .nan => false
  | .infinite negative => negative
  | .finite negative _ _ => negative

/-- A finite number as a fraction. -/
def ratio? : Double → Option (Int × Nat)
  | .finite negative m e =>
    let (num, den) := scaleTwo m 1 e
    some (if negative then -(num : Int) else num, den)
  | _ => none

/-- The number with the other sign. -/
def negate : Double → Double
  | .nan => .nan
  | .infinite negative => .infinite (!negative)
  | .finite negative m e => .finite (!negative) m e

/-- The sum of two numbers. It is a negative zero only for two negative zeros. -/
def add (x y : Double) : Double :=
  match x.ratio?, y.ratio? with
  | some (a, b), some (c, d) =>
    let num := a * d + c * b
    ofRatio (num < 0 || (x.isZero && y.isZero && x.isNegative && y.isNegative)) num.natAbs (b * d)
  | none, some _ => x
  | some _, none => y
  | none, none => if x = y then x else .nan

/-- The product of two numbers. -/
def multiply (x y : Double) : Double :=
  let negative := x.isNegative != y.isNegative
  match x, y with
  | .finite _ m e, .finite _ n f =>
    let (num, den) := scaleTwo (m * n) 1 (e + f)
    ofRatio negative num den
  | .nan, _ => .nan
  | _, .nan => .nan
  | x, y => if x.isZero || y.isZero then .nan else .infinite negative

/-- The quotient of two numbers. -/
def divide (x y : Double) : Double :=
  let negative := x.isNegative != y.isNegative
  match x, y with
  | .finite _ m e, .finite _ n f =>
    if n = 0 then if m = 0 then .nan else .infinite negative
    else
      let (num, den) := scaleTwo m n (e - f)
      ofRatio negative num den
  | .infinite _, .finite .. => .infinite negative
  | .finite .., .infinite _ => .finite negative 0 leastExponent
  | _, _ => .nan

/-- A number to a whole power. -/
def power (x : Double) (n : Int) : Double :=
  let negative := x.isNegative && n % 2 != 0
  if n = 0 then ofInt 1
  else
    match x with
    | .nan => .nan
    | .infinite _ =>
      if 0 < n then .infinite negative else .finite negative 0 leastExponent
    | .finite _ m e =>
      let (num, den) := scaleTwo (m ^ n.natAbs) 1 (e * n.natAbs)
      if 0 < n then ofRatio negative num den
      else if m = 0 then .infinite negative
      else ofRatio negative den num

/-- Holds when the first number is smaller than the second. -/
def isLess (x y : Double) : Bool :=
  match x, y with
  | .nan, _ | _, .nan => false
  | .infinite negative, .infinite other => negative && !other
  | .infinite negative, .finite .. => negative
  | .finite .., .infinite negative => !negative
  | x, y =>
    match x.ratio?, y.ratio? with
    | some (a, b), some (c, d) => a * d < c * b
    | _, _ => false

/-- Holds of equal numbers: an undefined number equals none, and the two zeros are equal. -/
def isEqual (x y : Double) : Bool := x != .nan && (x == y || (x.isZero && y.isZero))

/-- What is left of a number after taking away another as often as it fits. It has the sign of the
first. -/
def remainder (x y : Double) : Double :=
  match x, y with
  | .finite negative m e, .finite _ n f =>
    if n = 0 then .nan
    else
      let (a, b) := scaleTwo m 1 e
      let (c, d) := scaleTwo n 1 f
      ofRatio negative (a * d % (c * b)) (b * d)
  | .finite negative m e, .infinite _ => .finite negative m e
  | _, _ => .nan

/-- The whole number next to a number in the direction of zero; zero for what has none. -/
def truncate : Double → Int
  | .finite negative m e =>
    let (num, den) := scaleTwo m 1 e
    if negative then -(num / den : Nat) else (num / den : Nat)
  | _ => 0

/-- The greatest whole number that is no greater than a number; zero for what has none. -/
def floor : Double → Int
  | .finite negative m e =>
    let (num, den) := scaleTwo m 1 e
    Int.fdiv (if negative then -(num : Int) else num) den
  | _ => 0

/-- A number as a word of 32 bits. -/
def toWord (x : Double) : Nat := (x.truncate % 2 ^ 32).toNat

/-- A word of 32 bits as a number with a sign. -/
def ofSignedWord (n : Nat) : Double := ofInt (if n < 2 ^ 31 then n else (n : Int) - 2 ^ 32)

end DocExamples.Number.Double
