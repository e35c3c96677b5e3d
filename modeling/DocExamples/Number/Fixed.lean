import DocExamples.Number.Layout
import DocExamples.Number.Arithmetic

/-!
Numbers with as many digits as are asked for, and whole numbers in other bases.

The exact value is rounded once; of two equally near decimals the one farther from zero is taken.
-/

namespace DocExamples.Number

/-- The whole number nearest to `num / den`; a half goes up. -/
def divideUp (num den : Nat) : Nat := (2 * num + den) / (2 * den)

/-- The digits of a whole number, with zeros in front up to a count. -/
def paddedDigits (count n : Nat) : List Char :=
  let ds := natText n
  List.replicate (count - ds.length) '0' ++ ds

/-- A finite number with so many digits behind the point. -/
def fixedText (places : Nat) : Double → List Char
  | .finite negative m e =>
    let (num, den) := Double.scaleTwo m 1 e
    let ds := paddedDigits (places + 1) (divideUp (num * 10 ^ places) den)
    let whole := ds.length - places
    (if negative && m != 0 then ['-'] else []) ++ ds.take whole ++
      (if places = 0 then [] else '.' :: ds.drop whole)
  | x => Layout.script.text x

/-- The decimal of so many digits nearest to the positive number `m * 2 ^ e`. -/
def Decimal.ofCount (count m : Nat) (e : Int) : Decimal :=
  if m = 0 then ⟨List.replicate count 0, 1⟩
  else
    let (num, den) := Double.scaleTwo m 1 e
    let point := pointOf num den
    let p := (count : Int) - point
    let n := if 0 ≤ p then divideUp (num * 10 ^ p.toNat) den else divideUp num (den * 10 ^ (-p).toNat)
    let ds := digitsOf n
    ⟨ds.take count, point + (ds.length - count : Nat)⟩

/-- How numbers are written with a count of digits: with an exponent where it is asked for, and
where the point is not among the digits. -/
def countedLayout (always : Bool) (count : Nat) : Layout :=
  { Layout.script with
    leastPoint := if always then 1 else Layout.script.leastPoint
    greatestPoint := if always then 0 else count }

/-- A decimal by a layout, with a sign. -/
def signedText (l : Layout) (negative : Bool) (d : Decimal) : List Char :=
  (if negative then ['-'] else []) ++ l.decimalText d

/-- A finite number with so many digits in all. -/
def preciseText (count : Nat) : Double → List Char
  | .finite negative m e =>
    signedText (countedLayout false count) (negative && m != 0) (.ofCount count m e)
  | x => Layout.script.text x

/-- A finite number with an exponent, and with so many digits behind the point or as many as tell it
from all others. -/
def exponentialText (places : Option Nat) : Double → List Char
  | .finite negative m e =>
    let d := match places with
      | some n => Decimal.ofCount (n + 1) m e
      | none => if m = 0 then ⟨[0], 1⟩ else Decimal.rounded m e
    signedText (countedLayout true 0) (negative && m != 0) d
  | x => Layout.script.text x

/-- The character of a digit in bases up to thirty-six. -/
def baseDigit (d : Nat) : Char := Char.ofNat (if d < 10 then 48 + d else 87 + d)

/-- A whole number in a base. -/
def inBase (base : Nat) (n : Int) : List Char :=
  (if n < 0 then ['-'] else []) ++ go (n.natAbs.log2 + 1) n.natAbs []
where
  /-- The digits in front of those known so far; the first argument bounds their count. -/
  go : Nat → Nat → List Char → List Char
    | 0, _, known => known
    | fuel + 1, n, known =>
      let known := baseDigit (n % base) :: known
      if n < base then known else go fuel (n / base) known

/-- A number in a base. Only whole numbers that have exact neighbours are written in another base
than ten. -/
def baseText (base : Nat) (x : Double) : List Char :=
  match x.toInt? with
  | some n => if n.natAbs < 2 ^ 53 then inBase base n else Layout.script.text x
  | none => Layout.script.text x

end DocExamples.Number
