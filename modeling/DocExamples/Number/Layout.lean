import DocExamples.Number.Shortest

/-!
The written form of a number: where positional notation ends, how an exponent is spelled, and what
stands for the numbers that have no digits. A format is one `Layout`; its digits always read back.
-/

namespace DocExamples.Number

/-- The decimal digits of a whole number. -/
def natText (n : Nat) : List Char := (Nat.toDigits 10 n)

/-- The decimal digits of an integer, with a minus sign in front of a negative one. -/
def intText (n : Int) : List Char :=
  if n < 0 then '-' :: natText n.natAbs else natText n.natAbs

/-- How a format writes numbers. -/
structure Layout where
  /-- The digits of the positive number `m * 2 ^ e`. -/
  digits : Nat → Int → Decimal
  /-- The least position of the point, counted from the first digit, written positionally. -/
  leastPoint : Int
  /-- The greatest position of the point written positionally. -/
  greatestPoint : Int
  /-- Whether a whole number keeps a point and a zero behind it. -/
  keepsFraction : Bool
  /-- The least count of digits in an exponent. -/
  exponentWidth : Nat
  /-- Whether a negative zero shows its sign. -/
  signsZero : Bool
  /-- What is written for an undefined number. -/
  nan : List Char
  /-- What is written for the positive infinite number. -/
  infinity : List Char

namespace Layout

/-- Data handed into the sandbox, and lines of console output. -/
def data : Layout :=
  ⟨Decimal.shortest, -3, 16, true, 2, true, "NaN".toList, "Infinity".toList⟩

/-- Numbers inside messages and in answers about host values. -/
def plain : Layout :=
  ⟨Decimal.shortest, -3, 16, true, 2, true, "nan".toList, "inf".toList⟩

/-- Numbers as a script writes them. -/
def script : Layout :=
  ⟨Decimal.rounded, -5, 21, false, 1, false, "NaN".toList, "Infinity".toList⟩

/-- The character of one decimal digit. -/
def digitChar (d : Nat) : Char := Nat.digitChar d

/-- An exponent with its sign, padded with zeros to the layout's width. -/
def exponentText (l : Layout) (e : Int) : List Char :=
  let ds := natText e.natAbs
  (if e < 0 then '-' else '+') :: (List.replicate (l.exponentWidth - ds.length) '0' ++ ds)

/-- Digits with a point after the first `point` of them, or an exponent, as the layout says. -/
def decimalText (l : Layout) (d : Decimal) : List Char :=
  let ds := d.digits.map digitChar
  if d.point < l.leastPoint ∨ l.greatestPoint < d.point then
    let fraction := ds.drop 1
    ds.take 1 ++ (if fraction.isEmpty then [] else '.' :: fraction) ++
      'e' :: l.exponentText (d.point - 1)
  else if d.point ≤ 0 then
    "0.".toList ++ List.replicate (-d.point).toNat '0' ++ ds
  else
    let whole := d.point.toNat
    if ds.length ≤ whole then
      ds ++ List.replicate (whole - ds.length) '0' ++ (if l.keepsFraction then ".0".toList else [])
    else ds.take whole ++ '.' :: ds.drop whole

/-- The text of a number. -/
def text (l : Layout) : Double → List Char
  | .nan => l.nan
  | .infinite negative => if negative then '-' :: l.infinity else l.infinity
  | .finite negative 0 _ =>
    (if negative && l.signsZero then ['-'] else []) ++
      (if l.keepsFraction then "0.0".toList else ['0'])
  | .finite negative m e =>
    (if negative then ['-'] else []) ++ l.decimalText (l.digits m e)

end Layout

end DocExamples.Number
