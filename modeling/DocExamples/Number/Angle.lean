import DocExamples.Number.Elementary

/-!
Functions of angles.

They are computed in binary fractions with so many places that the angle of any number is known
after the whole turns are taken away.
-/

namespace DocExamples.Number.Double

/-- The number one in the fractions for angles. -/
def angleUnit : Nat := 2 ^ 1500

/-- The angle whose tangent is one divided by a whole number, by its series. -/
def angleOfInverse (n : Nat) : Int := go 1600 1 (angleUnit / n) 0
where
  /-- Adds the terms of the series; the first argument counts them. -/
  go : Nat → Nat → Nat → Int → Int
    | 0, _, _, sum => sum
    | count + 1, k, power, sum =>
      if power = 0 then sum
      else
        let term : Int := (power / k : Nat)
        go count (k + 2) (power / (n * n)) (if k % 4 = 1 then sum + term else sum - term)

/-- Half a turn. -/
def halfTurn : Nat := (4 * (4 * angleOfInverse 5 - angleOfInverse 239)).toNat

/-- The sine and the cosine of a fraction up to a quarter of a turn, by their series. -/
def sineAndCosine (r : Nat) : Int × Int := go 600 0 angleUnit 0 0
where
  /-- Adds the terms of both series; the first argument counts them. -/
  go : Nat → Nat → Nat → Int → Int → Int × Int
    | 0, _, _, sine, cosine => (sine, cosine)
    | count + 1, k, term, sine, cosine =>
      if term = 0 then (sine, cosine)
      else
        let next := term * r / angleUnit / (k + 1)
        match k % 4 with
        | 0 => go count (k + 1) next sine (cosine + term)
        | 1 => go count (k + 1) next (sine + term) cosine
        | 2 => go count (k + 1) next sine (cosine - term)
        | _ => go count (k + 1) next (sine - term) cosine

/-- The sine and the cosine of a positive fraction. -/
def sineAndCosineOf (num den : Nat) : Int × Int :=
  let x := num * angleUnit / den
  let quarter := halfTurn / 2
  let (s, c) := sineAndCosine (x % quarter)
  match x / quarter % 4 with
  | 0 => (s, c)
  | 1 => (c, -s)
  | 2 => (-s, -c)
  | _ => (-c, s)

/-- The sine of a number. -/
def sin (x : Double) : Double :=
  match x, x.parts? with
  | .infinite _, _ => .nan
  | x, none => x
  | _, some (negative, num, den) =>
    if isTiny num den then
      seriesAt (if negative then -num else num) den (0, 1) (-1, 6) (0, 1) (1, 120)
    else
      let (s, _) := sineAndCosineOf num den
      ofFraction (if negative then -s else s) angleUnit

/-- The cosine of a number. -/
def cos (x : Double) : Double :=
  match x, x.parts? with
  | .finite .., none => ofInt 1
  | .finite .., some (_, num, den) => ofFraction (sineAndCosineOf num den).2 angleUnit
  | _, _ => .nan

/-- The tangent of a number. -/
def tan (x : Double) : Double :=
  match x, x.parts? with
  | .infinite _, _ => .nan
  | x, none => x
  | _, some (negative, num, den) =>
    if isTiny num den then
      seriesAt (if negative then -num else num) den (0, 1) (1, 3) (0, 1) (2, 15)
    else
      let (s, c) := sineAndCosineOf num den
      let negative := if c < 0 then !negative else negative
      ofFraction (if negative then -s else s) c.natAbs

/-- The angle whose tangent is a small positive fraction of the unit, by its series. -/
def angleSum (z : Nat) : Int := go 200 1 z 0
where
  /-- Adds the terms of the series; the first argument counts them. -/
  go : Nat → Nat → Nat → Int → Int
    | 0, _, _, sum => sum
    | count + 1, k, power, sum =>
      if power = 0 then sum
      else
        let term : Int := (power / k : Nat)
        go count (k + 2) (power * z / angleUnit * z / angleUnit)
          (if k % 4 = 1 then sum + term else sum - term)

/-- A fraction whose angle is half that of another up to one. -/
def halved (z : Nat) : Nat :=
  z * angleUnit / (angleUnit + Nat.sqrt (angleUnit * angleUnit + z * z))

/-- The angle whose tangent is `num / den`. -/
def angleOf (num den : Nat) : Int :=
  let small (num den : Nat) : Int :=
    let z := halved (halved (halved (halved (num * angleUnit / den))))
    16 * angleSum z
  if num ≤ den then small num den else (halfTurn / 2 : Nat) - small den num

/-- The angle whose tangent is a number. -/
def arctan (x : Double) : Double :=
  match x, x.parts? with
  | .infinite negative, _ =>
    ofFraction (if negative then -((halfTurn : Nat) : Int) else halfTurn) (2 * angleUnit)
  | x, none => x
  | _, some (negative, num, den) =>
    if isTiny num den then
      seriesAt (if negative then -num else num) den (0, 1) (-1, 3) (0, 1) (1, 5)
    else
      let y := ofFraction (angleOf num den) angleUnit
      if negative then y.negate else y

/-- The angle whose sine is a number. -/
def arcsin (x : Double) : Double :=
  match x, x.parts? with
  | .infinite _, _ => .nan
  | x, none => x
  | _, some (negative, num, den) =>
    if isTiny num den then
      seriesAt (if negative then -num else num) den (0, 1) (1, 6) (0, 1) (3, 40)
    else if den < num then .nan
    else
      let root := rootFraction (den * den - num * num) (den * den) angleUnit
      let angle : Int := if root = 0 then halfTurn / 2 else angleOf (num * angleUnit) (den * root)
      let y := ofFraction angle angleUnit
      if negative then y.negate else y

/-- The angle whose cosine is a number. -/
def arccos (x : Double) : Double :=
  match x, x.ratio? with
  | .finite .., some (num, den) =>
    let low := (den : Int) - num
    let high := (den : Int) + num
    if low < 0 ∨ high < 0 then .nan
    else if high = 0 then ofFraction halfTurn angleUnit
    else
      let root := rootFraction low.toNat high.toNat angleUnit
      ofFraction (2 * angleOf root angleUnit) angleUnit
  | _, _ => .nan

/-- The angle of the point with two coordinates, the second of which is given first. -/
def angle (y x : Double) : Double :=
  let signed (z : Double) : Double := if y.isNegative then z.negate else z
  let turns (num den : Nat) : Double := signed (ofFraction (halfTurn * num) (angleUnit * den))
  match y, x with
  | .nan, _ | _, .nan => .nan
  | .infinite _, .infinite negative => if negative then turns 3 4 else turns 1 4
  | .infinite _, _ => turns 1 2
  | .finite .., .infinite negative => if negative then turns 1 1 else signed zero
  | .finite .., .finite .. =>
    match y.parts?, x.parts? with
    | none, _ => if x.isNegative then turns 1 1 else signed zero
    | some _, none => turns 1 2
    | some (_, a, b), some (negative, c, d) =>
      let num := a * d
      let den := b * c
      if negative then signed (ofFraction (halfTurn - angleOf num den) angleUnit)
      else if isTiny num den then signed (ofFraction num den)
      else signed (ofFraction (angleOf num den) angleUnit)

end DocExamples.Number.Double
