import DocExamples.Json.Literal
import DocExamples.Number.Power
import DocExamples.Number.Shortest
import DocExamples.Text.Digit

/-!
Numerals of scripts.

A numeral has a base, which marks in front of its digits choose, and its digits may be grouped by
underscores. A numeral of base ten with a point or an exponent is read exactly. Any other one fills
a word of 64 bits from the left; the digits that no longer fit only count as places, so that long
numerals lose what stands behind.
-/

namespace DocExamples.Script

/-- What a numeral stands for. -/
inductive Numeral where
  | number (x : Number.Double)
  | bigint (n : Nat)
  deriving DecidableEq, Repr

namespace Numeral

/-- The value of a digit in a base. -/
def digit? (base : Nat) (c : Char) : Option Nat :=
  match Json.hexValue? c with
  | some d => if d < base then some d else none
  | none => none

/-- Takes digits; the flag allows underscores that stand between two of them. -/
def digits (base : Nat) (grouped : Bool) : List Char → List Char × List Char
  | '_' :: c :: rest =>
    if grouped && (digit? base c).isSome then
      let (more, rest) := digits base grouped rest
      (c :: more, rest)
    else ([], '_' :: c :: rest)
  | c :: rest =>
    if (digit? base c).isSome then
      let (more, rest) := digits base grouped rest
      (c :: more, rest)
    else ([], c :: rest)
  | [] => ([], [])

/-- The digits of a whole part. Behind a zero at the start of a decimal there is no group. -/
def wholeDigits (base : Nat) (grouped : Bool) (s : List Char) : List Char × List Char :=
  match base, s with
  | 10, '0' :: '_' :: rest => (['0'], '_' :: rest)
  | _, s => digits base grouped s

/-- The greatest word that still takes a digit. -/
def roomFor (base : Nat) : Nat := (2 ^ 64 - 1 - (base - 1)) / base

/-- Fills a word with digits from the left. The result holds how many digits did not fit. -/
def fill (base : Nat) (digits : List Nat) : Nat × Nat :=
  digits.foldl (fun (n, left) d => if n ≤ roomFor base then (n * base + d, left) else (n, left + 1))
    (0, 0)

/-- The number of a whole numeral. -/
def ofDigits (base : Nat) (ds : List Nat) : Number.Double :=
  let (n, left) := fill base ds
  if left = 0 then .ofInt n
  else (Number.Double.ofInt n).multiply ((Number.Double.ofInt base).raise (.ofInt left))

/-- The number of a whole numeral in base ten. -/
def ofNat (n : Nat) : Number.Double := ofDigits 10 (Number.Decimal.digitsOf n)

/-- The number of a whole numeral in base ten with a sign in front. -/
def ofInt (n : Int) : Number.Double := if n < 0 then (ofNat n.natAbs).negate else ofNat n.natAbs

/-- The values of digits. -/
def valuesOf (base : Nat) (ds : List Char) : List Nat := ds.filterMap (digit? base)

/-- The base of a numeral, whether its digits may be grouped, whether the base is that of a zero in
front alone, and the digits with what follows. -/
def baseOf (s : List Char) : Nat × Bool × Bool × List Char :=
  match s with
  | '0' :: mark :: rest =>
    if mark = 'x' ∨ mark = 'X' then (16, true, false, rest)
    else if mark = 'o' ∨ mark = 'O' then (8, true, false, rest)
    else if mark = 'b' ∨ mark = 'B' then (2, true, false, rest)
    else if (digit? 10 mark).isSome then
      match (mark :: rest).dropWhile fun c => (digit? 8 c).isSome with
      | '8' :: _ | '9' :: _ => (10, false, true, s)
      | _ => (8, false, true, mark :: rest)
    else (10, true, false, s)
  | s => (10, true, false, s)

/-- An exponent with its sign, as long as there is a digit; otherwise nothing is taken. -/
def exponent (grouped : Bool) (s : List Char) : Option (Int × List Char) :=
  let signed (negative : Bool) (s : List Char) : Option (Int × List Char) :=
    match digits 10 grouped s with
    | ([], _) => none
    | (ds, rest) =>
      let n : Int := Text.natOfDigits ds
      if s.head? = some '_' then none else some (if negative then -n else n, rest)
  match s with
  | '+' :: rest => signed false rest
  | '-' :: rest => signed true rest
  | s => signed false s

/-- The digits behind a point; the outer result is missing when a group starts with nothing in front
of it. -/
def fraction? (base : Nat) (grouped whole : Bool) (s : List Char) :
    Option (Option (List Char) × List Char) :=
  match s with
  | '.' :: rest =>
    if whole || (rest.head?.bind (digit? base)).isSome then
      if grouped && rest.head? = some '_' then none
      else
        let (ds, rest) := digits base grouped rest
        some (some ds, rest)
    else some (none, s)
  | s => some (none, s)

/-- Reads a numeral, which has no sign. -/
def read? (s : List Char) : Option (Numeral × List Char) := do
  let (base, grouped, zeroed, s) := baseOf s
  let (whole, rest) := wholeDigits base grouped s
  if base ≠ 10 ∧ whole.isEmpty then none
  let (fraction, rest) ← fraction? base grouped (!whole.isEmpty) rest
  if whole.isEmpty ∧ fraction.isNone then none
  let (power, rest) : Option Int × List Char :=
    match rest with
    | c :: after =>
      let marks := if base = 10 then ['e', 'E'] else ['p', 'P']
      if marks.contains c then
        match exponent grouped after with
        | some (e, rest) => (some e, rest)
        | none => (none, rest)
      else (none, rest)
    | [] => (none, rest)
  let broken := fraction.isSome || power.isSome
  match rest with
  | 'n' :: rest =>
    if zeroed || broken then none
    else
      some (.bigint ((valuesOf base whole).foldl (fun n d => n * base + d) 0), rest)
  | rest =>
    if broken && base = 10 then
      let ds := whole ++ fraction.getD []
      let e := power.getD 0 - (fraction.getD []).length
      some (.number (.ofDecimal false (Text.natOfDigits ds) e), rest)
    else some (.number (ofDigits base (valuesOf base whole)), rest)

end Numeral

end DocExamples.Script
