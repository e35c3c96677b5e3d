import DocExamples.Failure
import DocExamples.Number.Whole
import DocExamples.Text.Blank
import DocExamples.Text.Digit

/-!
Whole numbers in text, and the bound on them. Longer runs of digits are not read in base ten, and
numbers that would need more digits are not written, for either would take a time that grows with
the square of the length.
-/

namespace DocExamples.Number

/-- How many digits a whole number may have in text. -/
def digitLimit : Nat := 4300

/-- A number with too many digits. -/
inductive TooLong where
  /-- A text of so many digits is to be read. -/
  | toRead (digits : Nat)
  | toWrite
  deriving DecidableEq, Repr

namespace TooLong

/-- The words for a number with too many digits. -/
def message (t : TooLong) : String :=
  "Exceeds the limit (" ++ toString digitLimit ++ " digits) for integer string conversion" ++
    (match t with
      | toRead digits => ": value has " ++ toString digits ++ " digits"
      | toWrite => "") ++
    "; use sys.set_int_max_str_digits() to increase the limit"

/-- The failure that a number with too many digits is. -/
def failure (t : TooLong) : Failure := ⟨"ValueError", t.message⟩

end TooLong

/-- Holds of a number with no more digits than allowed. -/
def isWritable (n : Int) : Bool := n.natAbs < 10 ^ digitLimit

/-- The number that a run of digits writes, if there are not too many of them. -/
def ofDigits (digits : List Char) : Except TooLong Nat :=
  if digits.length ≤ digitLimit then .ok (Text.natOfDigits digits)
  else .error (.toRead digits.length)

theorem ofDigits_eq_ok {digits : List Char} (h : digits.length ≤ digitLimit) :
    ofDigits digits = .ok (Text.natOfDigits digits) := by
  simp [ofDigits, h]

end DocExamples.Number

/-!
## Numbers that people type

Around such a number there may be blanks, in front of it one sign, and between its digits, which are
of any script, single low lines.
-/

namespace DocExamples.Text

/-- The digits of a number with single low lines between them; `needsDigit` means that a low line
may not stand here. -/
def digitsBetween? (needsDigit : Bool) : List Char → Option (List Char)
  | [] => if needsDigit then none else some []
  | c :: rest =>
    if isDigit c then (digitsBetween? false rest).map (c :: ·)
    else if c = '_' ∧ needsDigit = false then digitsBetween? true rest
    else none

/-- Reads a whole number that does not have too many digits. -/
def readInt? (s : List Char) : Option Int :=
  let (negative, body) := match strip s with
    | '-' :: rest => (true, rest)
    | '+' :: rest => (false, rest)
    | rest => (false, rest)
  match (digitsBetween? true body).map Number.ofDigits with
  | some (.ok n) => some (if negative then -n else n)
  | _ => none

end DocExamples.Text
