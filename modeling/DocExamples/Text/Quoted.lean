import DocExamples.Text.Printable

/-!
The quoted form in which messages show names and patterns.

A text stands between single quotes, or between double quotes when it contains single ones only.
Backslashes, the quote in use and everything that is not printable are escaped; an escape is as
short as the code point allows.
-/

namespace DocExamples.Text

/-- The lower-case hexadecimal digits of a number, at least `width` of them. -/
def hexText (width n : Nat) : List Char :=
  let ds := Nat.toDigits 16 n
  List.replicate (width - ds.length) '0' ++ ds

/-- One character between the quotes `mark`. -/
def quotedChar (mark c : Char) : List Char :=
  if c = mark ∨ c = '\\' then ['\\', c]
  else if c = '\n' then ['\\', 'n']
  else if c = '\r' then ['\\', 'r']
  else if c = '\t' then ['\\', 't']
  else if isPrintable c then [c]
  else if c.toNat < 0x100 then ['\\', 'x'] ++ hexText 2 c.toNat
  else if c.toNat < 0x10000 then ['\\', 'u'] ++ hexText 4 c.toNat
  else ['\\', 'U'] ++ hexText 8 c.toNat

/-- The quotes that show a text with the fewest escapes. -/
def quoteMark (s : List Char) : Char :=
  if s.contains '\'' && !s.contains '"' then '"' else '\''

/-- The quoted form of a text. -/
def quoted (s : List Char) : List Char :=
  let mark := quoteMark s
  mark :: (s.flatMap (quotedChar mark) ++ [mark])

/-- The quoted form of a string. -/
def quotedString (s : String) : String := String.ofList (quoted s.toList)

/-- The quoted form of bytes: the letter b and a text in which only characters of the first half of
the bytes stand for themselves. -/
def quotedBytes (bytes : List UInt8) : List Char :=
  let s := bytes.map fun b => Char.ofNat b.toNat
  let mark := quoteMark s
  let byte (c : Char) :=
    if c.toNat < 0x80 then quotedChar mark c else ['\\', 'x'] ++ hexText 2 c.toNat
  'b' :: mark :: (s.flatMap byte ++ [mark])

end DocExamples.Text
