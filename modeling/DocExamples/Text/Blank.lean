/-!
Blank characters, and the trimming of a text on either side.

Blank means every character that separates words in any script: the ASCII blanks and separators,
the next-line control and the Unicode spaces. Lines, annotations and directives are all compared
after trimming by this one class, so a document written with a no-break space reads like one
written with a plain space.
-/

namespace DocExamples.Text

/-- Holds of the characters that trimming removes. -/
def isBlank (c : Char) : Bool :=
  let n := c.toNat
  (9 ≤ n && n ≤ 13) || (28 ≤ n && n ≤ 32) || n == 0x85 || n == 0xA0 || n == 0x1680 ||
    (0x2000 ≤ n && n ≤ 0x200A) || n == 0x2028 || n == 0x2029 || n == 0x202F || n == 0x205F ||
    n == 0x3000

/-- Drops the blanks a text starts with. -/
def stripLeft (s : List Char) : List Char := s.dropWhile isBlank

/-- Drops the longest run of characters in `p` that a text ends with. -/
def dropTrailing (p : Char → Bool) (s : List Char) : List Char := (s.reverse.dropWhile p).reverse

/-- Drops the blanks a text ends with. -/
def stripRight (s : List Char) : List Char := dropTrailing isBlank s

/-- Drops the blanks on both sides. -/
def strip (s : List Char) : List Char := stripRight (stripLeft s)

/-- The blanks a text starts with. -/
def indentOf (s : List Char) : List Char := s.takeWhile isBlank

/-- Holds of a text without a character other than blanks. -/
def isAllBlank (s : List Char) : Bool := s.all isBlank

theorem indentOf_append_stripLeft (s : List Char) : indentOf s ++ stripLeft s = s :=
  List.takeWhile_append_dropWhile

end DocExamples.Text
