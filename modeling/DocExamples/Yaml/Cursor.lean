import DocExamples.Failure

/-!
A place in a text of the settings language, with the column it stands in.

Line ends are unified before a text is read, so there are no carriage returns. Besides the line
feed three other characters end a line; two of them keep their form in the text of a value.
-/

namespace DocExamples.Yaml

/-- Why a text cannot be read: it is not written in the language, or a value in it fails in a way
of its own. -/
inductive Fault where
  | malformed
  | failed (f : Failure)
  deriving DecidableEq, Repr

/-- A place in a text. -/
structure Cursor where
  rest : List Char
  index : Nat := 0
  line : Nat := 0
  column : Nat := 0
  deriving Repr

/-- Holds of the characters that end a line. -/
def isBreak (c : Char) : Bool :=
  c == '\n' || c.toNat == 0x85 || c.toNat == 0x2028 || c.toNat == 0x2029

/-- Holds at the end of a line. -/
def endsLine (c : Option Char) : Bool := c.all isBreak

/-- Holds where a line or a word ends by a blank. -/
def endsName (c : Option Char) : Bool := c.all fun c => c == ' ' || isBreak c

/-- Holds where a line or a word ends by a blank or a tab. -/
def endsWord (c : Option Char) : Bool := c.all fun c => c == ' ' || c == '\t' || isBreak c

/-- The byte order mark, which takes no column. -/
def byteOrderMark : Char := Char.ofNat 0xFEFF

namespace Cursor

/-- The character at a place. -/
def peek (c : Cursor) : Option Char := c.rest.head?

/-- The character some characters further on. -/
def peekAt (c : Cursor) (n : Nat) : Option Char := c.rest[n]?

/-- The place behind a character. -/
def past (c : Cursor) (x : Char) (rest : List Char) : Cursor :=
  if isBreak x then ⟨rest, c.index + 1, c.line + 1, 0⟩
  else ⟨rest, c.index + 1, c.line, if x = byteOrderMark then c.column else c.column + 1⟩

/-- The place some characters further on. -/
def advance (c : Cursor) : Nat → Cursor
  | 0 => c
  | n + 1 =>
    match c.rest with
    | [] => c
    | x :: rest => (c.past x rest).advance n

/-- The characters up to the first that does not satisfy a test, and the place behind them. -/
def span (p : Char → Bool) (c : Cursor) : List Char × Cursor :=
  let taken := c.rest.takeWhile p
  (taken, c.advance taken.length)

/-- The place behind all blanks. -/
def skipBlanks (c : Cursor) : Cursor := (c.span (· == ' ')).2

/-- The place at the end of the line. -/
def toLineEnd (c : Cursor) : Cursor := (c.span fun x => !isBreak x).2

/-- Takes the end of a line: what it stands for in a value, and the place behind it. At another
place nothing is taken. -/
def lineBreak (c : Cursor) : List Char × Cursor :=
  match c.rest with
  | x :: _ =>
    if x == '\n' || x.toNat == 0x85 then (['\n'], c.advance 1)
    else if isBreak x then ([x], c.advance 1)
    else ([], c)
  | [] => ([], c)

/-- Holds when a text of three characters stands here as a word of its own. -/
def atMark (mark : String) (c : Cursor) : Bool :=
  mark.toList.isPrefixOf c.rest && endsWord (c.peekAt 3)

/-- Holds at a mark between documents. -/
def atDocumentMark (c : Cursor) : Bool := c.atMark "---" || c.atMark "..."

end Cursor

/-- Holds of the characters that a text may consist of. -/
def isPrintable (c : Char) : Bool :=
  let n := c.toNat
  n == 9 || n == 10 || n == 13 || (0x20 ≤ n && n ≤ 0x7E) || n == 0x85 ||
    (0xA0 ≤ n && n ≤ 0xD7FF) || (0xE000 ≤ n && n ≤ 0xFFFD) || 0x10000 ≤ n

end DocExamples.Yaml
