/-!
Lines of a text: the pieces between line feeds, the reading of foreign line ends, and the wider
notion of a line that ignore files use.
-/

namespace DocExamples.Text

/-- The pieces of a text between line feeds. There is always one more piece than line feeds, so
the empty text has one empty line. -/
def splitLines : List Char → List (List Char)
  | [] => [[]]
  | c :: rest =>
    if c = '\n' then [] :: splitLines rest
    else match splitLines rest with
      | [] => [[c]]
      | line :: more => (c :: line) :: more

/-- The pieces of a text between the places of a character. -/
def splitAt (mark : Char) : List Char → List (List Char)
  | [] => [[]]
  | c :: rest =>
    if c = mark then [] :: splitAt mark rest
    else match splitAt mark rest with
      | [] => [[c]]
      | piece :: more => (c :: piece) :: more

/-- Puts a separator between texts. -/
def joinWith (separator : List Char) : List (List Char) → List Char
  | [] => []
  | [line] => line
  | line :: more => line ++ separator ++ joinWith separator more

/-- Every line end becomes one line feed: a carriage return with a line feed, or either alone. -/
def unifyLineEnds : List Char → List Char
  | '\r' :: '\n' :: rest => '\n' :: unifyLineEnds rest
  | '\r' :: rest => '\n' :: unifyLineEnds rest
  | c :: rest => c :: unifyLineEnds rest
  | [] => []

/-- Holds of each single character that ends a line of an ignore file. -/
def isLineBreak (c : Char) : Bool :=
  let n := c.toNat
  (10 ≤ n && n ≤ 13) || (28 ≤ n && n ≤ 30) || n == 0x85 || n == 0x2028 || n == 0x2029

/-- The lines of a text under every kind of line break; a break at the end opens no further
line. -/
def breakLines (s : List Char) : List (List Char) := go [] s
where
  /-- The open line is held in reverse. -/
  go (current : List Char) : List Char → List (List Char)
    | [] => if current.isEmpty then [] else [current.reverse]
    | '\r' :: '\n' :: rest => current.reverse :: go [] rest
    | c :: rest => if isLineBreak c then current.reverse :: go [] rest else go (c :: current) rest

/-- The text up to its only line feed, which may stand at the very end; `none` when more follows
that line feed. This is what "the rest of the line" means to an annotation. -/
def wholeLine (s : List Char) : Option (List Char) :=
  match s.span (· ≠ '\n') with
  | (line, []) => some line
  | (line, [_]) => some line
  | _ => none

@[simp] theorem splitLines_ne_nil (s : List Char) : splitLines s ≠ [] := by
  cases s with
  | nil => simp [splitLines]
  | cons c rest =>
    simp only [splitLines]
    split
    · simp
    · split <;> simp

end DocExamples.Text
