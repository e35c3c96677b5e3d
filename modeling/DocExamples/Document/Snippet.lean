import DocExamples.Document.Assertion
import DocExamples.Document.Expectation
import DocExamples.Document.Fence

/-!
An example while it is read: its generated code, and how each further line changes it.

The code is a list of lines, the newest first, and each body line of the document adds exactly one
line to it. What a line does depends on two things only: whether a block comment of the document
is open, and whether an output block is open and how many of its lines have been checked.
-/

namespace DocExamples

/-- Generated code as lines without their line feeds, the newest first. -/
abbrev Code := List Line

namespace Code

/-- The text of generated code: every line ends with a line feed. -/
def text (code : Code) : List Char := (code.reverse.map (· ++ ['\n'])).flatten

/-- Adds a line; a line that holds line feeds is several lines. -/
def append (code : Code) (line : Line) : Code := (Text.splitLines line).reverse ++ code

/-- The code with a given text; `none` when its last line is not ended. -/
def ofText? (s : List Char) : Option Code :=
  match (Text.splitLines s).reverse with
  | [] :: lines => some lines
  | _ => none

/-- Replaces the last line by the statement that stores its value and the one that compares it. -/
def captureLast? (expected : Line) : Code → Option Code
  | [] => none
  | line :: older =>
    (Assertion.captureLine? line expected).map fun (stored, compared) =>
      (Text.splitLines compared).reverse ++ stored :: older

/-- Adds a statement to the last line. -/
def extendLast (statement : List Char) : Code → Code
  | [] => [' ' :: statement]
  | line :: older => (line ++ ' ' :: statement) :: older

end Code

/-- An open output block and the number of its lines checked so far. -/
inductive OutputBlock where
  /-- A block of `//` lines, opened by `// output:`. -/
  | ofLines (checked : Nat)
  /-- A block inside a block comment, opened by `output:`. -/
  | ofComment (checked : Nat)
  deriving DecidableEq, Repr

namespace OutputBlock

/-- The number of lines checked so far. -/
def checked : OutputBlock → Nat
  | ofLines n => n
  | ofComment n => n

end OutputBlock

/-- An example that is still open. -/
structure Draft where
  /-- The line of its opening fence. -/
  startLine : Nat
  language : Language
  /-- Whether a directive leaves it out of the run. -/
  skip : Bool
  code : Code
  /-- Whether a block comment of the document is open. -/
  inComment : Bool
  block : Option OutputBlock
  deriving DecidableEq, Repr

namespace Draft

/-- An example with no line yet. -/
def start (startLine : Nat) (language : Language) (skip : Bool) : Draft :=
  ⟨startLine, language, skip, [], false, none⟩

/-- Adds a line of generated code. -/
def append (d : Draft) (line : Line) : Draft := { d with code := d.code.append line }

/-- Ends a block of `//` lines: once a line of it has been checked, no further output may be
left. -/
def finishLines (d : Draft) : Draft :=
  match d.block with
  | some (.ofLines checked) =>
    { d with
      block := none
      code := if checked = 0 then d.code else d.code.extendLast Assertion.drained }
  | _ => d

/-- Takes an annotation of a value. With code in front it becomes a statement of its own line;
alone on its line it turns the line before into one. Where there is no expression to compare, the
line stays the comment it is. -/
def feedReturned (d : Draft) (line : Line) (a : Expectation) : Draft :=
  if Text.isAllBlank a.code then
    match d.code.captureLast? a.expected with
    | some code => { d with code := code }
    | none => d.append line
  else d.append ((Assertion.inlineReturn? a.code a.expected).getD line)

/-- Takes an annotation of a console line. -/
def feedExpectation (d : Draft) (code statement : List Char) : Draft :=
  d.append (Assertion.afterCode code statement d.inComment)

/-- Takes the line that closes the comment around an output block. -/
def closeCommentBlock (d : Draft) (line : Line) (checked : Nat) : Draft :=
  let closes := Text.strip line = "*/".toList ∧ checked ≠ 0
  let closing := if closes then line ++ ' ' :: Assertion.drained else line
  { d.append closing with inComment := Comment.openAfter line true, block := none }

/-- Holds of a line that contains the mark that closes a block comment. -/
def closesComment : Line → Bool
  | '*' :: '/' :: _ => true
  | _ :: rest => closesComment rest
  | [] => false

/-- Takes a line that carries no annotation of a value and none of console values, and no text of
a single console line. -/
def feedPlain (d : Draft) (line : Line) (output : Option Expectation) : Draft :=
  match d.block with
  | some (.ofComment checked) =>
    if closesComment line then d.closeCommentBlock line checked
    else
      { d.append (Assertion.expectOutput (Text.strip line) true) with
        block := some (.ofComment (checked + 1)) }
  | some (.ofLines checked) =>
    let text := (Expectation.continuation? line).getD []
    { d.append (Assertion.expectOutput text false) with
      block := some (.ofLines (checked + 1)) }
  | none =>
    if (output.any fun a => Text.isAllBlank a.code) && !d.inComment then
      { d.append line with block := some (.ofLines 0) }
    else if d.inComment && Expectation.isOutputSentinel line then
      { d.append line with block := some (.ofComment 0) }
    else { d.append line with inComment := Comment.openAfter line d.inComment }

/-- Takes a line once a block of `//` lines has been ended by it where it ends one. -/
def feedOpen (d : Draft) (line : Line) : Draft :=
  match (if d.inComment then none else Expectation.returned? line) with
  | some a => d.feedReturned line a
  | none =>
    match Expectation.logged? line with
    | some a => d.feedExpectation a.code (Assertion.expectLogged a.expected d.inComment)
    | none =>
      let output := Expectation.output? line
      match (if d.block.isNone then Expectation.nonEmpty output else none) with
      | some a => d.feedExpectation a.code (Assertion.expectOutput a.expected d.inComment)
      | none => d.feedPlain line output

/-- Takes one line of the body. A line that is not a comment ends a block of `//` lines. -/
def feed (d : Draft) (line : Line) : Draft :=
  (if (Expectation.continuation? line).isNone then d.finishLines else d).feedOpen line

end Draft

end DocExamples
