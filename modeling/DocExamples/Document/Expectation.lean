import DocExamples.Document.Comment
import DocExamples.Text.Lines

/-!
Expectations: the comments of an example that say what it should give.

* `expr // => expected`, or `// => expected` below `expr`, states the value of an expression;
* `// log => values` and `// output: text` state the next line written to the console;
* `// output:` alone, or `output:` inside a block comment, opens a block in which each further
  line is one line of console output.

An annotation is split off its line by the line's comment alone; what stands before the comment
never matters for what the comment says.
-/

namespace DocExamples

/-- An annotation: the code in front of it, and what it expects. -/
structure Expectation where
  code : Line
  expected : Line
  deriving DecidableEq, Repr

namespace Expectation

/-- Holds of a text that starts with two slashes. -/
def startsComment (s : List Char) : Bool := "//".toList.isPrefixOf s

/-- The code of a line and its comment, which starts with two slashes. A line that starts with the
comment has no code. -/
def splitComment (line : Line) : Option (Line × Line) :=
  let trimmed := Text.stripLeft line
  if startsComment trimmed then some ([], trimmed)
  else (Comment.lineCommentStart line).map fun i => (line.take i, line.drop i)

/-- Takes a word off the front of a text; one blank may stand before the word. -/
def dropMark (word : String) (s : List Char) : Option (List Char) :=
  let s := match s with
    | c :: rest => if Text.isBlank c then rest else s
    | [] => s
  if word.toList.isPrefixOf s then some (s.drop word.length) else none

/-- What a comment says after its mark, which is one line of text. -/
def afterMarks (words : List String) (comment : Line) : Option (List Char) :=
  (words.foldlM (fun s word => dropMark word s) (comment.drop 2)).bind Text.wholeLine

/-- The annotation with the given mark; `none` when the line has another comment or none. -/
def withMarks? (words : List String) (line : Line) : Option Expectation :=
  match splitComment line with
  | none => none
  | some (code, comment) =>
    (afterMarks words comment).map fun expected => ⟨code, Text.strip expected⟩

/-- Keeps the annotations that expect something. -/
def nonEmpty (found : Option Expectation) : Option Expectation :=
  found.filter fun a => !a.expected.isEmpty

/-- The annotation of a value, `// => expected`. -/
def returned? (line : Line) : Option Expectation := nonEmpty (withMarks? ["=>"] line)

/-- The annotation of a console line by its values, `// log => values`. -/
def logged? (line : Line) : Option Expectation := nonEmpty (withMarks? ["log", "=>"] line)

/-- The annotation of a console line by its text, `// output: text`. On a line without code an
empty text opens a block. -/
def output? (line : Line) : Option Expectation := withMarks? ["output:"] line

/-- Holds of a bare `output:`, which opens a block inside a block comment. -/
def isOutputSentinel (line : Line) : Bool := Text.strip line = "output:".toList

/-- The text of a line that is only a comment, as it continues an output block. -/
def continuation? (line : Line) : Option Line :=
  let trimmed := Text.stripLeft line
  if startsComment trimmed then (Text.wholeLine (trimmed.drop 2)).map Text.strip else none

end Expectation

end DocExamples
