import DocExamples.Document.Comment
import DocExamples.Json.Literal
import DocExamples.Text.Lines

/-!
Assertions: the statements that take the place of annotations.

Each rewriting keeps one generated line for one line of the document, so that a position reported
in generated code is a position in the document. A statement inside a block comment closes the
comment before it and opens it again behind it.
-/

namespace DocExamples.Assertion

/-- Compares two expressions. -/
def equalCall (actual expected : List Char) : List Char :=
  "__deepStrictEqual(".toList ++ actual ++ ", ".toList ++ expected ++ ");".toList

/-- The variable that holds the value of an annotated expression. -/
def returnVariable : List Char := "__returnValue".toList

/-- Takes the next line of console output. -/
def nextOutput : List Char := "__nextOutput()".toList

/-- Requires that no console output is left. -/
def drained : List Char := "__assertOutputDrained();".toList

/-- Closes the block comment around a statement and opens it again. -/
def reopenComment (statement : List Char) : List Char :=
  "*/ ".toList ++ statement ++ " /*".toList

/-- A statement as it stands in code, or inside a block comment. -/
def place (statement : List Char) (inComment : Bool) : List Char :=
  if inComment then reopenComment statement else statement

/-- Requires that the next console line is the text. -/
def expectOutput (text : Line) (inComment : Bool) : List Char :=
  place (equalCall nextOutput (Json.quoteAscii text)) inComment

/-- Requires that the next console line is what logging the values writes. -/
def expectLogged (values : Line) (inComment : Bool) : List Char :=
  place (equalCall nextOutput ("__formatOutput([".toList ++ values ++ "])".toList)) inComment

/-- The expression of a line: the line without the blanks around it and without the semicolons at
its end. `none` when nothing is left, or when what is left starts like a comment. -/
def expression? (line : Line) : Option (List Char) :=
  let body := Text.dropTrailing (fun c => c == ';' || Text.isBlank c) (Text.stripLeft line)
  if body.isEmpty || "//".toList.isPrefixOf body || "/*".toList.isPrefixOf body ||
      "*".toList.isPrefixOf body then none
  else some body

/-- Stores the value of an expression. -/
def capture (indent expression : List Char) : List Char :=
  indent ++ "var ".toList ++ returnVariable ++ " = ".toList ++ expression ++ [';']

/-- Requires that the stored value is the expected one. -/
def expectReturned (expected : Line) : List Char := equalCall returnVariable expected

/-- The annotated expression and its comparison on one line. -/
def inlineReturn? (code expected : Line) : Option Line :=
  (expression? code).map fun e =>
    capture (Text.indentOf code) e ++ ' ' :: expectReturned expected

/-- The line that stores the value of a given line, and the line that compares it. -/
def captureLine? (line expected : Line) : Option (Line × Line) :=
  (expression? line).map fun e =>
    let indent := Text.indentOf line
    (capture indent e, indent ++ expectReturned expected)

/-- Holds of code that a further statement may follow without a semicolon. -/
def endsStatement (body : List Char) : Bool :=
  match body.getLast? with
  | some c => c == ';' || c == '\x7b' || c == '\x7d'
  | none => false

/-- Places a statement behind the code that stood before its annotation. -/
def afterCode (code statement : List Char) (inComment : Bool) : Line :=
  let body := Text.stripRight code
  if body.isEmpty then code ++ statement
  else
    let body := if !inComment && !endsStatement body then body ++ [';'] else body
    body ++ ' ' :: statement

end DocExamples.Assertion
