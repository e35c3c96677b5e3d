import DocExamples.Text.Blank
import DocExamples.Text.Word

/-!
Comments in one line of a script.

A line is read once from left to right. Two slashes start a comment that runs to the end of the
line; a slash and a star open a block comment that may run on into later lines. Neither counts
inside a string, a template or a regular expression literal, so the reader follows those literals
too. Whether a slash divides or opens a regular expression depends on what stands before it, and
the text before the current point is therefore kept, in reverse.
-/

namespace DocExamples

/-- A line of a document or of generated code. -/
abbrev Line := List Char

namespace Comment

/-- What surrounds a point of a line. -/
inductive Mode where
  | code
  | comment
  /-- Inside a literal that ends with the delimiter; `inClass` holds between the brackets of a
  character class, where the delimiter of a regular expression stands for itself. -/
  | literal (delimiter : Char) (inClass : Bool)
  deriving DecidableEq, Repr

/-- What a line says about comments. -/
structure Scan where
  /-- Whether a block comment is still open after the line. -/
  openAfter : Bool
  /-- Where the comment that runs to the end of the line starts. -/
  start : Option Nat
  deriving DecidableEq, Repr

/-- The characters after which a slash opens a regular expression. -/
def regexPreceders : List Char := "(,=:[!&|?\x7b\x7d;+-*%<>~^".toList

/-- The words after which a slash opens a regular expression, in reverse. -/
def regexKeywords : List (List Char) :=
  ["return", "typeof", "case", "in", "of", "void", "delete", "throw", "new"].map
    (·.toList.reverse)

/-- Holds when a text, given in reverse, ends with one of the words and the word does not continue
an identifier. -/
def endsWithKeyword (before : List Char) : Bool :=
  regexKeywords.any fun word =>
    word.isPrefixOf before &&
      match before.drop word.length with
      | [] => true
      | c :: _ => !isIdentifierPart c
where
  isIdentifierPart (c : Char) : Bool := Text.isWord c || c == '$'

/-- Holds when a slash after the text, given in reverse, opens a regular expression. -/
def startsRegex (before : List Char) : Bool :=
  match before.dropWhile Text.isBlank with
  | [] => true
  | c :: rest => regexPreceders.contains c || endsWithKeyword (c :: rest)

/-- Holds of the marks that open a string or a template. -/
def isQuote (c : Char) : Bool := c == '\'' || c == '"' || c == '\x60'

/-- Holds when the character opens a literal after the given text. -/
def opensLiteral (before : List Char) (c : Char) : Bool :=
  isQuote c || (c == '/' && startsRegex before)

/-- The mode after one unescaped character of a literal. -/
def afterLiteralChar (delimiter : Char) (inClass : Bool) (c : Char) : Mode :=
  if delimiter = '/' then
    if c = '[' then .literal delimiter true
    else if c = ']' then .literal delimiter false
    else if c = '/' ∧ inClass = false then .code
    else .literal delimiter inClass
  else if c = delimiter then .code
  else .literal delimiter inClass

/-- Reads the rest of a line. A literal that is still open at the end of the line ends there. -/
def scanFrom : Mode → List Char → List Char → Scan
  | .comment, _, [] => ⟨true, none⟩
  | .comment, before, '*' :: '/' :: rest => scanFrom .code ('/' :: '*' :: before) rest
  | .comment, before, c :: rest => scanFrom .comment (c :: before) rest
  | .code, _, [] => ⟨false, none⟩
  | .code, before, '/' :: '/' :: _ => ⟨false, some before.length⟩
  | .code, before, '/' :: '*' :: rest => scanFrom .comment ('*' :: '/' :: before) rest
  | .code, before, c :: rest =>
    scanFrom (if opensLiteral before c then .literal c false else .code) (c :: before) rest
  | .literal _ _, _, [] => ⟨false, none⟩
  | .literal _ _, _, ['\\'] => ⟨false, none⟩
  | .literal delimiter inClass, before, '\\' :: c :: rest =>
    scanFrom (.literal delimiter inClass) (c :: '\\' :: before) rest
  | .literal delimiter inClass, before, c :: rest =>
    scanFrom (afterLiteralChar delimiter inClass c) (c :: before) rest

/-- Reads a line that starts inside a block comment or outside. -/
def scan (line : Line) (inComment : Bool) : Scan :=
  scanFrom (if inComment then .comment else .code) [] line

/-- Whether a block comment is open after a line. -/
def openAfter (line : Line) (inComment : Bool) : Bool := (scan line inComment).openAfter

/-- Where a line outside comments starts the comment that runs to its end. -/
def lineCommentStart (line : Line) : Option Nat := (scan line false).start

end Comment

end DocExamples
