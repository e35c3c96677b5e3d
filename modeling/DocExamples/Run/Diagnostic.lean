import DocExamples.Number.Limit
import DocExamples.Text.Blank

/-!
What a script engine reports when a snippet fails.

The engine gives one text: the message, and below it the frames of the stack, the innermost first.
The position of the failure in the snippet is that of the outermost frame of the snippet's own
code, which is the last frame marked `<eval>`, or the last frame without a function name where
there is none.
-/

namespace DocExamples

/-- A failure of a snippet in its engine. -/
structure EvaluationError where
  message : String
  stack : String := ""
  line : Option Nat := none
  column : Option Nat := none
  deriving DecidableEq, Repr

/-- The message and the stack, without the message twice. -/
def EvaluationError.diagnostic (e : EvaluationError) : String :=
  if e.stack = "" then e.message
  else if e.message.toList.isPrefixOf e.stack.toList then e.stack
  else e.message ++ "\n" ++ e.stack

/-- A position in a script as it is written: a line, and a column where one is known. -/
structure Position where
  line : List Char
  column : Option (List Char)
  deriving DecidableEq, Repr

namespace Position

/-- The digits that a text ends with, after a colon, and the text before the colon. The text is
given in reverse and so is what is left of it. -/
def lastNumber? (reversed : List Char) : Option (List Char × List Char) :=
  match reversed.span Text.isDigit with
  | ([], _) => none
  | (digits, ':' :: before) => some (digits.reverse, before)
  | _ => none

/-- The position that a place in a script ends with: a line and a column, or a line alone.
`isPlace` says what may stand before it. -/
def ofPlace? (isPlace : List Char → Bool) (place : List Char) : Option Position :=
  match lastNumber? place.reverse with
  | none => none
  | some (last, before) =>
    let alone := if isPlace before then some ⟨last, none⟩ else none
    match lastNumber? before with
    | some (line, before) => if isPlace before then some ⟨line, some last⟩ else alone
    | none => alone

/-- Holds of the two parentheses. -/
def isParenthesis (c : Char) : Bool := c == '(' || c == ')'

/-- The words in front of the place of a frame of evaluated code. -/
def evalMark : List Char := "at <eval> (".toList

/-- The frame of evaluated code that a text starts with: its position, and how many characters it
takes. -/
def evalFrame? (s : List Char) : Option (Position × Nat) :=
  if evalMark.isPrefixOf s then
    match (s.drop evalMark.length).span fun c => !isParenthesis c with
    | (place, ')' :: _) =>
      (ofPlace? (fun _ => true) place).map fun p => (p, evalMark.length + place.length + 1)
    | _ => none
  else none

/-- How many of the blanks that a text starts with belong to a line that ends among them: all of
them at the end of the text, and else those in front of their last line feed. -/
def closingBlanks? (s : List Char) : Option Nat :=
  match s.span Text.isBlank with
  | (blanks, []) => some blanks.length
  | (blanks, _) =>
    match blanks.reverse.dropWhile (· ≠ '\n') with
    | [] => none
    | _ :: front => some front.length

/-- The frame without a function name that a text starts with, and how many characters it takes.
Blanks are the first of it, at the start of a line, and the last, up to the end of one. -/
def bareFrame? (atStart : Bool) (s : List Char) : Option (Position × Nat) :=
  if !atStart then none
  else match s.span Text.isBlank with
  | (indent@(_ :: _), 'a' :: 't' :: ' ' :: rest) =>
    let (place, behind) := rest.span fun c => !Text.isBlank c && !isParenthesis c
    match ofPlace? (fun before => !before.isEmpty) place, closingBlanks? behind with
    | some p, some n => some (p, indent.length + 3 + place.length + n)
    | _, _ => none
  | _ => none

/-- The positions of the frames of a text from left to right, each found behind the end of the one
before it. The flag holds at the start of a line; so many characters as the number says still
belong to the last frame. -/
def frames (frame? : Bool → List Char → Option (Position × Nat)) :
    Bool → Nat → List Char → List Position
  | _, _, [] => []
  | _, inside + 1, c :: rest => frames frame? (c == '\n') inside rest
  | atStart, 0, c :: rest =>
    match frame? atStart (c :: rest) with
    | some (p, length) => p :: frames frame? (c == '\n') (length - 1) rest
    | none => frames frame? (c == '\n') 0 rest

/-- The position that a text of an engine reports. -/
def ofReport? (text : List Char) : Option Position :=
  (frames (fun _ => evalFrame?) true 0 text).getLast? <|> (frames bareFrame? true 0 text).getLast?

end Position

namespace EvaluationError

/-- A report without a position. -/
def unplaced (text : String) : EvaluationError :=
  { message := String.ofList (text.toList.takeWhile (· ≠ '\n'))
    stack := String.ofList (Text.stripRight text.toList) }

/-- Reads what an engine reports. A position with a number that is too long cannot be read. -/
def ofReport (text : String) : Except Number.TooLong EvaluationError :=
  match Position.ofReport? text.toList with
  | none => .ok (unplaced text)
  | some position => do
    let line ← Number.ofDigits position.line
    match position.column with
    | none => return { unplaced text with line := some line }
    | some column =>
      return { unplaced text with line := some line, column := some (← Number.ofDigits column) }

end EvaluationError

end DocExamples
