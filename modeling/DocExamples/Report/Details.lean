import DocExamples.Text.Blank
import DocExamples.Text.Word

/-!
What a report shows of a diagnostic: the part before the frames of the stack, and a hint where a
name was not defined.
-/

namespace DocExamples.Details

/-- Holds when a line that starts here is a frame of a stack: blanks, the word `at`, a blank. -/
def isFrame (s : List Char) : Bool :=
  match s.span Text.isBlank with
  | (_ :: _, 'a' :: 't' :: c :: _) => Text.isBlank c
  | _ => false

/-- The text before the first line that starts a frame; `none` when there is none. The flag holds
at the start of a line. -/
def beforeFrame? : Bool → List Char → Option (List Char)
  | _, [] => none
  | atStart, c :: rest =>
    if atStart && isFrame (c :: rest) then some []
    else (beforeFrame? (c == '\n') rest).map (c :: ·)

/-- The part of a diagnostic that concerns its reader. A frame at the very start cuts nothing. -/
def relevant (diagnostic : List Char) : List Char :=
  match beforeFrame? true diagnostic with
  | none | some [] => Text.stripRight diagnostic
  | some before => Text.stripRight before

/-- Holds of the characters a hinted name starts with. -/
def isNameStart (c : Char) : Bool :=
  ('a' ≤ c && c ≤ 'z') || ('A' ≤ c && c ≤ 'Z') || c == '_' || c == '$'

/-- Holds of the characters a hinted name goes on with. -/
def isNamePart (c : Char) : Bool := Text.isWord c || c == '$'

/-- Drops a quote. -/
def dropQuote : List Char → List Char
  | '\'' :: rest => rest
  | s => s

/-- The name that a text starts with, if the text says that the name is not defined. -/
def undefinedHere? (s : List Char) : Option (List Char) :=
  match dropQuote s with
  | c :: rest =>
    if isNameStart c && " is not defined".toList.isPrefixOf (dropQuote (rest.dropWhile isNamePart))
    then some (c :: rest.takeWhile isNamePart)
    else none
  | [] => none

/-- The first name that a text says is not defined. -/
def undefinedName? : List Char → Option (List Char)
  | [] => none
  | c :: rest => undefinedHere? (c :: rest) <|> undefinedName? rest

end DocExamples.Details
