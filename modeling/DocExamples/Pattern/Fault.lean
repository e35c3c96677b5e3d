import DocExamples.Number.Layout
import DocExamples.Number.Limit
import DocExamples.Text.Quoted

/-!
What is wrong with the text of a pattern, and where.
-/

namespace DocExamples.Pattern

/-- Something that is wrong with the text of a pattern. -/
inductive Flaw where
  | endsInBackslash
  | incompleteEscape (text : List Char)
  | badEscape (text : List Char)
  | octalTooLarge (text : List Char)
  | noBrace
  | unknownCharacter (name : List Char)
  | openGroup
  | lookbehindGroup
  | noSuchGroup (number : Nat)
  | groupNumberZero
  | unknownGroup (name : List Char)
  | missing (what : String)
  | unterminated (mark : Char)
  | badGroupName (name : List Char)
  | repeatedName (name : List Char) (number earlier : Nat)
  | unterminatedSet
  | badRange (first last : List Char)
  | leastAboveMost
  | nothingToRepeat
  | repeatedRepeat
  | unexpectedEnd
  | unknownExtension (text : List Char)
  | unterminatedGroup
  | unterminatedComment
  | lateOptions
  | thirdChoice
  | optionLocale
  | optionsIncompatible
  | unknownOption
  | optionGlobalOn
  | optionGlobalOff
  | optionKindOff
  | optionOnAndOff
  | unbalanced
  | lookbehindWidth
  deriving DecidableEq, Repr

namespace Flaw

/-- The words for a flaw. -/
def message : Flaw → List Char
  | endsInBackslash => "bad escape (end of pattern)".toList
  | incompleteEscape text => "incomplete escape ".toList ++ text
  | badEscape text => "bad escape ".toList ++ text
  | octalTooLarge text =>
    "octal escape value ".toList ++ text ++ " outside of range 0-0o377".toList
  | noBrace => "missing \x7b".toList
  | unknownCharacter name => "undefined character name ".toList ++ Text.quoted name
  | openGroup => "cannot refer to an open group".toList
  | lookbehindGroup => "cannot refer to group defined in the same lookbehind subpattern".toList
  | noSuchGroup number => "invalid group reference ".toList ++ Number.natText number
  | groupNumberZero => "bad group number".toList
  | unknownGroup name => "unknown group name ".toList ++ Text.quoted name
  | missing what => "missing ".toList ++ what.toList
  | unterminated mark => "missing ".toList ++ mark :: ", unterminated name".toList
  | badGroupName name => "bad character in group name ".toList ++ Text.quoted name
  | repeatedName name number earlier =>
    "redefinition of group name ".toList ++ Text.quoted name ++ " as group ".toList ++
      Number.natText number ++ "; was group ".toList ++ Number.natText earlier
  | unterminatedSet => "unterminated character set".toList
  | badRange first last => "bad character range ".toList ++ first ++ '-' :: last
  | leastAboveMost => "min repeat greater than max repeat".toList
  | nothingToRepeat => "nothing to repeat".toList
  | repeatedRepeat => "multiple repeat".toList
  | unexpectedEnd => "unexpected end of pattern".toList
  | unknownExtension text => "unknown extension ".toList ++ text
  | unterminatedGroup => "missing ), unterminated subpattern".toList
  | unterminatedComment => "missing ), unterminated comment".toList
  | lateOptions => "global flags not at the start of the expression".toList
  | thirdChoice => "conditional backref with more than two branches".toList
  | optionLocale => "bad inline flags: cannot use 'L' flag with a str pattern".toList
  | optionsIncompatible =>
    "bad inline flags: flags 'a', 'u' and 'L' are incompatible".toList
  | unknownOption => "unknown flag".toList
  | optionGlobalOn => "bad inline flags: cannot turn on global flag".toList
  | optionGlobalOff => "bad inline flags: cannot turn off global flag".toList
  | optionKindOff => "bad inline flags: cannot turn off flags 'a', 'u' and 'L'".toList
  | optionOnAndOff => "bad inline flags: flag turned on and off".toList
  | unbalanced => "unbalanced parenthesis".toList
  | lookbehindWidth => "look-behind requires fixed-width pattern".toList

end Flaw

/-- Why a text is no pattern. -/
inductive Fault where
  /-- A flaw, and the position in the text where it shows, if it shows at one. -/
  | flaw (what : Flaw) (position : Option Nat)
  /-- A repetition count that is too large to be counted. -/
  | countTooLarge
  /-- A repetition count with too many digits. -/
  | countTooLong (t : Number.TooLong)
  /-- Options for the whole pattern that contradict each other. -/
  | optionsContradict
  deriving DecidableEq, Repr

/-- Where a position stands in a text of several lines: the line and the column, from one. -/
def lineAndColumn (text : List Char) (position : Nat) : Nat × Nat :=
  let before := text.take position
  (before.count '\n' + 1, (before.reverse.takeWhile (· ≠ '\n')).length + 1)

namespace Fault

/-- The words for a fault of the given text. The line is given only for a text of several. -/
def message (text : List Char) : Fault → List Char
  | flaw what none => what.message
  | flaw what (some position) =>
    let place := " at position ".toList ++ Number.natText position
    let line :=
      if text.contains '\n' then
        let (line, column) := lineAndColumn text position
        " (line ".toList ++ Number.natText line ++ ", column ".toList ++ Number.natText column ++
          [')']
      else []
    what.message ++ place ++ line
  | countTooLarge => "the repetition number is too large".toList
  | countTooLong t => t.message.toList
  | optionsContradict => "ASCII and UNICODE flags are incompatible".toList

/-- A fault of the given text as a failure. -/
def failure (text : String) (fault : Fault) : Failure :=
  ⟨match fault with
    | flaw .. => "error"
    | countTooLarge => "OverflowError"
    | countTooLong _ | optionsContradict => "ValueError", String.ofList (fault.message text.toList)⟩

end Fault

end DocExamples.Pattern
