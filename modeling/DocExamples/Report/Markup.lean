import DocExamples.Log.Record

/-!
Markup, and the library that shows it on a terminal.

Lines are handed to the library as markup, in which a tag in brackets gives a colour. What is not
markup has to be escaped. How a line looks in the end is left to the library: it may shorten, wrap
or replace what it is given.
-/

namespace DocExamples

/-- A line as it is handed to the terminal. -/
structure Printed where
  markup : List Char
  /-- Whether the library may add colours of its own. -/
  highlight : Bool := true
  ending : List Char := ['\n']
  deriving DecidableEq, Repr

/-- A library for the terminal. -/
structure TerminalLibrary where
  /-- A text as markup that stands for it. -/
  escape : List Char → List Char
  /-- What a line looks like, without colours. -/
  shown : Printed → List Char
  /-- What a log record looks like. -/
  logged : Log.Record → List Char

namespace TerminalLibrary

/-- What lines look like, one below the other. -/
def text (l : TerminalLibrary) (lines : List Printed) : String :=
  String.ofList (lines.flatMap l.shown)

/-- What log records look like. -/
def logText (l : TerminalLibrary) (records : List Log.Record) : String :=
  String.ofList (records.flatMap l.logged)

end TerminalLibrary

namespace Markup

/-- Markup in a colour. -/
def coloured (colour : String) (markup : List Char) : List Char :=
  '[' :: (colour.toList ++ ']' :: (markup ++ "[/".toList ++ colour.toList ++ [']']))

/-- The hint for a name that is not defined. -/
def hintLines (escape : List Char → List Char) (name : List Char) : List (List Char) :=
  ["You can declare ".toList ++ coloured "blue" (escape name) ++ " in the ".toList ++
      coloured "blue" "globals".toList ++ " section in ".toList ++
      coloured "grey50" ".mddoctest.yml".toList,
    [],
    "For example:".toList,
    coloured "grey50" "# .mddoctest.yml".toList,
    "globals:".toList,
    "  ".toList ++ coloured "blue" (escape name) ++ ": ...".toList,
    []]

end Markup

end DocExamples
