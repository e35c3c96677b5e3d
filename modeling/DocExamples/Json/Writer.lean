import DocExamples.Json.Basic
import DocExamples.Json.Literal
import DocExamples.Number.Layout
import DocExamples.Text.Lines

/-!
The text of a JSON value under a style: which separators stand between the parts, whether
characters beyond ASCII are escaped, and how numbers are laid out.
-/

namespace DocExamples.Json

/-- How a JSON value is written. -/
structure Style where
  itemSeparator : List Char
  nameSeparator : List Char
  plain : Char → Bool
  numbers : Number.Layout

namespace Style

/-- Values handed into the sandbox: a blank after each separator, ASCII throughout. -/
def spaced : Style := ⟨", ".toList, ": ".toList, plainAscii, Number.Layout.data⟩

/-- Values in lines of console output: no blanks, and characters as they are. -/
def compact : Style := ⟨[','], [':'], plainAll, Number.Layout.data⟩

/-- Values as a script writes them. -/
def script : Style := ⟨[','], [':'], plainAll, Number.Layout.script⟩

end Style

mutual

/-- The text of a value. -/
def write (style : Style) : Json → List Char
  | .null => "null".toList
  | .bool true => "true".toList
  | .bool false => "false".toList
  | .int n => Number.intText n
  | .float x => style.numbers.text x
  | .str s => quote style.plain s.toList
  | .arr items => '[' :: (Text.joinWith style.itemSeparator (writeItems style items) ++ [']'])
  | .obj members =>
    '\x7b' :: (Text.joinWith style.itemSeparator (writeMembers style members) ++ ['\x7d'])

/-- The texts of the items of an array. -/
def writeItems (style : Style) : List Json → List (List Char)
  | [] => []
  | item :: more => write style item :: writeItems style more

/-- The texts of the members of an object. -/
def writeMembers (style : Style) : List (String × Json) → List (List Char)
  | [] => []
  | (name, value) :: more =>
    (quote style.plain name.toList ++ style.nameSeparator ++ write style value) ::
      writeMembers style more

end

/-- A value as text, for replies that cross the border of the sandbox. -/
def render (j : Json) : String := String.ofList (write Style.spaced j)

/-!
## Indented text

Each part of a value stands on a line of its own.
-/

/-- Parts between two brackets, each on a line of its own behind a margin. -/
def lined (opening closing : Char) (unit margin : List Char) (parts : List (List Char)) : List Char :=
  if parts.isEmpty then [opening, closing]
  else
    let inner := '\n' :: (margin ++ unit)
    opening :: inner ++ Text.joinWith (',' :: inner) parts ++ '\n' :: margin ++ [closing]

mutual

/-- The text of a value behind a margin; each level adds a unit to it. -/
def writeIndented (style : Style) (unit margin : List Char) : Json → List Char
  | .arr items => lined '[' ']' unit margin (indentedItems style unit (margin ++ unit) items)
  | .obj members =>
    lined '\x7b' '\x7d' unit margin (indentedMembers style unit (margin ++ unit) members)
  | j => write style j

/-- The texts of the items of an array. -/
def indentedItems (style : Style) (unit margin : List Char) : List Json → List (List Char)
  | [] => []
  | item :: more => writeIndented style unit margin item :: indentedItems style unit margin more

/-- The texts of the members of an object. -/
def indentedMembers (style : Style) (unit margin : List Char) :
    List (String × Json) → List (List Char)
  | [] => []
  | (name, value) :: more =>
    (quote style.plain name.toList ++ ':' :: ' ' :: writeIndented style unit margin value) ::
      indentedMembers style unit margin more

end

end DocExamples.Json
