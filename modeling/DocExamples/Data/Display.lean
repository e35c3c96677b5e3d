import DocExamples.Data.Basic
import DocExamples.Number.Layout
import DocExamples.Number.Limit
import DocExamples.Text.Lines
import DocExamples.Text.Quoted

/-!
The words for a value, as they stand in names and messages. A text stands for itself; inside
another value it is quoted.
-/

namespace DocExamples.Data

mutual

/-- A value inside another one. -/
def inner : Data → List Char
  | null => "None".toList
  | bool b => if b then "True".toList else "False".toList
  | int n => Number.intText n
  | float x => Number.Layout.plain.text x
  | text s => Text.quoted s.toList
  | list items => '[' :: (Text.joinWith ", ".toList (innerAll items) ++ [']'])
  | tuple items =>
    '(' :: (Text.joinWith ", ".toList (innerAll items) ++
      (if items.length = 1 then [','] else []) ++ [')'])
  | map entries => '\x7b' :: (Text.joinWith ", ".toList (innerEntries entries) ++ ['\x7d'])
  | script source => "JsExpression(source=".toList ++ Text.quoted source.toList ++ [')']
  | callable name _ => '<' :: (name.toList ++ ['>'])
  | transpile .. => "<TranspileConfig>".toList
  | settings _ => "<DoctestConfig>".toList
  | foreign _ shown .. => shown.toList

/-- The items of a sequence. -/
def innerAll : List Data → List (List Char)
  | [] => []
  | item :: more => inner item :: innerAll more

/-- The entries of a mapping. -/
def innerEntries : List (Data × Data) → List (List Char)
  | [] => []
  | (key, value) :: more => (inner key ++ ": ".toList ++ inner value) :: innerEntries more

end

/-- The words for a value. -/
def display : Data → List Char
  | text s => s.toList
  | value => inner value

mutual

/-- Holds of a value without whole numbers that are too long to be written. -/
def isWritable : Data → Bool
  | int n => Number.isWritable n
  | list items | tuple items => areWritable items
  | map entries => entriesAreWritable entries
  | _ => true

/-- Holds when every item of a sequence can be written. -/
def areWritable : List Data → Bool
  | [] => true
  | item :: more => isWritable item && areWritable more

/-- Holds when every entry of a mapping can be written. -/
def entriesAreWritable : List (Data × Data) → Bool
  | [] => true
  | (key, value) :: more => isWritable key && isWritable value && entriesAreWritable more

end

/-- The name that a value is as a key or in a list of names. -/
def name (d : Data) : Except Number.TooLong String :=
  if d.isWritable then .ok (String.ofList d.display) else .error .toWrite

end DocExamples.Data
