import DocExamples.Json.Writer

/-!
The console of a sandbox: the lines written and not yet taken, the oldest first, and the text of a
line.
-/

namespace DocExamples

/-- Lines waiting to be taken. -/
structure Console where
  lines : List String := []
  deriving DecidableEq, Repr, Inhabited

namespace Console

/-- Writes a line. -/
def log (c : Console) (line : String) : Console := ⟨c.lines ++ [line]⟩

/-- Takes the oldest line; `none` when there is none. -/
def pop (c : Console) : Option String × Console :=
  match c.lines with
  | [] => (none, c)
  | line :: more => (some line, ⟨more⟩)

@[simp] theorem lines_log (c : Console) (line : String) :
    (c.log line).lines = c.lines ++ [line] := rfl

end Console

end DocExamples

/-!
## Lines

A line of console output: the values of one call, with a blank between them. A text stands for
itself, every other value is compact JSON with all characters as they are.
-/

namespace DocExamples.Console

/-- One value of a line. -/
def shown : Json → List Char
  | .str s => s.toList
  | value => Json.write Json.Style.compact value

/-- The line for the values of one call. -/
def line (values : List Json) : String :=
  String.ofList (Text.joinWith [' '] (values.map shown))

/-- A value that does not hold several values. -/
structure NotSeveral where
  typeName : String
  deriving DecidableEq, Repr

/-- The words for a value that does not hold several. -/
def NotSeveral.message (n : NotSeveral) : String :=
  "'" ++ n.typeName ++ "' object is not iterable"

/-- The values that a payload stands for: the items of an array, the names of an object, the
characters of a text. -/
def values : Json → Except NotSeveral (List Json)
  | .arr items => .ok items
  | .obj members => .ok (members.map fun m => .str m.1)
  | .str s => .ok (s.toList.map fun c => .str (Char.toString c))
  | .null => .error ⟨"NoneType"⟩
  | .bool _ => .error ⟨"bool"⟩
  | .int _ => .error ⟨"int"⟩
  | .float _ => .error ⟨"float"⟩

end DocExamples.Console
