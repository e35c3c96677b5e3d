/-!
The tree that a text in the settings language stands for. Every node has a tag, which says what
kind of value it is.
-/

namespace DocExamples.Yaml

/-- The kind of a value. -/
inductive Tag where
  | null
  | bool
  | int
  | float
  | timestamp
  | text
  | sequence
  | mapping
  /-- The key behind which mappings stand that are taken over. -/
  | merge
  /-- The key of the value that a mapping stands for. -/
  | defaultValue
  | set
  | ordered
  | pairs
  | binary
  | other (name : String)
  deriving DecidableEq, Repr

namespace Tag

/-- What the names of the tags of the language start with. -/
def start : String := "tag:yaml.org,2002:"

/-- The tags of the language. -/
def table : List (String × Tag) :=
  [("null", null), ("bool", bool), ("int", int), ("float", float), ("timestamp", timestamp),
    ("str", text), ("seq", sequence), ("map", mapping), ("merge", merge), ("value", defaultValue),
    ("set", set), ("omap", ordered), ("pairs", pairs), ("binary", binary)]

/-- The tag with a name. -/
def ofName (name : String) : Tag :=
  match table.find? fun t => start ++ t.1 == name with
  | some t => t.2
  | none => other name

end Tag

/-- A node. -/
inductive Node where
  | scalar (tag : Tag) (text : String)
  | sequence (tag : Tag) (items : List Node)
  | mapping (tag : Tag) (entries : List (Node × Node))

namespace Node

/-- The tag of a node. -/
def tag : Node → Tag
  | scalar t _ | sequence t _ | mapping t _ => t

mutual

/-- How many collections stand inside one another. -/
def height : Node → Nat
  | scalar .. => 0
  | sequence _ items => itemsHeight items + 1
  | mapping _ entries => entriesHeight entries + 1

/-- The height of the highest of several nodes. -/
def itemsHeight : List Node → Nat
  | [] => 0
  | item :: more => max (height item) (itemsHeight more)

/-- The height of the highest key or value of entries. -/
def entriesHeight : List (Node × Node) → Nat
  | [] => 0
  | (key, value) :: more => max (max (height key) (height value)) (entriesHeight more)

end

end Node

end DocExamples.Yaml
