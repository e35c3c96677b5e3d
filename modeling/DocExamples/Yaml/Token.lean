/-!
Tokens of the settings language. Indentation has become tokens as well: each block begins and ends
with one.
-/

namespace DocExamples.Yaml

/-- What stands behind a percent sign at the start of a line. -/
inductive Directive where
  | version (major minor : Nat)
  /-- A handle of tags, and what it stands for. -/
  | handle (name start : String)
  /-- A directive without meaning. -/
  | unknown
  deriving DecidableEq, Repr

/-- A token. -/
inductive Token where
  | directive (d : Directive)
  | documentStart
  | documentEnd
  | blockSequenceStart
  | blockMappingStart
  | blockEnd
  | flowSequenceStart
  | flowSequenceEnd
  | flowMappingStart
  | flowMappingEnd
  /-- The dash in front of an item. -/
  | blockEntry
  /-- The comma between items. -/
  | flowEntry
  | key
  | value
  | alias (name : String)
  | anchor (name : String)
  | tag (handle : Option String) (suffix : String)
  /-- The text of a value; `plain` where it stands without quotes and not in a block of its own. -/
  | scalar (text : String) (plain : Bool)
  deriving DecidableEq, Repr

end DocExamples.Yaml
