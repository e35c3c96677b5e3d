import DocExamples.Failure
import DocExamples.Number.Double

/-!
Host data: the values that a configuration holds and that a sandbox receives.

Most of it is plain data. A value can also be the text of a script expression, something that can
be called, a part of a configuration that was put together beforehand, or a value of a type that
this library knows by name only.
-/

namespace DocExamples

/-- A host value. -/
inductive Data where
  | null
  | bool (b : Bool)
  | int (n : Int)
  | float (x : Number.Double)
  | text (s : String)
  | list (items : List Data)
  | tuple (items : List Data)
  /-- Entries in order, with different keys. -/
  | map (entries : List (Data × Data))
  /-- An expression that the sandbox evaluates. -/
  | script (source : String)
  /-- Something that can be called. What it gives may depend on how often it was called before. -/
  | callable (typeName : String) (call : Nat → List (Option String) → Except Failure Data)
  /-- Whether and how snippets are compiled, by two fields that nothing checks. -/
  | transpile (enabled presets : Data)
  /-- A finished configuration, by the fields that were set. -/
  | settings (fields : List (String × Data))
  /-- A value of another type: how it is shown, what it is known by among its kind, and its items
  if it is a sequence. -/
  | foreign (typeName shown identity : String) (items : List Data)
  deriving Inhabited

namespace Data

/-- The name of the type of a value. -/
def typeName : Data → String
  | null => "NoneType"
  | bool _ => "bool"
  | int _ => "int"
  | float _ => "float"
  | text _ => "str"
  | list _ => "list"
  | tuple _ => "tuple"
  | map _ => "dict"
  | script _ => "JsExpression"
  | callable name _ => name
  | transpile .. => "TranspileConfig"
  | settings _ => "DoctestConfig"
  | foreign name .. => name

/-- Holds of a value that counts as true: one that is neither zero nor empty. -/
def isTrue : Data → Bool
  | null => false
  | bool b => b
  | int n => n != 0
  | float x => !x.isZero
  | text s => s != ""
  | list items | tuple items => !items.isEmpty
  | map entries => !entries.isEmpty
  | foreign name shown _ _ => name != "bytes" || shown != "b''"
  | _ => true

end Data

/-- The presets that snippets are compiled with unless a configuration says otherwise. -/
def defaultPresets : List String := ["es2015"]

/-- Whether and how snippets are compiled before they run. -/
structure Transpile where
  enabled : Data := .bool true
  presets : Data := .list (defaultPresets.map .text)
  deriving Inhabited

end DocExamples
