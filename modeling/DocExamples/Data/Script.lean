import DocExamples.Data.Display
import DocExamples.Json.Writer

/-!
Handing data into the sandbox, as the text of a script expression.

Plain data becomes JSON. A script stands at its place in parentheses, so that what surrounds it
cannot change how it is read. Everything else is refused, and so are numbers that are too long and
lists, tuples and mappings that nest too deep.
-/

namespace DocExamples.Data

/-- Why the sandbox cannot receive a value. -/
inductive Refusal where
  /-- No value of this type can be received. -/
  | unsupported (typeName : String)
  | tooLong (t : Number.TooLong)
  | tooDeep
  deriving DecidableEq, Repr

/-- A refused value as a failure. -/
def Refusal.failure : Refusal → Failure
  | unsupported typeName =>
    ⟨"TypeError", "Cannot pass a " ++ typeName ++
      " into the sandbox; use JSON-compatible data or a JsExpression"⟩
  | tooLong t => t.failure
  | tooDeep => ⟨"RecursionError", "maximum recursion depth exceeded in comparison"⟩

mutual

/-- The expression for a value in which lists, tuples and mappings may nest to a given depth. -/
def render : Nat → Data → Except Refusal (List Char)
  | _, null => .ok "null".toList
  | _, bool b => .ok (if b then "true".toList else "false".toList)
  | _, int n => if Number.isWritable n then .ok (Number.intText n) else .error (.tooLong .toWrite)
  | _, float x => .ok (Number.Layout.data.text x)
  | _, text s => .ok (Json.quoteAscii s.toList)
  | 0, list _ | 0, tuple _ | 0, map _ => .error .tooDeep
  | depth + 1, list items | depth + 1, tuple items => do
    let texts ← renderItems depth items
    return '[' :: (Text.joinWith ", ".toList texts ++ [']'])
  | depth + 1, map entries => do
    let texts ← renderEntries depth entries
    return '\x7b' :: (Text.joinWith ", ".toList texts ++ ['\x7d'])
  | _, script source => .ok ('(' :: (source.toList ++ [')']))
  | _, callable name _ => .error (.unsupported name)
  | _, transpile .. => .error (.unsupported "TranspileConfig")
  | _, settings _ => .error (.unsupported "DoctestConfig")
  | _, foreign name .. => .error (.unsupported name)

/-- The expressions for the items of a sequence. -/
def renderItems : Nat → List Data → Except Refusal (List (List Char))
  | _, [] => .ok []
  | depth, item :: more => do
    let text ← render depth item
    let texts ← renderItems depth more
    return text :: texts

/-- The members of an object for the entries of a mapping. -/
def renderEntries : Nat → List (Data × Data) → Except Refusal (List (List Char))
  | _, [] => .ok []
  | depth, (key, value) :: more => do
    let name ← key.name.mapError .tooLong
    let text ← render depth value
    let texts ← renderEntries depth more
    return (Json.quoteAscii name.toList ++ ": ".toList ++ text) :: texts

end

/-- How deep values may nest. A call on the way takes a part of the room for calls, so it is a third
of that room. -/
def deepest : Nat := 330

/-- The expression for a value. -/
def toScript (d : Data) : Except Refusal (List Char) := d.render deepest

/-- The expression for a value, as a string. -/
def scriptText (d : Data) : Except Refusal String := d.toScript.map String.ofList

end DocExamples.Data
