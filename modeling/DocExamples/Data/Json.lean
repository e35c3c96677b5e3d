import DocExamples.Data.Basic
import DocExamples.Json.Writer
import DocExamples.Number.Layout
import DocExamples.Number.Limit

/-!
Plain data as JSON, for lines of console output and for the names of variables.
-/

namespace DocExamples.Data

/-- Why a value has no JSON form. -/
inductive JsonFault where
  | value (typeName : String)
  | key (typeName : String)
  | tooLong (t : Number.TooLong)
  deriving DecidableEq, Repr

/-- A value without a JSON form as a failure. -/
def JsonFault.failure : JsonFault → Failure
  | value name => ⟨"TypeError", "Object of type " ++ name ++ " is not JSON serializable"⟩
  | key name => ⟨"TypeError", "keys must be str, int, float, bool or None, not " ++ name⟩
  | tooLong t => t.failure

/-- The name of a member for a key. -/
def memberName : Data → Except JsonFault String
  | null => .ok "null"
  | bool b => .ok (if b then "true" else "false")
  | int n =>
    if Number.isWritable n then .ok (String.ofList (Number.intText n)) else .error (.tooLong .toWrite)
  | float x => .ok (String.ofList (Number.Layout.data.text x))
  | text s => .ok s
  | other => .error (.key other.typeName)

mutual

/-- The JSON form of a value. -/
def toJson : Data → Except JsonFault Json
  | null => .ok .null
  | bool b => .ok (.bool b)
  | int n => if Number.isWritable n then .ok (.int n) else .error (.tooLong .toWrite)
  | float x => .ok (.float x)
  | text s => .ok (.str s)
  | list items | tuple items => (toJsonItems items).map .arr
  | map entries => (toJsonMembers entries).map .obj
  | script _ => .error (.value "JsExpression")
  | callable name _ => .error (.value name)
  | transpile .. => .error (.value "TranspileConfig")
  | settings _ => .error (.value "DoctestConfig")
  | foreign name .. => .error (.value name)

/-- The JSON forms of the items of a sequence. -/
def toJsonItems : List Data → Except JsonFault (List Json)
  | [] => .ok []
  | item :: more => do
    let j ← toJson item
    let js ← toJsonItems more
    return j :: js

/-- The members for the entries of a mapping. -/
def toJsonMembers : List (Data × Data) → Except JsonFault (List (String × Json))
  | [] => .ok []
  | (key, value) :: more => do
    let name ← memberName key
    let j ← toJson value
    let members ← toJsonMembers more
    return (name, j) :: members

end

/-- The text of a value as JSON. -/
def jsonText (d : Data) : Except JsonFault (List Char) := d.toJson.map (Json.write Json.Style.spaced)

end DocExamples.Data
