import DocExamples.Json.Writer
import DocExamples.Script.Native.Arrays
import DocExamples.Script.Native.Collections
import DocExamples.Script.Native.Escapes
import DocExamples.Script.Native.Making
import DocExamples.Script.Native.Texts

/-!
Calls of the functions of the start, by their paths.

A function that is not covered gives nothing.
-/

namespace DocExamples.Script.Native

open Session

/-! ## Shared functions -/

/-- Calls a function that texts share, on a value that becomes a text. -/
def onText (call : Caller) (name : String) (self : Value) (arguments : List Value) : Act Value := do
  match self with
  | .undefined | .null => refuse .forbidden
  | self =>
    if name = "toString" ∨ name = "valueOf" then refuse (.notA "string")
    let s ← spelling call self
    (sharedByTexts? call name s arguments).getD (return .undefined)

/-- Calls a function that arrays share, on an object that has items by position. -/
def onList (call : Caller) (name : String) (self : Value) (arguments : List Value) : Act Value := do
  match self with
  | .undefined | .null => refuse .noObject
  | self =>
    let items := (← listOf call self).map some
    ((visiting? call name self items arguments).or (telling? call name items arguments)).getD
      (return .undefined)

/-- The text of an error, or of an object in the place of one. -/
def errorText (call : Caller) (v : Value) : Act Value := do
  if v.isPrimitive then throw .notObject
  let part (name : String) (default : List Char) : Act (List Char) := do
    match ← member call v name with
    | .undefined => return default
    | v => spelling call v
  let name ← part "name" "Error".toList
  let message ← part "message" []
  return textValue (if name.isEmpty then message else if message.isEmpty then name
    else name ++ ':' :: ' ' :: message)

/-- Calls a function that gives a value which is no object back, or its text. -/
def inner? (call : Caller) (name : String) (v : Value) : Option (Act Value) :=
  match name with
  | "toString" => some do return textValue (← textOf call v)
  | "valueOf" => some (return v)
  | _ => none

/-- Calls a function that a value shares with others. -/
def shared? (call : Caller) (owner name : String) (self : Value) (arguments : List Value) :
    Option (Act Value) :=
  match owner, self with
  | "String", .text s | "String", .boxed _ (.text s) => sharedByTexts? call name s.toList arguments
  | "String", self => some (onText call name self arguments)
  | "Array", .array _ items => sharedByArrays? call name self items arguments
  | "Array", self => some (onList call name self arguments)
  | "Object", self => sharedByObjects? call name self arguments
  | "Function", self => sharedByFunctions? call name self arguments
  | "Date", .date _ time => sharedByMoments? call name self time arguments
  | "Date", _ => some (refuse (.notA "Date object"))
  | "Map", .map _ entries => sharedByMaps? call name self entries arguments
  | "Map", _ => some (refuse (.expected "Map"))
  | "Set", .set _ items => sharedBySets? call name self items arguments
  | "Set", _ => some (refuse (.expected "Set"))
  | "Number", .number x | "Number", .boxed _ (.number x) => sharedByNumbers? call name x arguments
  | "Number", _ => some (refuse (.notA "number"))
  | "BigInt", .bigint n | "BigInt", .boxed _ (.bigint n) => sharedByWholes? call name n arguments
  | "BigInt", _ => some (refuse (.notA "bigint"))
  | "Boolean", .bool b | "Boolean", .boxed _ (.bool b) => inner? call name (.bool b)
  | "Boolean", _ => some (refuse (.notA "boolean"))
  | "Symbol", .symbol id description | "Symbol", .boxed _ (.symbol id description) =>
    inner? call name (.symbol id description)
  | "Symbol", _ => some (refuse (.notA "symbol"))
  | "RegExp", self => if name = "toString" then inner? call name self else none
  | "Error", self => if name = "toString" then some (errorText call self) else none
  | _, _ => none

/-! ## Functions of the session -/

/-- What one level of JSON is set in by, as an argument tells. -/
def indentOf (v : Value) : List Char :=
  match v with
  | .number x | .boxed _ (.number x) => List.replicate (min 10 (whole x)).toNat ' '
  | .text s | .boxed _ (.text s) => s.toList.take 10
  | _ => []

/-- A value as JSON text, set in by levels if an argument says so. -/
def jsonOf (call : Caller) (v indent : Value) : Act Value := do
  if (indentOf indent).isEmpty then stringify call v
  else
    let j ← take (← settledForJson call v).toJson
    return (j.map fun j => textValue (Json.writeIndented Json.Style.script (indentOf indent) [] j)).getD
      .undefined

/-- The number of a symbol that stands for a text everywhere; no other value has such a number. -/
def commonSymbol (s : String) : Nat := s.foldl (fun n c => 2 ^ 21 * n + c.toNat) (2 ^ 64)

/-- Calls a function of the host. -/
def hosted? (name : String) (arguments : List Value) : Option (Act Value) :=
  match name with
  | "__hostRequire" => some do return .text (← callHost (.require (← hostArgument arguments)))
  | "__hostLog" => some do return .text (← callHost (.log (← hostArgument arguments)))
  | "__hostFormatOutput" => some do
    return .text (← callHost (.formatOutput (← hostArgument arguments)))
  | "__hostNextOutput" => some do return .text (← callHost .nextOutput)
  | "__hostPendingOutput" => some do return .text (← callHost .pendingOutput)
  | _ => none

/-- Calls a function that every session gets. -/
def provided? (m : Machine) (name : String) (arguments : List Value) : Option (Act Value) :=
  let v := arg arguments 0
  match name with
  | "require" => some (require m v)
  | "log" => some do
    log m.call arguments
    return .undefined
  | "__nextOutput" => some (nextOutput m.call)
  | "__formatOutput" => some (formatOutput m.call v)
  | "__assertOutputDrained" => some do
    assertDrained m
    return .undefined
  | "__deepStrictEqual" => some do
    assertEqual m v (arg arguments 1)
    return .undefined
  | _ => none

/-- The functions that make the same when they are called as when they are asked for an object. -/
def callable : List String := ["Object", "Array", "RegExp", "Function"] ++ Standard.errorNames

/-- Calls a function that stands under its own name. -/
def named? (m : Machine) (name : String) (arguments : List Value) : Option (Act Value) :=
  let v := arg arguments 0
  match name with
  | "eval" => some do
    match v with
    | .text s => m.run s
    | v => return v
  | "Boolean" => some (return .bool v.isTrue)
  | "Symbol" => some do return .symbol (← freshId) (← optionalText m.call v)
  | "Symbol.for" => some do
    let s := String.ofList (← spelling m.call v)
    return .symbol (commonSymbol s) s
  | "JSON.stringify" => some (jsonOf m.call v (arg arguments 2))
  | "JSON.parse" => some (parseJson m.call v)
  | "Promise.resolve" | "Promise.reject" => some (make m "Promise" [])
  | name =>
    if callable.contains name then some (make m name arguments)
    else if Standard.constructors.contains name then some (refuse .needsNew)
    else none

/-- The owner and the name in the path of a shared function. -/
def sharedPath? (path : String) : Option (String × String) :=
  match (Text.splitAt '.' path.toList).map String.ofList with
  | [owner, "prototype", name] => some (owner, name)
  | _ => none

/-- The call of a function that is no shared one. -/
def single? (m : Machine) (path : String) (arguments : List Value) : Option (Act Value) :=
  let call := m.call
  List.firstM id [
    provided? m path arguments, hosted? path arguments, numbers? call path arguments,
    texts? call path arguments, moments? call path arguments, arrays? call path arguments,
    objects? m path arguments, escapes? call path arguments, named? m path arguments]

/-- Calls a function of the start. -/
def apply (m : Machine) (path : String) (self : Value) (arguments : List Value) : Act Value :=
  let found := match sharedPath? path with
    | some (owner, name) => shared? m.call owner name self arguments
    | none => single? m path arguments
  found.getD (return .undefined)

end DocExamples.Script.Native
