import DocExamples.Script.JsonReader
import DocExamples.Script.Operation

/-!
What the script that every sandbox starts with gives to the snippets that follow: a console, modules,
and the checks that annotations turn into.

A module is asked for once: what its source gave is kept under its name, and a name that failed is
asked for again. All of it relies on functions that stand under their names, those of the host among
them, and a session can put something else in their place.
-/

namespace DocExamples.Script

/-- What the functions of a session rely on. -/
structure Machine where
  /-- Calls a value. -/
  call : Caller
  /-- Makes an object by a function. -/
  create : Value → List Value → Act Value
  /-- Makes a function from its source, with the places of the variables around it. -/
  define : List (String × Nat) → String → Act Value
  /-- Evaluates a source. -/
  run : String → Act Value

namespace Session

/-! ## The host -/

/-- An argument as the host takes it. -/
def hostArgument : List Value → Act String
  | [.text s] => return Thrown.crossing s
  | _ => throw .host

/-- Calls a function of the host by its name. -/
def askHost (call : Caller) (name : String) (request : String → HostCall) (arguments : List Value) :
    Act Value := do
  match ← replaced? name with
  | some f => call f Standard.allVariables arguments
  | none => return .text (← callHost (request (← hostArgument arguments)))

/-- Calls a function of the host that takes nothing. -/
def askHostFor (call : Caller) (name : String) (request : HostCall) : Act Value := do
  match ← replaced? name with
  | some f => call f Standard.allVariables []
  | none => return .text (← callHost request)

mutual

/-- The value that a JSON value writes. -/
def ofJson : Json → Act Value
  | .null => return .null
  | .bool b => return .bool b
  | .int n => return .number (Numeral.ofInt n)
  | .float x => return .number x
  | .str s => return .text s
  | .arr items => do
    let items ← ofJsonItems items
    newArray items
  | .obj members => do
    let members ← ofJsonMembers members
    newObject members

/-- The values that the items of a JSON array write. -/
def ofJsonItems : List Json → Act (List Value)
  | [] => return []
  | item :: more => do
    let v ← ofJson item
    return v :: (← ofJsonItems more)

/-- The values that the members of a JSON object write. -/
def ofJsonMembers : List (String × Json) → Act (List (String × Value))
  | [] => return []
  | (name, item) :: more => do
    let v ← ofJson item
    return (name, v) :: (← ofJsonMembers more)

end

/-- Reads JSON. -/
def parseJson (call : Caller) (v : Value) : Act Value := do
  match JsonReader.read (← spelling call v) with
  | .ok j => ofJson j
  | .error words => throw (.notJson words)

/-- Reads what the host replies. -/
def parseReply (call : Caller) (reply : Act Value) : Act Value := do
  match ← replaced? "JSON" with
  | none => parseJson call (← reply)
  | some json =>
    let parse ← member call json "parse"
    let reply ← reply
    call parse json [reply]

/-! ## The console -/

/-- Requires that the functions of arrays stand under their name. -/
def needsArrays (call : Caller) : Act Unit := do
  match ← replaced? "Array" with
  | none | some (.native "Array") => return
  | some v =>
    let makes := match v with
      | .function _ source _ => Value.canMake source
      | .native name => Value.hasInstances name
      | _ => false
    if makes then throw (.noMember "call" "undefined")
    let slice ← member call (← member call v "prototype") "slice"
    let _ ← member call slice "call"
    throw .notFunction

/-- Writes values to the console. -/
def log (call : Caller) (values : List Value) : Act Unit := do
  needsArrays call
  let payload ← (conversions call).payload values
  let _ ← askHost call "__hostLog" .log [payload]

/-- The next line of the console, which it leaves. -/
def nextOutput (call : Caller) : Act Value :=
  parseReply call (askHostFor call "__hostNextOutput" .nextOutput)

/-- The line that the console would show for values. -/
def formatOutput (call : Caller) (values : Value) : Act Value :=
  parseReply call do
    match values with
    | .array _ items =>
      let payload ← (conversions call).payload (items.map fun v => v.getD .undefined)
      askHost call "__hostFormatOutput" .formatOutput [payload]
    | values =>
      let _ ← member call values "map"
      throw .notFunction

/-! ## Checks -/

/-- Throws a value. -/
def throwValue {α : Type} (v : Value) : Act α := do
  modify fun s => { s with thrown := v }
  throw .value

/-- Throws, where errors are made by what stands under their name. -/
def failWith (m : Machine) (thrown : Thrown) : Act Unit := do
  match ← replaced? "Error" with
  | none => throw thrown
  | some f =>
    let v ← m.create f [.text thrown.making.2]
    throwValue (← changed v fun v => thrown.members.forM fun given => setMember v given.1 (.text given.2))

/-- Requires that no line of the console is left. -/
def assertDrained (m : Machine) : Act Unit := do
  let call := m.call
  let pending ← parseReply call (askHostFor call "__hostPendingOutput" .pendingOutput)
  let length ← numberOf call (← member call pending "length")
  if Number.Double.isLess .zero length then
    let lines ← match pending with
      | .array .. | .text _ | .object .. => callMember call pending "join" [.text "\n"]
      | _ => throw .notFunction
    let lines ← spelling call lines
    failWith m (.undrained lines)

/-- Compares two values by functions that stand in place of those for objects. -/
def equalBy (call : Caller) (objects a b : Value) : Act Bool := do
  if (← callMember call objects "is" [a, b]).isTrue then return true
  else if a.kind?.isNone || b.kind?.isNone then return false
  else
    let ancestor ← callMember call objects "getPrototypeOf" [a]
    if !ancestor.strictlyEqual (← callMember call objects "getPrototypeOf" [b]) then return false
    else
      let _ ← callMember call objects "keys" [a]
      throw .notFunction

/-- Compares two values. -/
def equal (call : Caller) (a b : Value) : Act Bool := do
  match ← replaced? "Object" with
  | none | some (.native "Object") =>
    take (Value.equalWhere (← standing) (← settled call a) (← settled call b))
  | some objects => equalBy call objects a b

/-- Requires that two values are deeply equal. -/
def assertEqual (m : Machine) (actual expected : Value) : Act Unit := do
  let call := m.call
  if ← equal call actual expected then return
  else
    let left ← spelling call (← (conversions call).describe actual)
    let right ← spelling call (← (conversions call).describe expected)
    failWith m (.notEqual left right)

/-! ## Modules -/

/-- The source in the reply to a request for a module. -/
def replySource (m : Machine) (reply : Value) : Act String := do
  let call := m.call
  if (← member call reply "ok").isTrue then
    return String.ofList (← spelling call (← member call reply "source"))
  else
    failWith m (.noModule (String.ofList (← spelling call (← member call reply "message"))))
    throw .host

/-- Evaluates a source by what stands under the name for it. -/
def evaluateSource (m : Machine) (source : String) : Act Value := do
  match ← replaced? "eval" with
  | some f => m.call f .undefined [.text source]
  | none => m.run source

/-- The module with a name, which can be any value that has a text. -/
def require (m : Machine) (name : Value) : Act Value := do
  let name ← (conversions m.call).text name
  let key := String.ofList (← spelling m.call name)
  match (← get).modules.find? key with
  | some v => return v
  | none =>
    let reply ← parseReply m.call (askHost m.call "__hostRequire" .require [name])
    let source ← replySource m reply
    let v ← evaluateSource m ("(" ++ source ++ ")")
    modify fun s => { s with modules := s.modules.keep key v }
    return (← get).modules.kept key

end Session

end DocExamples.Script
