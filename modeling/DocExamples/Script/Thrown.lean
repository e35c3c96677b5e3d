import DocExamples.Data.Script
import DocExamples.Report.Details
import DocExamples.Run.Diagnostic
import DocExamples.Script.Misuse
import DocExamples.Script.Token

/-!
What a session throws, and how it is reported.
-/

namespace DocExamples.Script

/-- Why a session stops in the middle of a step. -/
inductive Thrown where
  /-- Two values are not deeply equal; the texts show them. -/
  | notEqual (actual expected : List Char)
  /-- Lines of the console are left, all of them in one text. -/
  | undrained (lines : List Char)
  /-- There is no module; the text is that of the host. -/
  | noModule (message : String)
  | notFunction
  | notMaker
  /-- A member of nothing; the second text is what stands in its place. -/
  | noMember (name kind : String)
  /-- A member of nothing that is to be set. -/
  | noSetting (name kind : String)
  | undefinedName (name : String)
  /-- A variable that is read before it is set for the first time. -/
  | unset (name : String)
  | symbolText
  | symbolNumber
  | bigintNumber
  | mixedBigint
  | bigintJson
  | cycle
  /-- An object without a way to become a value that is none. -/
  | noPrimitive
  /-- A value in the place of what objects are instances of. -/
  | notClass
  /-- A function that no object is an instance of. -/
  | noInstances
  | notObject
  | misuse (m : Misuse)
  | overflow
  /-- A loop that goes on for too long. -/
  | interrupted
  /-- A source that is not read. -/
  | unreadable (f : SourceFault)
  /-- A text that is no JSON. -/
  | notJson (words : String)
  /-- The host failed. -/
  | host
  /-- A value that a script threw; the session holds it. -/
  | value
  /-- What a script threw, as text. -/
  | raised (text : String)
  /-- A value that a script threw and that has no text. -/
  | wordless
  /-- A variable that the sandbox cannot receive. -/
  | unsupported (f : Failure)
  /-- What was thrown where a variable was set for the first time. -/
  | uninstalled (text : String)
  deriving DecidableEq, Repr

namespace Thrown

/-- The words for what was thrown. -/
def message : Thrown → String
  | notEqual actual expected =>
    "AssertionError: Expected values to be strictly deep-equal:\n" ++
      String.ofList (actual ++ " !== ".toList ++ expected)
  | undrained lines =>
    "AssertionError: Unexpected console output left unchecked:\n" ++ String.ofList lines
  | noModule message => "Error: " ++ message
  | notFunction => "TypeError: not a function"
  | notMaker => "TypeError: not a constructor"
  | noMember name kind => "TypeError: cannot read property '" ++ name ++ "' of " ++ kind
  | noSetting name kind => "TypeError: cannot set property '" ++ name ++ "' of " ++ kind
  | undefinedName name => "ReferenceError: '" ++ name ++ "' is not defined"
  | unset name => "ReferenceError: " ++ name ++ " is not initialized"
  | symbolText => "TypeError: cannot convert symbol to string"
  | symbolNumber => "TypeError: cannot convert symbol to number"
  | bigintNumber => "TypeError: cannot convert bigint to number"
  | mixedBigint => "TypeError: both operands must be bigint"
  | bigintJson => "TypeError: bigint are forbidden in JSON.stringify"
  | cycle => "TypeError: circular reference"
  | noPrimitive => "TypeError: toPrimitive"
  | notClass => "TypeError: invalid 'instanceof' right operand"
  | noInstances => "TypeError: operand 'prototype' property is not an object"
  | notObject => "TypeError: not an object"
  | misuse m => m.message
  | overflow => "InternalError: stack overflow"
  | interrupted => "InternalError: interrupted"
  | unreadable f => "SyntaxError: " ++ f.message
  | notJson words => "SyntaxError: " ++ words
  | host => "InternalError: Python call failed."
  | value => "a value of the script"
  | raised text => text
  | wordless => "(Failed obtaining QuickJS error string. Concurrency issue?)"
  | unsupported f => "Invalid global: " ++ f.message
  | uninstalled text => "Failed to install globals: " ++ text

/-- A text cut at the first colon before a blank: the name of an error, and its words. -/
def cut : List Char → List Char × List Char
  | ':' :: ' ' :: rest => ([], rest)
  | c :: rest =>
    let (name, words) := cut rest
    (c :: name, words)
  | [] => ([], [])

/-- The name of the error that is thrown, and its words. -/
def parts (t : Thrown) : String × String :=
  let (name, words) := cut t.message.toList
  (String.ofList name, String.ofList words)

/-- The members that the error which is thrown is given beside its message. -/
def members : Thrown → List (String × String)
  | notEqual .. | undrained _ => [("name", "AssertionError")]
  | noModule _ => [("code", "MODULE_NOT_FOUND")]
  | _ => []

/-- The function by which the error that is thrown is made, and its message. -/
def making (t : Thrown) : String × String :=
  let (name, words) := t.parts
  (if t.members.any (·.1 == "name") then "Error" else name, words)

/-- A text as far as it crosses the border to the host: up to the first character with the code
zero. -/
def crossing (s : String) : String := String.ofList (s.toList.takeWhile (· ≠ Char.ofNat 0))

/-- The failure of a snippet that throws at its top. -/
def error (t : Thrown) : EvaluationError :=
  EvaluationError.unplaced (crossing t.message ++ "\n    at <eval> (<input>)\n")

/-- What a report shows of it. -/
def relevant (t : Thrown) : String :=
  String.ofList (Details.relevant t.error.diagnostic.toList)

end Thrown

end DocExamples.Script
