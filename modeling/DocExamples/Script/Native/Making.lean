import DocExamples.Script.Native.Moments
import DocExamples.Script.Native.Numbers
import DocExamples.Script.Native.Objects

/-!
What the functions of the start make when they are asked for an object.
-/

namespace DocExamples.Script.Native

open Session

/-- A new pattern. -/
def newPattern (source flags : String) : Act Value :=
  match PatternCheck.fault? source.toList flags.toList with
  | some f => throw (.unreadable (.pattern f.message))
  | none => do return .pattern (← freshId) source (Value.sortFlags flags)

/-- The pattern that arguments name: another pattern can stand for its source, and gives its flags
where none are named. -/
def patternOf (call : Caller) (arguments : List Value) : Act Value := do
  match arg arguments 0, arg arguments 1 with
  | .pattern _ source flags, .undefined => newPattern source flags
  | .pattern _ source _, flags => newPattern source (String.ofList (← spelling call flags))
  | source, flags => do
    let source ← optionalText call source
    newPattern source (← optionalText call flags)

/-- The array that arguments make: one number is a length. -/
def arrayOf : List Value → Act Value
  | [.number x] =>
    match x.toInt? with
    | some n =>
      if 0 ≤ n ∧ n < 2 ^ 32 then
        if (10 * greatestLength : Int) < n then throw .overflow
        else do return .array (← freshId) (List.replicate n.toNat none)
      else refuse .arrayLength
    | none => refuse .arrayLength
  | items => newArray items

/-- The position of the message among the arguments of a function that makes errors. -/
def messagePlace (name : String) : Nat := if name = "AggregateError" then 1 else 0

/-- The copy of an object that a function stands in front of, for one without functions of its own. -/
def standIn (target handler : Value) : Act Value := do
  if target.isPrimitive || handler.isPrimitive then throw .notObject else return target

/-- The function that a body and the names of its parameters make. -/
def functionOf (m : Machine) (arguments : List Value) : Act Value := do
  let texts ← arguments.mapM (spelling m.call)
  let parameters := Text.joinWith [','] texts.dropLast
  let body := texts.getLastD []
  m.run (String.ofList ("(function anonymous(".toList ++ parameters ++ "\n) \x7b\n".toList ++ body ++
    "\n\x7d)".toList))

/-- Makes an object. -/
def make (m : Machine) (name : String) (arguments : List Value) : Act Value := do
  let call := m.call
  let first := arg arguments 0
  match name with
  | "Object" => boxed first
  | "Array" => arrayOf arguments
  | "Function" => functionOf m arguments
  | "Proxy" => standIn first (arg arguments 1)
  | "Set" =>
    let items ← itemsOrNone first
    return .set (← freshId) (items.foldl Value.insertItem [])
  | "Map" =>
    let entries ← (← itemsOrNone first).mapM (entryOf call)
    return .map (← freshId) (entries.foldl Value.insertEntry [])
  | "Date" =>
    let time ← momentOf call arguments
    return .date (← freshId) time
  | "RegExp" => patternOf call arguments
  | "String" =>
    let s ← if arguments.isEmpty then pure [] else spelling call first
    return .boxed (← freshId) (textValue s)
  | "Number" =>
    let x ← if arguments.isEmpty then pure (.number .zero) else toNumber call first
    return .boxed (← freshId) x
  | "Boolean" => return .boxed (← freshId) (.bool first.isTrue)
  | name =>
    if Standard.errorNames.contains name then
      let message ← match arg arguments (messagePlace name) with
        | .undefined => pure none
        | v => do pure (some (String.ofList (← spelling call v)))
      return .error (← freshId) name message []
    else if Standard.constructors.contains name then
      return .object (← freshId) (.other (Standard.ancestorId name)) []
    else throw .notMaker

end DocExamples.Script.Native
