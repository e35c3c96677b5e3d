import DocExamples.Script.Provided

/-!
What functions of the start do with their arguments: positions in a list, and the items that a value
gives one after the other.
-/

namespace DocExamples.Script.Native

open Session

/-- The argument at a position; those that are missing are undefined. -/
def arg (arguments : List Value) (n : Nat) : Value := arguments.getD n .undefined

/-- A text as a value. -/
def textValue (s : List Char) : Value := .text (String.ofList s)

/-- A number that may be missing, as a value. -/
def numberOrNan (n : Option Int) : Value := .number ((n.map Number.Double.ofInt).getD .nan)

/-- A position that may be missing, as a value. -/
def positionOrNone (n : Option Nat) : Value :=
  .number (.ofInt ((n.map fun n => (n : Int)).getD (-1)))

/-- A whole number in place of a number; one beyond all positions for the infinite ones. -/
def whole : Number.Double → Int
  | .infinite negative => if negative then -2 ^ 62 else 2 ^ 62
  | x => x.truncate

/-- The whole number that an argument names, or another one in place of a missing argument. -/
def wholeArg (call : Caller) (arguments : List Value) (n : Nat) (default : Int) : Act Int := do
  match arg arguments n with
  | .undefined => return default
  | v => return whole (← numberOf call v)

/-- A position in a list of a length, counted from the end if it is negative. -/
def position (n : Int) (length : Nat) : Nat :=
  if n < 0 then (length + n).toNat else min n.toNat length

/-- The part of a list between the positions that two arguments name. -/
def part {α : Type} (call : Caller) (items : List α) (arguments : List Value) : Act (List α) := do
  let first ← wholeArg call arguments 0 0
  let last ← wholeArg call arguments 1 items.length
  return (items.take (position last items.length)).drop (position first items.length)

/-- Requires a function. -/
def needsFunction (f : Value) : Act Unit := if f.isFunction then return else throw .notFunction

/-- The items that a value gives one after the other. -/
def itemsOf : Value → Act (List Value)
  | .undefined => throw (.noMember "Symbol.iterator" "undefined")
  | .null => throw (.noMember "Symbol.iterator" "null")
  | .array _ items => return items.map fun v => v.getD .undefined
  | .set _ items => return items
  | .map _ entries => entries.mapM fun e => newArray [e.1, e.2]
  | .text s | .boxed _ (.text s) => return s.toList.map fun c => textValue [c]
  | _ => refuse .notIterable

/-- The items that a value gives, none for a missing one. -/
def itemsOrNone : Value → Act (List Value)
  | .undefined | .null => return []
  | v => itemsOf v

/-- The greatest length of a list that a value tells. -/
def greatestLength : Nat := 100000

/-- The items that a value has by position. -/
def listOf (call : Caller) (v : Value) : Act (List Value) := do
  match v with
  | .array _ items => return items.map fun v => v.getD .undefined
  | .text s | .boxed _ (.text s) => return s.toList.map fun c => textValue [c]
  | v =>
    let length := whole (← numberOf call (← member call v "length"))
    if greatestLength < length.toNat then throw .overflow
    (List.range length.toNat).mapM fun n => member call v (toString n)

/-- The key and the value of an entry. -/
def entryOf (call : Caller) (v : Value) : Act (Value × Value) := do
  if v.isPrimitive then throw .notObject
  return (← member call v "0", ← member call v "1")

/-- The text of an argument, with nothing for what is undefined. -/
def optionalText (call : Caller) (v : Value) : Act String := do
  match v with
  | .undefined => return ""
  | v => return String.ofList (← spelling call v)

end DocExamples.Script.Native
