import DocExamples.Script.Holder
import DocExamples.Script.PatternCheck
import DocExamples.Script.Standard

/-!
What stands under a name from the start: as a variable, and as a member of a value.
-/

namespace DocExamples.Script

namespace Standard

/-- The object that plain objects inherit from. -/
def commonAncestor : Value := .object 0 .topmost []

/-- The object that holds all variables. -/
def allVariables : Value := .object 5 .common []

/-- The console, whose functions are one. -/
def console : Value :=
  .object 6 .common
    [("log", some (.native "log")), ("info", some (.native "log")), ("debug", some (.native "log"))]

/-- The first number that no value of the start has. -/
def firstFree : Nat := 200

/-- What the objects that a function makes inherit from. -/
def ancestorOf (maker : String) : Value :=
  let id := ancestorId maker
  match maker with
  | "Object" => commonAncestor
  | "Function" => .native bareFunction
  | "Array" => .array id []
  | "String" => .boxed id (.text "")
  | "Number" => .boxed id (.number .zero)
  | "Boolean" => .boxed id (.bool false)
  | maker =>
    if errorNames.contains maker && maker != "Error" then
      .object id (.other (ancestorId "Error")) []
    else .object id .common []

/-- The name of an object that stands under it from the start, by its number. -/
def startName? (id : Nat) : Option String := if id = 6 then some "console" else holderName? id

/-- The number of an object that only holds functions and numbers. -/
def holderId? (name : String) : Option Nat := (holders.findIdx? (· == name)).map (· + 1)

/-- The variables that cannot be set. -/
def fixed : List (String × Value) :=
  [("undefined", .undefined), ("NaN", .number .nan), ("Infinity", .number (.infinite false))]

/-- What stands under the name of a variable from the start. -/
def startValue? (name : String) : Option Value :=
  match fixed.lookup name with
  | some v => some v
  | none =>
    if name = "globalThis" then some allVariables
    else if name = "console" then some console
    else if functions.contains name || hostFunctions.contains name ||
        givenFunctions.any (·.1 == name) then some (.native name)
    else (holderId? name).map fun id => .object id .common []

/-- A decimal as a number. -/
def decimal (digits : Nat) (exponent : Int) : Value := .number (.ofDecimal false digits exponent)

/-- The numbers that functions and holders of the start hold. -/
def numbers : List (String × Value) := [
  ("Number.MAX_VALUE", .number (.finite false (2 ^ 53 - 1) Number.Double.greatestExponent)),
  ("Number.MIN_VALUE", .number (.finite false 1 Number.Double.leastExponent)),
  ("Number.NaN", .number .nan),
  ("Number.NEGATIVE_INFINITY", .number (.infinite true)),
  ("Number.POSITIVE_INFINITY", .number (.infinite false)),
  ("Number.EPSILON", .number (.finite false (2 ^ 52) (-104))),
  ("Number.MAX_SAFE_INTEGER", .number (.ofInt (2 ^ 53 - 1))),
  ("Number.MIN_SAFE_INTEGER", .number (.ofInt (1 - 2 ^ 53))),
  ("Math.E", decimal 2718281828459045 (-15)),
  ("Math.LN10", decimal 2302585092994046 (-15)),
  ("Math.LN2", decimal 6931471805599453 (-16)),
  ("Math.LOG2E", decimal 14426950408889634 (-16)),
  ("Math.LOG10E", decimal 4342944819032518 (-16)),
  ("Math.PI", decimal 3141592653589793 (-15)),
  ("Math.SQRT1_2", decimal 7071067811865476 (-16)),
  ("Math.SQRT2", decimal 14142135623730951 (-16))]

/-- The names of symbols that every session knows. -/
def symbolNames : List String := [
  "toPrimitive", "iterator", "match", "matchAll", "replace", "search", "split", "toStringTag",
  "isConcatSpreadable", "hasInstance", "species", "unscopables", "asyncIterator"]

/-- A symbol that every session knows. -/
def symbol? (name : String) : Option Value :=
  (symbolNames.findIdx? (· == name)).map fun n => .symbol (10 + n) ("Symbol." ++ name)

/-- A member of a function or a holder of the start. -/
def memberOf? (owner name : String) : Option Value :=
  let path := owner ++ "." ++ name
  if owner = "Number" ∧ (name = "parseInt" ∨ name = "parseFloat") then some (.native name)
  else if has members owner name then some (.native path)
  else if name = "prototype" ∧ makers.contains owner ∧ owner ≠ "Proxy" then some (ancestorOf owner)
  else if owner = "Symbol" then symbol? name
  else numbers.lookup path

/-- A member of an object that others inherit from. -/
def inheritedMember? (maker name : String) : Option Value :=
  if name = "constructor" then some (.native maker)
  else if has methods maker name then some (.native (maker ++ ".prototype." ++ name))
  else if errorNames.contains maker && name = "name" then some (.text maker)
  else if errorNames.contains maker && name = "message" then some (.text "")
  else none

end Standard

namespace Value

/-- The number of items. -/
def count (n : Nat) : Value := number (.ofInt n)

/-- The functions of the start that serve a value, the closest first. -/
def owners : Value → List String
  | text _ => ["String", "Object"]
  | number _ => ["Number", "Object"]
  | bool _ => ["Boolean", "Object"]
  | bigint _ => ["BigInt", "Object"]
  | symbol .. => ["Symbol", "Object"]
  | object _ .topmost _ => ["Object"]
  | v => v.lineage

/-- A member that a value has itself. -/
def ownMember? (v : Value) (name : String) : Option Value :=
  match v with
  | text s | boxed _ (text s) =>
    if name = "length" then some (count (PatternCheck.units s.toList).length)
    else (Members.position? name).bind fun i => s.toList[i]?.map fun c => text (String.singleton c)
  | array _ items =>
    if name = "length" then some (count items.length)
    else (Members.position? name).bind fun i => (items[i]?).join
  | object id _ members =>
    match members.lookup name with
    | some own => some (own.getD v)
    | none =>
      match Standard.holderName? id, Standard.makerOf? id with
      | some owner, _ => Standard.memberOf? owner name
      | none, some maker => Standard.inheritedMember? maker name
      | none, none => none
  | native path =>
    if name = "name" then some (text (Standard.lastName path)) else Standard.memberOf? path name
  | set _ items => if name = "size" then some (count items.length) else none
  | map _ entries => if name = "size" then some (count entries.length) else none
  | error _ _ message members =>
    ((members.lookup name).map fun own => own.getD v).or
      (if name = "message" then message.map text else none)
  | symbol _ description => if name = "description" then some (text description) else none
  | pattern _ source flags =>
    if name = "source" then some (text source)
    else if name = "flags" then some (text flags)
    else none
  | _ => none

/-- A member that a value shares with others of its kind. -/
def sharedMember? (owners : List String) (name : String) : Option Value :=
  match owners with
  | [] => none
  | owner :: _ =>
    if name = "constructor" then some (native owner)
    else if name = Holder.ancestorName then some (Standard.ancestorOf owner)
    else
      (owners.find? fun o => Standard.has Standard.methods o name).map fun o =>
        native (o ++ ".prototype." ++ name)

/-- The member of a value with a name. -/
def member? (v : Value) (name : String) : Option Value :=
  match v, name with
  | error _ maker _ _, name =>
    ((v.ownMember? name).or (Standard.inheritedMember? maker name)).or (sharedMember? v.owners name)
  | v, name => (v.ownMember? name).or (sharedMember? v.owners name)

end Value

namespace Holder

/-- What the object holds under a name, itself or by what it inherits from. -/
def reach? (h : Holder) (name : String) : Option Value :=
  match h.find? name with
  | some v => some v
  | none =>
    if name = ancestorName then h.special? else h.ancestor.bind fun ancestor => ancestor.member? name

end Holder

end DocExamples.Script
