import DocExamples.Script.Written

/-!
Deep equality of script values.

A value equals itself. Otherwise only objects of one kind can be equal: moments when they are the
same moment, patterns when they are written alike, sets when they have as many members and the
second has each member of the first, maps and other objects when they have as many keys and equal
values under each key of the first. Members of sets and keys of maps are looked up and not compared
deeply.

The kinds are told by what stands under their names, and a session can put something else there: a
comparison that asks for it fails, or takes no value to be of that kind.

Two objects that hold themselves under one name are compared without end. A comparison has only so
much depth to spend, and what is spent on values without such a pair is less than the sum of their
depths.
-/

namespace DocExamples.Script

/-- What stands in place of what is there from the start, by name. -/
abbrev Standing : Type := String → Option Value

namespace Value

/-- The functions of the start that no object is an instance of. -/
def hasInstances (name : String) : Bool :=
  (Standard.constructors.contains name && name != "Proxy") || name == "Symbol" || name == "BigInt"

/-- Holds of the source of a function that can make objects. -/
def canMake (source : String) : Bool :=
  let s := source.toList
  let behind := s.drop 8
  "class".toList.isPrefixOf s ||
    ("function".toList.isPrefixOf s && !behind.head?.any Token.isNamePart &&
      (behind.dropWhile Token.isBlank).head? != some '*')

/-- The number of the object that what a function of a script makes inherits from, by the number of
the function. -/
def heirId (f : Nat) : Nat := f + 1

/-- Holds of an object that a function made. -/
def isInstance (v f : Value) : Except Thrown Bool :=
  match f with
  | native name =>
    if hasInstances name then .ok (v.lineage.contains name || v.maker? == some name)
    else .error .noInstances
  | function id source _ =>
    if canMake source then
      match v with
      | object _ (.other ancestor) _ => .ok (ancestor == heirId id)
      | _ => .ok false
    else .error .noInstances
  | _ => .error .notClass

/-- Holds of a value of the kind that a name stands for. -/
def isA (standing : Standing) (v : Value) (name : String) : Except Thrown Bool :=
  match standing name with
  | none => .ok (v.lineage.contains name || v.maker? == some name)
  | some f => v.isInstance f

/-- Why a function of a kind of objects fails on a value that has it and is not of that kind: the
value inherits it, or something else stands under the name of the kind. -/
def inheritedFault (kind : String) (m : Misuse) (v : Value) : Thrown :=
  if v.maker? = some kind then .misuse m else .notFunction

/-- Requires that the function for lists stands under its name. -/
def needsLists (standing : Standing) : Except Thrown Unit :=
  match standing "Array" with
  | none | some (native "Array") => .ok ()
  | some undefined => .error (.noMember "from" "undefined")
  | some null => .error (.noMember "from" "null")
  | some _ => .error .notFunction

/-- Requires that the function for texts stands under its name. -/
def needsTexts (standing : Standing) : Except Thrown Unit :=
  match standing "String" with
  | none => .ok ()
  | some f => if f.isFunction then .ok () else .error .notFunction

/-- Whether all elements pass a test; elements after the first that fails are not tested. -/
def every {α : Type} (test : α → Except Thrown Bool) : List α → Except Thrown Bool
  | [] => .ok true
  | x :: more =>
    match test x with
    | .ok true => every test more
    | verdict => verdict

/-- The items of an array with their positions, without the positions that have none. -/
def present : Nat → List (Option Value) → List (Nat × Value)
  | _, [] => []
  | n, none :: more => present (n + 1) more
  | n, some v :: more => (n, v) :: present (n + 1) more

/-- Compares two values that may both be missing from where they were looked up. -/
def equalFound (equal : Value → Value → Except Thrown Bool) (v : Value) (found : Option Value) :
    Except Thrown Bool :=
  match found with
  | none => .ok false
  | some w => equal v w

/-- Compares two moments. -/
def equalDates : Value → Value → Except Thrown Bool
  | date _ s, date _ t => .ok (s.isSome && s == t)
  | a, _ => .error (inheritedFault "Date" (.notA "Date object") a)

/-- Compares two patterns by their texts. -/
def equalPatterns (standing : Standing) (a b : Value) : Except Thrown Bool := do
  needsTexts standing
  if a.maker? = some "RegExp" then throw (.misuse (.expected "RegExp"))
  return (← a.toText) == (← b.toText)

/-- Compares two sets by their members. -/
def equalSets (standing : Standing) : Value → Value → Except Thrown Bool
  | set _ xs, set _ ys =>
    if xs.length ≠ ys.length then .ok false
    else do
      needsLists standing
      return xs.all fun x => ys.any (sameKey x)
  | a, _ => .error (inheritedFault "Set" (.expected "Set") a)

/-- Compares two maps by their keys and what stands under them. -/
def equalMaps (standing : Standing) (equal : Value → Value → Except Thrown Bool) :
    Value → Value → Except Thrown Bool
  | map _ xs, map _ ys =>
    if xs.length ≠ ys.length then .ok false
    else do
      needsLists standing
      every (fun x => equalFound equal x.2 (lookupKey x.1 ys)) xs
  | a, _ => .error (inheritedFault "Map" (.expected "Map") a)

/-- Compares two objects by their members. -/
def equalMembers (equal : Value → Value → Except Thrown Bool) (a b : Value) :
    Except Thrown Bool :=
  match a, b with
  | array _ xs, array _ ys =>
    if (present 0 xs).length ≠ (present 0 ys).length then .ok false
    else every (fun x => equalFound equal x.2 ((present 0 ys).lookup x.1)) (present 0 xs)
  | object _ _ xs, object _ _ ys | error _ _ _ xs, error _ _ _ ys =>
    if xs.length ≠ ys.length then .ok false
    else every
      (fun x => equalFound equal (x.2.getD a) ((ys.lookup x.1).map fun own => own.getD b)) xs
  | boxed _ (text s), boxed _ (text t) => .ok (s == t)
  | _, _ => .ok true

/-- Compares two objects of one kind by what they hold. -/
def equalInside (standing : Standing) (equal : Value → Value → Except Thrown Bool) (a b : Value) :
    Except Thrown Bool := do
  if ← isA standing a "Date" then equalDates a b
  else if ← isA standing a "RegExp" then equalPatterns standing a b
  else if ← isA standing a "Set" then equalSets standing a b
  else if ← isA standing a "Map" then equalMaps standing equal a b
  else equalMembers equal a b

/-- Compares two values, with a bound on the depth. -/
def equalWithin (standing : Standing) : Nat → Value → Value → Except Thrown Bool
  | 0, _, _ => .error .overflow
  | fuel + 1, a, b =>
    if same a b then .ok true
    else if a.kind?.isNone || a.kind? ≠ b.kind? then .ok false
    else equalInside standing (equalWithin standing fuel) a b

/-- Compares two values where things stand in a way. -/
def equalWhere (standing : Standing) (a b : Value) : Except Thrown Bool :=
  equalWithin standing (a.depth + b.depth + 1) a b

end Value

end DocExamples.Script
