import DocExamples.Number.Double

/-!
Values of a running script.

A value is a finite tree. What a script can tell apart although it looks the same (two arrays with
the same items, two symbols with the same description) carries a number, and two occurrences with
one number are one and the same. An object may hold itself under some of its names; no other cycle
can arise.
-/

namespace DocExamples.Script

/-- What a plain object inherits from. -/
inductive Ancestry where
  /-- The object that all plain objects inherit from. -/
  | common
  /-- Nothing. -/
  | nothing
  /-- Nothing, for it is the object that plain objects inherit from. -/
  | topmost
  /-- Another object, by its number. -/
  | other (id : Nat)
  deriving DecidableEq, Repr, Inhabited

/-- A value of a running script. -/
inductive Value where
  | undefined
  | null
  | bool (b : Bool)
  | number (x : Number.Double)
  | bigint (n : Int)
  | text (s : String)
  | symbol (id : Nat) (description : String)
  /-- A function as a script writes it, with the places of the variables around it. -/
  | function (id : Nat) (source : String) (scope : List (String × Nat))
  /-- A function that is there from the start, by its name. -/
  | native (name : String)
  /-- Items by position; there may be positions without an item. -/
  | array (id : Nat) (items : List (Option Value))
  /-- Members with different names, in the order in which they are listed. A member without a
  value of its own holds the object itself. -/
  | object (id : Nat) (ancestry : Ancestry) (members : List (String × Option Value))
  /-- A moment in milliseconds; `none` for one that no calendar has. -/
  | date (id : Nat) (time : Option Int)
  | pattern (id : Nat) (source flags : String)
  /-- Members in order, no two of them the same. -/
  | set (id : Nat) (items : List Value)
  /-- Entries in order, no two of them with the same key. -/
  | map (id : Nat) (entries : List (Value × Value))
  /-- An error by the function that makes such errors, with its message if it was given one. The
  message is not listed among the members; those that it was given beside are. -/
  | error (id : Nat) (maker : String) (message : Option String)
    (members : List (String × Option Value))
  /-- An object around a value that is none. -/
  | boxed (id : Nat) (inner : Value)
  /-- In the place of a member: what a function gives when the member is read. -/
  | computed (f : Value)
  deriving Inhabited

namespace Value

/-- The number of a value that is told apart from its copies. -/
def id? : Value → Option Nat
  | symbol id _ | function id .. | array id _ | object id _ _ | date id _ | pattern id _ _
  | set id _ | map id _ | error id .. | boxed id _ => some id
  | _ => none

/-- Holds of what is not an object. -/
def isPrimitive : Value → Bool
  | undefined | null | bool _ | number _ | bigint _ | text _ | symbol .. => true
  | _ => false

/-- What the members of a kind of objects have in common. -/
inductive Kind where
  | array
  | plain
  | bare
  | heir (id : Nat)
  | date
  | pattern
  | set
  | map
  | error (maker : String)
  | boxedText
  | boxedNumber
  | boxedOther (typeName : String)
  deriving DecidableEq, Repr

/-- The name of the type of a value. -/
def typeName : Value → String
  | undefined => "undefined"
  | bool _ => "boolean"
  | number _ => "number"
  | bigint _ => "bigint"
  | text _ => "string"
  | symbol .. => "symbol"
  | function .. | native _ => "function"
  | _ => "object"

/-- Holds of what can be called. -/
def isFunction : Value → Bool
  | function .. | native _ => true
  | _ => false

/-- The kind of an object; `none` for values that are no objects, and for functions. -/
def kind? : Value → Option Kind
  | array .. => some .array
  | object _ .common _ => some .plain
  | object _ .nothing _ | object _ .topmost _ => some .bare
  | object _ (.other id) _ => some (.heir id)
  | date .. => some .date
  | pattern .. => some .pattern
  | set .. => some .set
  | map .. => some .map
  | error _ maker _ _ => some (.error maker)
  | boxed _ (text _) => some .boxedText
  | boxed _ (number _) => some .boxedNumber
  | boxed _ inner => some (.boxedOther inner.typeName)
  | _ => none

/-- The source of a pattern, so that it can stand between two slashes. The flag holds inside a
character class, where a slash may stand as it is. -/
def slashed : Bool → List Char → List Char
  | _, [] => []
  | inClass, '\\' :: c :: rest => '\\' :: c :: slashed inClass rest
  | false, '[' :: ']' :: rest => '[' :: ']' :: slashed true rest
  | inClass, c :: rest =>
    if c = '\n' then '\\' :: 'n' :: slashed inClass rest
    else if c = '\r' then '\\' :: 'r' :: slashed inClass rest
    else if c = '/' && !inClass then '\\' :: '/' :: slashed inClass rest
    else c :: slashed (if c = '[' then true else if c = ']' then false else inClass) rest

/-- The flags of a pattern in the order in which they are shown. -/
def sortFlags (flags : String) : String :=
  String.ofList (flags.toList.mergeSort fun a b => a ≤ b)

/-- The text of a pattern. -/
def patternText (source flags : String) : List Char :=
  '/' :: ((if source = "" then "(?:)".toList else slashed false source.toList) ++
    '/' :: flags.toList)

/-- Holds of one and the same value: numbers by their parts, so that an undefined number is itself
and the two zeros differ, and what carries a number by that number. -/
def same (a b : Value) : Bool :=
  match a.id?, b.id? with
  | some i, some j => i == j
  | none, none =>
    match a, b with
    | undefined, undefined => true
    | null, null => true
    | bool x, bool y => x == y
    | number x, number y => x == y
    | bigint x, bigint y => x == y
    | text x, text y => x == y
    | native x, native y => x == y
    | _, _ => false
  | _, _ => false

/-- A value as sets and maps look it up: the two zeros are one. -/
def asKey : Value → Value
  | number x => number (if x.isZero then .zero else x)
  | v => v

/-- Holds of values that are one as members of a set and as keys of a map. -/
def sameKey (a b : Value) : Bool := same a.asKey b.asKey

/-- The value under a key. -/
def lookupKey (key : Value) : List (Value × Value) → Option Value
  | [] => none
  | (k, v) :: more => if sameKey k key then some v else lookupKey key more

/-- Adds a member to a set. -/
def insertItem (items : List Value) (v : Value) : List Value :=
  if items.any (sameKey v) then items else items ++ [v.asKey]

/-- Sets the value of a key; a known key keeps its place. -/
def insertEntry (entries : List (Value × Value)) (entry : Value × Value) : List (Value × Value) :=
  if entries.any fun old => sameKey old.1 entry.1 then
    entries.map fun old => if sameKey old.1 entry.1 then (old.1, entry.2) else old
  else entries ++ [(entry.1.asKey, entry.2)]

mutual

/-- How deep a value nests where comparisons look into it. -/
def depth : Value → Nat
  | array _ items => depthOfItems items + 1
  | object _ _ members => depthOfMembers members + 1
  | map _ entries => depthOfEntries entries + 1
  | error _ _ _ members => depthOfMembers members + 1
  | _ => 0

/-- The greatest depth of the items of an array. -/
def depthOfItems : List (Option Value) → Nat
  | [] => 0
  | none :: more => depthOfItems more
  | some v :: more => max v.depth (depthOfItems more)

/-- The greatest depth of the members of an object. -/
def depthOfMembers : List (String × Option Value) → Nat
  | [] => 0
  | (_, none) :: more => depthOfMembers more
  | (_, some v) :: more => max v.depth (depthOfMembers more)

/-- The greatest depth of the values of a map. -/
def depthOfEntries : List (Value × Value) → Nat
  | [] => 0
  | (_, v) :: more => max v.depth (depthOfEntries more)

end

/-- The functions whose objects a value is one of, the closest first. -/
def lineage : Value → List String
  | function .. | native _ => ["Function", "Object"]
  | array .. => ["Array", "Object"]
  | object _ .common _ | object _ (.other _) _ => ["Object"]
  | date .. => ["Date", "Object"]
  | pattern .. => ["RegExp", "Object"]
  | set .. => ["Set", "Object"]
  | map .. => ["Map", "Object"]
  | error _ "Error" _ _ => ["Error", "Object"]
  | error _ maker _ _ => [maker, "Error", "Object"]
  | boxed _ (text _) => ["String", "Object"]
  | boxed _ (number _) => ["Number", "Object"]
  | boxed _ (bool _) => ["Boolean", "Object"]
  | boxed .. => ["Object"]
  | _ => []

end Value

end DocExamples.Script
