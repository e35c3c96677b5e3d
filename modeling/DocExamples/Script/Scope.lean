import DocExamples.Script.Native

/-!
What surrounds a term: the names that can be seen there, and where their values stand.
-/

namespace DocExamples.Script

/-- What surrounds a term. -/
structure Scope where
  /-- The places of the variables around the term, the closest first. -/
  places : List (String × Nat) := []
  deriving Inhabited

/-- How a step ends. -/
inductive Outcome where
  /-- The next step follows. -/
  | done
  /-- The loop or the choice around is left. -/
  | leaves
  /-- The next round of the loop around follows. -/
  | skips
  /-- The function around gives a value. -/
  | gives (v : Value)

/-- What a value can be put into. -/
inductive Spot where
  | named (name : String)
  /-- The member of a value that stands in a place. -/
  | member (place : Nat) (name : String)
  /-- What keeps nothing. -/
  | nowhere

namespace Session

/-- The name of what a function is called on. -/
def selfName : String := "this"

/-- What stands under a name. -/
def lookup (scope : Scope) (name : String) : Act (Option Value) := do
  match scope.places.lookup name with
  | some place =>
    match ← atPlace place with
    | some v => return some v
    | none => throw (.unset name)
  | none => findVariable name

/-- What the function around a term is called on. -/
def selfOf (scope : Scope) : Act Value := do
  match scope.places.lookup selfName with
  | some place => return (← atPlace place).getD .undefined
  | none => return Standard.allVariables

/-- A scope with one more variable, which holds a value or nothing yet. -/
def withPlace (scope : Scope) (name : String) (v : Option Value) : Act Scope := do
  return ⟨(name, ← newPlace v) :: scope.places⟩

/-- A scope with more variables that hold the same. -/
def withPlaces (scope : Scope) (v : Option Value) (names : List String) : Act Scope :=
  names.eraseDups.foldlM (fun scope name => withPlace scope name v) scope

/-- Sets the variable with a name. -/
def assignName (scope : Scope) (name : String) (v : Value) : Act Unit := do
  match scope.places.lookup name with
  | some place => putAt place v
  | none => setVariable name v

/-- A new function with a source. The number behind its own is that of what its objects inherit
from. -/
def newFunction (scope : Scope) (source : String) : Act Value := do
  let id ← freshId
  let _ ← freshId
  return .function id source scope.places

/-- What surrounds the steps of a block: the variables that they declare, and their functions. -/
def openBlock (scope : Scope) (steps : List Statement) : Act Scope := do
  let functions := Reader.functionsOf steps
  let scope ← withPlaces scope none (Reader.blockNames steps)
  let scope ← withPlaces scope none (functions.map (·.1))
  functions.forM fun (name, source) => do assignName scope name (← newFunction scope source)
  return scope

/-- The key that a value is for members; a symbol is none. -/
def keyOf? (call : Caller) (v : Value) : Act (Option String) := do
  match v with
  | .symbol .. => return none
  | v => return some (String.ofList (← spelling call v))

/-- The member of a value under a key. -/
def memberAt (call : Caller) (v key : Value) : Act Value := do
  match ← keyOf? call key with
  | some name => member call v name
  | none => return .undefined

/-- What stands in a spot. -/
def readSpot (call : Caller) (scope : Scope) (spot : Spot) : Act Value := do
  match spot with
  | .named name =>
    match ← lookup scope name with
    | some v => return v
    | none => throw (.undefinedName name)
  | .member place name => member call ((← atPlace place).getD .undefined) name
  | .nowhere => return .undefined

/-- Puts a value into a spot, which is given up. -/
def writeSpot (scope : Scope) (spot : Spot) (v : Value) : Act Unit := do
  match spot with
  | .named name => assignName scope name v
  | .member place name =>
    let held := (← atPlace place).getD .undefined
    release place
    setMember held name v
  | .nowhere => return

/-- A new object with members as they are set. -/
def objectWith (ancestry : Ancestry) (members : List (String × Option Value)) : Act Value := do
  return .object (← freshId) ancestry (Members.listed members)

/-- The value of what was thrown, as a script can handle it. -/
def caught (t : Thrown) : Act Value := do
  match t with
  | .value => return (← get).thrown
  | t =>
    let (maker, words) := t.making
    return .error (← freshId) maker (some words) (t.members.map fun m => (m.1, some (.text m.2)))

/-! ## Loops -/

/-- How many rounds a loop has at most. -/
def mostRounds : Nat := 100000

/-- Repeats rounds until one ends otherwise. A round tells how it ended, or that there is none; the
first argument bounds their number. -/
def rounds {α : Type} (round : α → Act (Option (Outcome × α))) : Nat → α → Act Outcome
  | 0, _ => throw .interrupted
  | fuel + 1, a => do
    match ← round a with
    | none | some (.leaves, _) => return .done
    | some (.gives v, _) => return .gives v
    | some (_, a) => rounds round fuel a

/-- Takes a round for each value. -/
def visit (round : Value → Act Outcome) : List Value → Act Outcome
  | [] => return .done
  | v :: more => do
    match ← round v with
    | .leaves => return .done
    | .gives v => return .gives v
    | _ => visit round more

/-- A scope in which some variables have new places, with what they hold. -/
def renewed (scope : Scope) (names : List String) : Act Scope :=
  names.foldlM (fun scope name => do
    match scope.places.lookup name with
    | some place => withPlace scope name (← atPlace place)
    | none => return scope) scope

/-- The values that a loop visits: the names of the members, or the items. -/
def visited (names : Bool) (v : Value) : Act (List Value) := do
  if names then
    return (Native.listedMembers (← Native.present v)).map fun m => .text m.1
  else Native.itemsOf v

end Session

end DocExamples.Script
