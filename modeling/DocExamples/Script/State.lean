import DocExamples.Sandbox.Host
import DocExamples.Script.Change
import DocExamples.Script.Equality
import DocExamples.Script.Lookup
import DocExamples.Script.Routine

/-!
The state of a session, and the acts that read and change it.

The console and the sources of modules are with the host, and all exchange with it is JSON text.
What a session sets itself, its variables and its modules, are members of two objects. The variables
of functions are names for places, and the places hold values, so that a function goes on with the
variables around it after they were set anew.
-/

namespace DocExamples.Script

/-- The state of a session. -/
structure Session where
  sandbox : Sandbox
  modules : Holder := {}
  globals : Holder := {}
  /-- What stands in the places of the variables of functions; some are not set yet. -/
  places : Array (Option Value) := #[]
  /-- What objects inherit from, by number, other than what is there from the start. -/
  ancestors : List (Nat × Value) := []
  /-- The value that a script threw last. -/
  thrown : Value := .undefined
  /-- The next number for a value that is told apart from its copies. -/
  next : Nat := Standard.firstFree
  /-- Whether the variables of the sandbox have been set. -/
  installed : Bool := false

/-- An act of a session. An act that throws keeps what it did before. -/
abbrev Act (α : Type) : Type := ExceptT Thrown (StateM Session) α

/-- How a value is called: what it is called on, and with what. -/
abbrev Caller : Type := Value → Value → List Value → Act Value

namespace Session

/-- A number that no value has. -/
def freshId : Act Nat :=
  modifyGet fun s => (s.next, { s with next := s.next + 1 })

/-- Takes a result that may be thrown. -/
def take {α : Type} : Except Thrown α → Act α
  | .ok a => return a
  | .error e => throw e

/-- Refuses a value. -/
def refuse {α : Type} (m : Misuse) : Act α := throw (.misuse m)

/-- A new array. -/
def newArray (items : List Value) : Act Value := do return .array (← freshId) (items.map some)

/-- A new plain object. -/
def newObject (members : List (String × Value)) : Act Value := do
  return .object (← freshId) .common (Members.listed (members.map fun m => (m.1, some m.2)))

/-! ## The host -/

/-- Calls the host. -/
def callHost (c : HostCall) : Act String := do
  let outcome ← modifyGet fun s =>
    let (outcome, sandbox) := s.sandbox.call c
    (outcome, { s with sandbox := sandbox })
  match outcome with
  | .ok reply => return reply
  | .error _ => throw .host

/-! ## Places

The places of what is only held for a while stand behind all others, so that they can be given up
again. -/

/-- A new place. -/
def newPlace (v : Option Value) : Act Nat :=
  modifyGet fun s => (s.places.size, { s with places := s.places.push v })

/-- What stands in a place. -/
def atPlace (place : Nat) : Act (Option Value) := do return ((← get).places[place]?).join

/-- Gives the last place up. -/
def release (place : Nat) : Act Unit :=
  modify fun s => if s.places.size = place + 1 then { s with places := s.places.pop } else s

/-- Puts a value into a place. -/
def putAt (place : Nat) (v : Value) : Act Unit :=
  modify fun s => { s with places := s.places.setIfInBounds place (some v) }

/-! ## Variables -/

/-- What stands in place of what is there from the start. -/
def standing : Act Standing := do return (← get).globals.find?

/-- What stands in place of one name. -/
def replaced? (name : String) : Act (Option Value) := do return (← standing) name

/-- The object that holds all variables, as it is now. -/
def globalObject : Act Value := do
  let own := (← get).globals.own.map fun m =>
    (m.1, if m.2.same Standard.allVariables then none else some m.2)
  let listed := Standard.listedNames.map fun name => (name, Standard.startValue? name)
  return .object (Standard.allVariables.id?.getD 0) .common (Members.listed (listed ++ own))

/-- The variable with a name. -/
def findVariable (name : String) : Act (Option Value) := do
  match Standard.fixed.lookup name with
  | some v => return some v
  | none =>
    let globals := (← get).globals
    match (globals.find? name).or (Standard.startValue? name) with
    | some v => if v.same Standard.allVariables then return some (← globalObject) else return some v
    | none => return globals.reach? name

/-- Sets a variable. Those that are fixed keep what they hold. -/
def setVariable (name : String) (v : Value) : Act Unit := do
  if (Standard.fixed.lookup name).isNone then
    modify fun s => { s with globals := s.globals.keep name v }

/-! ## Members -/

/-- Notes what objects inherit from, under a number. -/
def noteAncestor (id : Nat) (v : Value) : Act Unit :=
  modify fun s => { s with ancestors := (id, v) :: s.ancestors }

/-- What the objects that a function of a script makes inherit from. -/
def ancestorOf (f : Value) : Act Value := do
  let id := Value.heirId (f.id?.getD 0)
  match (← get).ancestors.lookup id with
  | some v => return v
  | none =>
    let v := Value.object id .common [("constructor", some f)]
    noteAncestor id v
    return v

/-- A member of a value, which it has itself or inherits. The first argument bounds how many objects
may inherit from one another. -/
def inherited? (ancestors : List (Nat × Value)) : Nat → Value → String → Option Value
  | 0, v, name => v.member? name
  | fuel + 1, v, name =>
    match v.ownMember? name, v with
    | some found, _ => some found
    | none, .object _ (.other id) _ =>
      match ancestors.lookup id with
      | some ancestor =>
        if name = Holder.ancestorName then some ancestor
        else inherited? ancestors fuel ancestor name
      | none =>
        match Standard.makerOf? id with
        | some maker => inherited? ancestors fuel (Standard.ancestorOf maker) name
        | none => v.member? name
    | none, v => v.member? name

/-- The member of a value with a name, as it stands there. -/
def storedMember? (v : Value) (name : String) : Act (Option Value) := do
  match v, name with
  | .function _ source _, "prototype" =>
    if Value.canMake source then return some (← ancestorOf v) else return none
  | .function _ source _, "name" => return some (.text (Reader.nameOf source))
  | .function _ source _, "length" => return some (Value.count (Reader.parameterCount source))
  | v, name =>
    let ancestors := (← get).ancestors
    return inherited? ancestors (ancestors.length + 1) v name

/-- Puts an object in place of what it was before, wherever it stands. -/
def update (v : Value) : Act Unit := do
  match v.id? with
  | none => return
  | some id =>
    modify fun s => { s with
      modules := s.modules.replace id v
      globals := s.globals.replace id v
      places := s.places.map fun place => place.map fun old => Value.replace id v old
      ancestors := s.ancestors.map fun a => (a.1, Value.replace id v a.2) }
    if let some name := Standard.startName? id then
      if ((← get).globals.find? name).isNone then setVariable name v

/-- Sets the member of a value with a name. A value that takes no members stays as it is. -/
def setMember (v : Value) (name : String) (new : Value) : Act Unit := do
  match v with
  | .undefined => throw (.noSetting name "undefined")
  | .null => throw (.noSetting name "null")
  | .function id .. =>
    if name = "prototype" ∧ !new.isPrimitive then noteAncestor (Value.heirId id) new
  | v =>
    if v.same Standard.allVariables then setVariable name new
    else
      match v.withMember? name new with
      | some changed => update changed
      | none => return

/-- A value as it is after an act on it. -/
def changed (v : Value) (act : Value → Act Unit) : Act Value := do
  let place ← newPlace (some v)
  act v
  let now ← atPlace place
  release place
  return now.getD v

/-- Takes the member of a value with a name away. -/
def removeMember (v : Value) (name : String) : Act Unit := do
  if v.same Standard.allVariables then
    modify fun s => { s with globals := s.globals.remove name }
  else update (v.withoutMember name)

/-- The member of a value with a name. -/
def member (call : Caller) (v : Value) (name : String) : Act Value := do
  match v with
  | .undefined => throw (.noMember name "undefined")
  | .null => throw (.noMember name "null")
  | v =>
    if v.same Standard.allVariables then return (← findVariable name).getD .undefined
    else
      match ← storedMember? v name with
      | some (.computed f) => call f v []
      | found => return found.getD .undefined

/-- Calls a member of a value. -/
def callMember (call : Caller) (v : Value) (name : String) (args : List Value) : Act Value := do
  call (← member call v name) v args

end Session

end DocExamples.Script
