import DocExamples.Script.Native.Argument

/-!
The functions of objects, and those of functions.
-/

namespace DocExamples.Script.Native

open Session

/-! ## Members -/

/-- The names of the members that an object lists, with what stands there. -/
def listedMembers (v : Value) : List (String × Value) :=
  match v with
  | .array _ items => (Value.present 0 items).map fun (n, v) => (toString n, v)
  | .object _ _ members | .error _ _ _ members => members.map fun m => (m.1, m.2.getD v)
  | .text s | .boxed _ (.text s) => s.toList.mapIdx fun n c => (toString n, textValue [c])
  | _ => []

/-- A value that stands under all its names: the object of all variables is made up first. -/
def present (v : Value) : Act Value := do
  if v.same Standard.allVariables then globalObject else return v

/-- The names and values of the members that an object lists. -/
def membersOf (call : Caller) (v : Value) : Act (List (String × Value)) := do
  let v ← present v
  (listedMembers v).mapM fun (name, stored) => do
    match stored with
    | .computed f => return (name, ← call f v [])
    | stored => return (name, stored)

/-- Requires a value that becomes an object. -/
def needsMembers : Value → Act Unit
  | .undefined | .null => refuse .noObject
  | _ => return

/-- All names of the members that a value has itself. -/
def ownNames (v : Value) : List String :=
  (listedMembers v).map (·.1) ++
    (match v with
    | .array .. | .text _ | .boxed _ (.text _) => ["length"]
    | .function .. => ["length", "name", "prototype"]
    | .error _ _ (some _) _ => ["message"]
    | _ => [])

/-- Holds of a value that has a member itself. -/
def hasOwn (v : Value) (name : String) : Act Bool := do
  let v ← present v
  return (ownNames v).contains name || (v.ownMember? name).isSome

/-- A value as an object. -/
def boxed (v : Value) : Act Value := do
  match v with
  | .undefined | .null => newObject []
  | v => if v.isPrimitive then return .boxed (← freshId) v else return v

/-! ## Ancestors -/

/-- What an object inherits from when a value is to be that. -/
def ancestryOf (v : Value) : Act Ancestry := do
  match v with
  | .null => return .nothing
  | .object _ .topmost _ => return .common
  | v =>
    match v.id? with
    | some id =>
      noteAncestor id v
      return .other id
    | none => return .common

/-- What a value inherits from. -/
def ancestorValue (v : Value) : Act Value := do
  match v with
  | .object _ .nothing _ | .object _ .topmost _ => return .null
  | .native path =>
    return if path = Standard.bareFunction then Standard.commonAncestor
      else Standard.ancestorOf "Function"
  | .function .. => return Standard.ancestorOf "Function"
  | v =>
    match v.id?, v.lineage with
    | some id, _ :: next :: _ =>
      if (Standard.makerOf? id).isSome then return Standard.ancestorOf next
      else return (← storedMember? v Holder.ancestorName).getD .null
    | _, _ => return (← storedMember? v Holder.ancestorName).getD .null

/-- An object with another ancestor. -/
def withAncestor (v ancestor : Value) : Act Value := do
  match v with
  | .object id _ members =>
    let changed := Value.object id (← ancestryOf ancestor) members
    update changed
    return changed
  | v => return v

/-- Holds of an object that inherits from another. -/
def hasAncestor (v ancestor : Value) : Act Bool := do
  let ancestors := (← get).ancestors
  match ancestor.id? with
  | some id => return !v.isPrimitive && inherits ancestors (ancestors.length + 1) v id
  | none => return false

/-! ## Descriptions of members -/

/-- The description of a member. -/
def description (v : Value) (name : String) : Act Value := do
  let v ← present v
  match v.ownMember? name with
  | some (.computed f) =>
    newObject [("get", f), ("set", .undefined), ("enumerable", .bool true),
      ("configurable", .bool true)]
  | some found =>
    newObject [("value", found), ("writable", .bool true), ("enumerable", .bool true),
      ("configurable", .bool true)]
  | none => return .undefined

/-- Gives a value the member that a description tells. -/
def describe (call : Caller) (v : Value) (name : String) (described : Value) : Act Unit := do
  if described.isPrimitive then throw .notObject
  match ← storedMember? described "get" with
  | some f => setMember v name (.computed f)
  | none => setMember v name (← member call described "value")

/-! ## Calls -/

/-- Calls a function that lists members. -/
def listing? (call : Caller) (path : String) (v : Value) : Option (Act Value) :=
  match path with
  | "Object.keys" => some do
    needsMembers v
    newArray ((listedMembers (← present v)).map fun m => .text m.1)
  | "Object.getOwnPropertyNames" | "Reflect.ownKeys" => some do
    needsMembers v
    newArray ((ownNames (← present v)).map .text)
  | "Object.getOwnPropertySymbols" => some (newArray [])
  | "Object.values" => some do
    needsMembers v
    newArray ((← membersOf call v).map (·.2))
  | "Object.entries" => some do
    needsMembers v
    newArray (← (← membersOf call v).mapM fun m => newArray [.text m.1, m.2])
  | _ => none

/-- Calls a function that makes or changes objects. -/
def shaping? (call : Caller) (path : String) (arguments : List Value) : Option (Act Value) :=
  let v := arg arguments 0
  let name : Act String := do return String.ofList (← spelling call (arg arguments 1))
  match path with
  | "Object.assign" => some do
    needsMembers v
    changed v fun v => (arguments.drop 1).forM fun source => do
      (← membersOf call source).forM fun m => setMember v m.1 m.2
  | "Object.fromEntries" => some do
    let entries ← (← itemsOf v).mapM (entryOf call)
    newObject (← entries.mapM fun e => do return (String.ofList (← spelling call e.1), e.2))
  | "Object.create" => some do
    if v.isPrimitive then
      match v with
      | .null => return .object (← freshId) .nothing []
      | _ => refuse .noAncestor
    else
      let made := Value.object (← freshId) (← ancestryOf v) []
      changed made fun made => do
        (← membersOf call (arg arguments 1)).forM fun m => describe call made m.1 m.2
  | "Object.defineProperty" | "Reflect.defineProperty" => some do
    if v.isPrimitive then throw .notObject
    let name ← name
    changed v fun v => describe call v name (arg arguments 2)
  | "Object.defineProperties" => some do
    if v.isPrimitive then throw .notObject
    changed v fun v => do
      (← membersOf call (arg arguments 1)).forM fun m => describe call v m.1 m.2
  | "Object.setPrototypeOf" => some (withAncestor v (arg arguments 1))
  | "Object.freeze" | "Object.seal" | "Object.preventExtensions" => some (return v)
  | "Reflect.set" => some do
    setMember v (← name) (arg arguments 2)
    return .bool true
  | "Reflect.deleteProperty" => some do
    removeMember v (← name)
    return .bool true
  | _ => none

/-- Calls a function for objects. -/
def objects? (m : Machine) (path : String) (arguments : List Value) : Option (Act Value) :=
  let call := m.call
  let v := arg arguments 0
  let name : Act String := do return String.ofList (← spelling call (arg arguments 1))
  match path with
  | "Object.is" => some (return .bool (v.same (arg arguments 1)))
  | "Object.getPrototypeOf" | "Reflect.getPrototypeOf" => some do
    match v with
    | .undefined | .null => throw .notObject
    | v => ancestorValue v
  | "Object.isExtensible" | "Reflect.isExtensible" => some (return .bool !v.isPrimitive)
  | "Object.isFrozen" | "Object.isSealed" => some (return .bool v.isPrimitive)
  | "Object.getOwnPropertyDescriptor" | "Reflect.getOwnPropertyDescriptor" => some do
    needsMembers v
    description v (← name)
  | "Reflect.get" => some do member call v (← name)
  | "Reflect.has" => some do
    let name ← name
    return .bool (← storedMember? (← present v) name).isSome
  | "Reflect.apply" => some do call v (arg arguments 1) (← listOf call (arg arguments 2))
  | "Reflect.construct" => some do m.create v (← listOf call (arg arguments 1))
  | path => (listing? call path v).or (shaping? call path arguments)

/-- Calls a function that all objects share. -/
def sharedByObjects? (call : Caller) (name : String) (self : Value) (arguments : List Value) :
    Option (Act Value) :=
  match name with
  | "toString" => some (return .text self.kindText)
  | "toLocaleString" => some (callMember call self "toString" [])
  | "valueOf" => some do
    needsMembers self
    boxed self
  | "hasOwnProperty" | "propertyIsEnumerable" => some do
    let key := String.ofList (← spelling call (arg arguments 0))
    needsMembers self
    return .bool (← hasOwn self key)
  | "isPrototypeOf" => some do return .bool (← hasAncestor (arg arguments 0) self)
  | "__defineGetter__" => some do
    needsMembers self
    needsFunction (arg arguments 1)
    let key := String.ofList (← spelling call (arg arguments 0))
    setMember self key (.computed (arg arguments 1))
    return .undefined
  | "__defineSetter__" => some do
    needsMembers self
    needsFunction (arg arguments 1)
    return .undefined
  | _ => none

/-- Calls a function that functions share. -/
def sharedByFunctions? (call : Caller) (name : String) (self : Value) (arguments : List Value) :
    Option (Act Value) :=
  match name with
  | "call" => some (call self (arg arguments 0) (arguments.drop 1))
  | "apply" => some do
    match arg arguments 1 with
    | .undefined | .null => call self (arg arguments 0) []
    | list =>
      if list.isPrimitive then refuse .noList
      call self (arg arguments 0) (← listOf call list)
  | "bind" => some (return self)
  | "toString" => some do
    if self.isFunction then return textValue (← textOf call self) else throw .notFunction
  | _ => none

end DocExamples.Script.Native
