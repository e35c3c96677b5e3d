import DocExamples.Script.Scope

/-!
The evaluation of terms.

A term is evaluated by recursion on it. Only calls can go on without end, and how they are made is
given.

A value that is to be changed, or that a function is called on, stands in a place of its own while
other terms are evaluated, so that it is not lost how they change it.
-/

namespace DocExamples.Script.Session

open Native (listedMembers)

/-- A value as it is after an act, and what the act gives. -/
def holding {α : Type} (v : Value) (act : Act α) : Act (Value × α) := do
  if v.id?.isNone then return (v, ← act)
  else
    let place ← newPlace (some v)
    let a ← act
    let now ← atPlace place
    release place
    return (now.getD v, a)

/-- A number counted up or down. -/
def counted (up : Bool) (v : Value) : Act Value := do
  match v with
  | .bigint n => return .bigint (if up then n + 1 else n - 1)
  | v => return .number ((← take v.toNumber).add (.ofInt (if up then 1 else -1)))

/-- Holds of a value that the operators for choices pass over. -/
def passesOver (op : Binary) (v : Value) : Option Bool :=
  match op, v with
  | .and, v => some v.isTrue
  | .or, v => some !v.isTrue
  | .orElse, .undefined | .orElse, .null => some true
  | .orElse, _ => some false
  | _, _ => none

/-- What inherits from a value as an object that is written down says. -/
def writtenAncestry (v : Value) : Act Ancestry := do
  match v with
  | .null => return .nothing
  | v => if v.isPrimitive then return .common else Native.ancestryOf v

mutual

/-- The value of a term. -/
def evaluate (m : Machine) (scope : Scope) : Term → Act Value
  | .undefined => return .undefined
  | .null => return .null
  | .bool b => return .bool b
  | .number x => return .number x
  | .bigint n => return .bigint n
  | .text s => return .text s
  | .pattern source flags => do return .pattern (← freshId) source (Value.sortFlags flags)
  | .self => selfOf scope
  | .name x => readSpot m.call scope (.named x)
  | .function source => m.define scope.places source
  | .array items => do
    let values ← evaluateItems m scope items
    return .array (← freshId) values
  | .object none fields => do
    let members ← evaluateFields m scope fields
    objectWith .common members
  | .object (some t) fields => do
    let ancestor ← evaluate m scope t
    let members ← evaluateFields m scope fields
    objectWith (← writtenAncestry ancestor) members
  | .bare fields => do
    let members ← evaluateFields m scope fields
    objectWith .nothing members
  | .looped fields name => do
    let members ← evaluateFields m scope fields
    objectWith .common (members ++ [(name, none)])
  | .member t name => do member m.call (← evaluate m scope t) name
  | .item t key => do
    let v ← evaluate m scope t
    let (v, key) ← holding v (evaluate m scope key)
    memberAt m.call v key
  | .call (.member t name) arguments => do
    let self ← evaluate m scope t
    let f ← member m.call self name
    let (self, arguments) ← holding self (evaluateAll m scope arguments)
    m.call f self arguments
  | .call (.item t key) arguments => do
    let self ← evaluate m scope t
    let (self, key) ← holding self (evaluate m scope key)
    let f ← memberAt m.call self key
    let (self, arguments) ← holding self (evaluateAll m scope arguments)
    m.call f self arguments
  | .call f arguments => do
    let f ← evaluate m scope f
    m.call f .undefined (← evaluateAll m scope arguments)
  | .create f arguments => do
    let f ← evaluate m scope f
    m.create f (← evaluateAll m scope arguments)
  | .unary .typeName (.name x) => do
    return .text ((← lookup scope x).getD .undefined).typeName
  | .unary op t => do unary m.call op (← evaluate m scope t)
  | .binary op a b => do
    let v ← evaluate m scope a
    match passesOver op v with
    | some true => evaluate m scope b
    | some false => return v
    | none =>
      let (v, w) ← holding v (evaluate m scope b)
      binary m.call op v w
  | .choose condition a b => do
    if (← evaluate m scope condition).isTrue then evaluate m scope a else evaluate m scope b
  | .both a b => do
    let _ ← evaluate m scope a
    evaluate m scope b
  | .joined parts => do
    let texts ← (← evaluateAll m scope parts).mapM (spelling m.call)
    return Native.textValue texts.flatten
  | .set (.array items) none t => do
    let v ← evaluate m scope t
    assignItems m scope items (← Native.itemsOf v)
    return v
  | .set (.object _ fields) none t => do
    let v ← evaluate m scope t
    Native.needsMembers v
    assignFields m scope fields [] v
    return v
  | .set target none t => do
    let spot ← spotOf m scope target
    let v ← evaluate m scope t
    writeSpot scope spot v
    return v
  | .set target (some op) t => do
    let spot ← spotOf m scope target
    let old ← readSpot m.call scope spot
    match passesOver op old with
    | some false => return old
    | some true =>
      let v ← evaluate m scope t
      writeSpot scope spot v
      return v
    | none =>
      let v ← evaluate m scope t
      let v ← binary m.call op old v
      writeSpot scope spot v
      return v
  | .count target up before => do
    let spot ← spotOf m scope target
    let old ← match ← primitive m.call .number (← readSpot m.call scope spot) with
      | .bigint n => pure (.bigint n)
      | v => do pure (.number (← take v.toNumber))
    let v ← counted up old
    writeSpot scope spot v
    return if before then old else v
  | .remove (.member t name) => do
    let v ← evaluate m scope t
    removeMember v name
    return .bool true
  | .remove (.item t key) => do
    let v ← evaluate m scope t
    let key ← evaluate m scope key
    (← keyOf? m.call key).forM fun name => removeMember v name
    return .bool true
  | .remove _ => return .bool true
  | .spread t => evaluate m scope t
  | .ifThere t name rest => do
    match ← evaluate m scope t with
    | .undefined | .null => return .undefined
    | v => evaluate m (← withPlace scope name (some v)) rest

/-- The values of terms, from left to right. -/
def evaluateAll (m : Machine) (scope : Scope) : List Term → Act (List Value)
  | [] => return []
  | .spread t :: more => do
    let values ← Native.itemsOf (← evaluate m scope t)
    return values ++ (← evaluateAll m scope more)
  | t :: more => do
    let (v, values) ← holding (← evaluate m scope t) (evaluateAll m scope more)
    return v :: values

/-- The values of the items of an array. -/
def evaluateItems (m : Machine) (scope : Scope) : List (Option Term) → Act (List (Option Value))
  | [] => return []
  | none :: more => do return none :: (← evaluateItems m scope more)
  | some (.spread t) :: more => do
    let values ← Native.itemsOf (← evaluate m scope t)
    return values.map some ++ (← evaluateItems m scope more)
  | some t :: more => do
    let (v, values) ← holding (← evaluate m scope t) (evaluateItems m scope more)
    return some v :: values

/-- The members that fields give. -/
def evaluateFields (m : Machine) (scope : Scope) :
    List Field → Act (List (String × Option Value))
  | [] => return []
  | .named name t :: more => do
    let (v, members) ← holding (← evaluate m scope t) (evaluateFields m scope more)
    return (name, some v) :: members
  | .keyed key t :: more => do
    let key ← keyOf? m.call (← evaluate m scope key)
    let v ← evaluate m scope t
    return (key.map fun name => (name, some v)).toList ++ (← evaluateFields m scope more)
  | .spread t :: more => do
    let members ← Native.membersOf m.call (← evaluate m scope t)
    return members.map (fun e => (e.1, some e.2)) ++ (← evaluateFields m scope more)
  | .computed name source :: more => do
    let f ← newFunction scope source
    return (name, some (.computed f)) :: (← evaluateFields m scope more)

/-- What a term stands for as something that can be set. -/
def spotOf (m : Machine) (scope : Scope) : Term → Act Spot
  | .name x => return .named x
  | .member t name => do return .member (← newPlace (some (← evaluate m scope t))) name
  | .item t key => do
    let place ← newPlace (some (← evaluate m scope t))
    match ← keyOf? m.call (← evaluate m scope key) with
    | some name => return .member place name
    | none => return .nowhere
  | _ => return .nowhere

/-- Puts a value into a target. -/
def assign (m : Machine) (scope : Scope) : Term → Value → Act Unit
  | .array items, v => do assignItems m scope items (← Native.itemsOf v)
  | .object _ fields, v => do
    Native.needsMembers v
    assignFields m scope fields [] v
  | .set target none t, .undefined => do assign m scope target (← evaluate m scope t)
  | .set target _ _, v => assign m scope target v
  | .name x, v => assignName scope x v
  | .member t name, v => do setMember (← evaluate m scope t) name v
  | .item t key, v => do
    let (held, key) ← holding (← evaluate m scope t) (evaluate m scope key)
    (← keyOf? m.call key).forM fun name => setMember held name v
  | _, _ => return

/-- Puts the items of a value into targets. -/
def assignItems (m : Machine) (scope : Scope) : List (Option Term) → List Value → Act Unit
  | [], _ => return
  | none :: more, values => assignItems m scope more (values.drop 1)
  | some (.spread target) :: _, values => do assign m scope target (← newArray values)
  | some target :: more, values => do
    assign m scope target (values.headD .undefined)
    assignItems m scope more (values.drop 1)

/-- Puts members of a value into the targets that fields hold. The names are those of the fields so
far. -/
def assignFields (m : Machine) (scope : Scope) : List Field → List String → Value → Act Unit
  | [], _, _ => return
  | .named name target :: more, taken, v => do
    assign m scope target (← member m.call v name)
    assignFields m scope more (name :: taken) v
  | .keyed key target :: more, taken, v => do
    let name := (← keyOf? m.call (← evaluate m scope key)).getD ""
    assign m scope target (← member m.call v name)
    assignFields m scope more (name :: taken) v
  | .spread target :: _, taken, v => do
    let members ← Native.membersOf m.call v
    assign m scope target (← newObject (members.filter fun e => !taken.contains e.1))
  | .computed .. :: more, taken, v => assignFields m scope more taken v

end

end DocExamples.Script.Session
