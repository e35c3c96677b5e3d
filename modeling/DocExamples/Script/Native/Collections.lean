import DocExamples.Script.Native.Argument

/-!
The functions of sets and maps.
-/

namespace DocExamples.Script.Native

open Session

/-- Calls a function with each of some values, its key and the collection. -/
def visitAll (call : Caller) (self : Value) (entries : List (Value × Value))
    (arguments : List Value) : Act Value := do
  let f := arg arguments 0
  needsFunction f
  entries.forM fun (key, v) => do
    let _ ← call f (arg arguments 1) [v, key, self]
  return .undefined

/-- Calls a function that sets share. -/
def sharedBySets? (call : Caller) (name : String) (self : Value) (items : List Value)
    (arguments : List Value) : Option (Act Value) :=
  let v := arg arguments 0
  let id := self.id?.getD 0
  match name with
  | "has" => some (return .bool (items.any (Value.sameKey v)))
  | "add" => some do
    let changed := Value.set id (Value.insertItem items v)
    update changed
    return changed
  | "delete" => some do
    update (.set id (items.filter fun item => !Value.sameKey v item))
    return .bool (items.any (Value.sameKey v))
  | "clear" => some do
    update (.set id [])
    return .undefined
  | "forEach" => some (visitAll call self (items.map fun item => (item, item)) arguments)
  | "values" | "keys" => some (newArray items)
  | "entries" => some do newArray (← items.mapM fun item => newArray [item, item])
  | _ => none

/-- Calls a function that maps share. -/
def sharedByMaps? (call : Caller) (name : String) (self : Value) (entries : List (Value × Value))
    (arguments : List Value) : Option (Act Value) :=
  let key := arg arguments 0
  let id := self.id?.getD 0
  match name with
  | "get" => some (return (Value.lookupKey key entries).getD .undefined)
  | "has" => some (return .bool (Value.lookupKey key entries).isSome)
  | "set" => some do
    let changed := Value.map id (Value.insertEntry entries (key, arg arguments 1))
    update changed
    return changed
  | "delete" => some do
    update (.map id (entries.filter fun e => !Value.sameKey e.1 key))
    return .bool (Value.lookupKey key entries).isSome
  | "clear" => some do
    update (.map id [])
    return .undefined
  | "forEach" => some (visitAll call self entries arguments)
  | "keys" => some (newArray (entries.map (·.1)))
  | "values" => some (newArray (entries.map (·.2)))
  | "entries" => some do newArray (← entries.mapM fun e => newArray [e.1, e.2])
  | _ => none

end DocExamples.Script.Native
