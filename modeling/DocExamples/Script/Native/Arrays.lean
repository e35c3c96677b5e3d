import DocExamples.Script.Native.Argument

/-!
The functions of arrays.

A function that is given another function calls it with an item, the position of the item and the
array, for the items that were there when it was called itself.
-/

namespace DocExamples.Script.Native

open Session

/-! ## Items -/

/-- The items of an array with their positions. -/
def indexed (items : List (Option Value)) : List (Value × Value) :=
  (Value.present 0 items).map fun (n, v) => (v, Value.count n)

/-- All items of an array with their positions, also those that are missing. -/
def allIndexed (items : List (Option Value)) : List (Value × Value) :=
  items.mapIdx fun n v => (v.getD .undefined, Value.count n)

/-- Puts other items into an array. -/
def setItems (self : Value) (items : List (Option Value)) : Act Unit :=
  update (.array (self.id?.getD 0) items)

/-- An array with other items, which it holds from now on. -/
def withItems (self : Value) (items : List (Option Value)) : Act Value := do
  setItems self items
  return .array (self.id?.getD 0) items

/-- Items with those of the arrays among them in place of these, to a depth. -/
def flattened : Nat → List (Option Value) → List (Option Value)
  | 0, items => items
  | depth + 1, items => items.flatMap fun item => match item with
    | some (.array _ inner) => flattened depth (inner.filter (·.isSome))
    | some v => [some v]
    | none => []

/-! ## Order -/

/-- Puts an item behind all that it need not stand in front of. -/
def insertBy {α : Type} (before : α → α → Act Bool) (x : α) : List α → Act (List α)
  | [] => return [x]
  | y :: more => do
    if ← before x y then return x :: y :: more
    else return y :: (← insertBy before x more)

/-- Items in order, where equal ones stay as they are. -/
def sortBy {α : Type} (before : α → α → Act Bool) (items : List α) : Act (List α) :=
  items.foldlM (fun sorted x => insertBy before x sorted) []

/-- The items of an array in the order that a function tells, or in that of their texts. What holds
nothing comes last. -/
def sorted (call : Caller) (f : Value) (items : List (Option Value)) : Act (List (Option Value)) := do
  let values := items.filterMap id
  let isMissing (v : Value) : Bool := match v with
    | .undefined => true
    | _ => false
  let there := values.filter fun v => !isMissing v
  let ordered ← match f with
    | .undefined => do
      let pairs ← there.mapM fun v => do return (v, String.ofList (← spelling call v))
      let pairs ← sortBy (fun a b => return Value.textBefore a.2 b.2) pairs
      pure (pairs.map (·.1))
    | f => sortBy (fun a b => do
        return (← numberOf call (← call f .undefined [a, b])).isLess .zero) there
  return (ordered ++ values.filter isMissing).map some ++
    List.replicate (items.length - values.length) none

/-! ## Calls -/

/-- Holds of an item that passes the test of a function. -/
def passes (call : Caller) (f on self : Value) (item : Value × Value) : Act Bool := do
  return (← call f on [item.1, item.2, self]).isTrue

/-- One value from the items of an array, joined by a function. -/
def reduced (call : Caller) (self : Value) (items : List (Value × Value)) (arguments : List Value) :
    Act Value := do
  let f := arg arguments 0
  needsFunction f
  let step (v : Value) (item : Value × Value) : Act Value :=
    call f .undefined [v, item.1, item.2, self]
  match arguments, items with
  | _ :: start :: _, items => items.foldlM step start
  | _, (first, _) :: items => items.foldlM step first
  | _, [] => refuse .emptyArray

/-- Calls a function of an array that is given a function. -/
def visiting? (call : Caller) (name : String) (self : Value) (items : List (Option Value))
    (arguments : List Value) : Option (Act Value) :=
  let f := arg arguments 0
  let test := passes call f (arg arguments 1) self
  let withFunction (act : Act Value) : Option (Act Value) := some do
    needsFunction f
    act
  match name with
  | "map" => withFunction do
    let values ← items.mapIdxM fun n item => match item with
      | some v => do return some (← call f (arg arguments 1) [v, Value.count n, self])
      | none => return none
    return .array (← freshId) values
  | "filter" => withFunction do newArray ((← (indexed items).filterM test).map (·.1))
  | "forEach" => withFunction do
    (indexed items).forM fun item => do
      let _ ← test item
    return .undefined
  | "some" => withFunction do return .bool (← (indexed items).anyM test)
  | "every" => withFunction do return .bool (← (indexed items).allM test)
  | "find" => withFunction do
    return ((← (allIndexed items).findM? test).map (·.1)).getD .undefined
  | "findIndex" => withFunction do
    return ((← (allIndexed items).findM? test).map (·.2)).getD (.number (.ofInt (-1)))
  | "flatMap" => withFunction do
    let values ← (indexed items).mapM fun item => call f (arg arguments 1) [item.1, item.2, self]
    return .array (← freshId) (flattened 1 (values.map some))
  | "reduce" => some (reduced call self (indexed items) arguments)
  | "reduceRight" => some (reduced call self (indexed items).reverse arguments)
  | _ => none

/-- Calls a function that changes an array. -/
def changingItems? (call : Caller) (name : String) (self : Value) (items : List (Option Value))
    (arguments : List Value) : Option (Act Value) :=
  let place (n : Nat) (default : Int) : Act Nat := do
    return position (← wholeArg call arguments n default) items.length
  match name with
  | "push" => some do
    setItems self (items ++ arguments.map some)
    return Value.count (items.length + arguments.length)
  | "pop" => some do
    setItems self items.dropLast
    return items.getLast?.join.getD .undefined
  | "shift" => some do
    setItems self (items.drop 1)
    return items.head?.join.getD .undefined
  | "unshift" => some do
    setItems self (arguments.map some ++ items)
    return Value.count (items.length + arguments.length)
  | "reverse" => some (withItems self items.reverse)
  | "sort" => some do
    match arg arguments 0 with
    | .undefined => withItems self (← sorted call .undefined items)
    | f =>
      needsFunction f
      withItems self (← sorted call f items)
  | "fill" => some do
    let first ← place 1 0
    let last ← place 2 items.length
    withItems self (items.mapIdx fun n item =>
      if first ≤ n ∧ n < last then some (arg arguments 0) else item)
  | "splice" => some do
    let first ← place 0 0
    let most := items.length - first
    let count ← match arguments.length with
      | 0 => pure 0
      | 1 => pure most
      | _ => do pure (min (← wholeArg call arguments 1 0).toNat most)
    setItems self (items.take first ++ (arguments.drop 2).map some ++ items.drop (first + count))
    return .array (← freshId) ((items.drop first).take count)
  | "copyWithin" => some do
    let target ← place 0 0
    let first ← place 1 0
    let last ← place 2 items.length
    let moved := ((items.take last).drop first).take (items.length - target)
    withItems self (items.take target ++ moved ++ items.drop (target + moved.length))
  | _ => none

/-- The last position of an item that is the same as a value, up to a position. -/
def lastSame? (items : List (Option Value)) (v : Value) (last : Nat) : Option Nat :=
  (List.range (min (last + 1) items.length)).reverse.find? fun n =>
    (items[n]?).join.any fun w => w.strictlyEqual v

/-- Calls a function that tells something of an array. -/
def telling? (call : Caller) (name : String) (items : List (Option Value)) (arguments : List Value) :
    Option (Act Value) :=
  let v := arg arguments 0
  let start : Act Nat := do return position (← wholeArg call arguments 1 0) items.length
  let joined (mark : List Char) : Act Value := do
    return textValue (Text.joinWith mark (← Value.itemTextsWith (objectText call) items))
  match name with
  | "join" => some do
    match v with
    | .undefined => joined [',']
    | v => joined (← spelling call v)
  | "toString" | "toLocaleString" => some (joined [','])
  | "concat" => some do
    let added := arguments.flatMap fun v => match v with
      | .array _ more => more
      | v => [some v]
    return .array (← freshId) (items ++ added)
  | "slice" => some do return .array (← freshId) (← part call items arguments)
  | "flat" => some do
    let depth ← wholeArg call arguments 0 1
    return .array (← freshId) (flattened (min depth greatestLength).toNat items)
  | "includes" => some do
    return .bool ((items.drop (← start)).any fun w => (w.getD .undefined).sameKey v)
  | "indexOf" => some do
    let start ← start
    let n := (items.drop start).findIdx? fun w => w.any fun w => w.strictlyEqual v
    return positionOrNone (n.map (· + start))
  | "lastIndexOf" => some do
    let last ← wholeArg call arguments 1 (items.length - 1)
    let last := if last < 0 then items.length + last else last
    return positionOrNone (if last < 0 then none else lastSame? items v last.toNat)
  | "values" => some (newArray (items.map fun v => v.getD .undefined))
  | "keys" => some (newArray ((List.range items.length).map Value.count))
  | "entries" => some do
    newArray (← (allIndexed items).mapM fun item => newArray [item.2, item.1])
  | _ => none

/-- Calls a function that arrays share. -/
def sharedByArrays? (call : Caller) (name : String) (self : Value) (items : List (Option Value))
    (arguments : List Value) : Option (Act Value) :=
  (visiting? call name self items arguments).or
    ((changingItems? call name self items arguments).or (telling? call name items arguments))

/-- The items for a new array: those that a value gives, or has by position. -/
def sourceItems (call : Caller) (v : Value) : Act (List Value) := do
  match v with
  | .object .. => listOf call v
  | .undefined | .null | .array .. | .set .. | .map .. | .text _ | .boxed .. => itemsOf v
  | _ => return []

/-- Calls a function for arrays. -/
def arrays? (call : Caller) (path : String) (arguments : List Value) : Option (Act Value) :=
  let v := arg arguments 0
  match path with
  | "Array.isArray" => some (return .bool (match v with
    | .array .. => true
    | _ => false))
  | "Array.of" => some (newArray arguments)
  | "Array.from" => some do
    match arg arguments 1 with
    | .undefined => newArray (← sourceItems call v)
    | f =>
      needsFunction f
      let items ← sourceItems call v
      newArray (← items.mapIdxM fun n v => call f (arg arguments 2) [v, Value.count n])
  | _ => none

end DocExamples.Script.Native
