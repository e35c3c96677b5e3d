import DocExamples.Script.Numeral
import DocExamples.Script.State
import DocExamples.Script.Written

/-!
What values become where another kind of value is needed: a value that is no object, a text, a
number, a truth value, JSON.

An object can have its own functions for it, under the names `toString`, `valueOf` and `toJSON`, and
they are called.
-/

namespace DocExamples.Script

/-!
## What the console shows

What the console shows of values and what a failed comparison says of them needs three conversions:
the text of a value, whether a number is finite, and JSON. They are those of the start, or what a
session put in their place; the rules are the same.
-/

/-- The conversions that stand under their names. -/
structure Conversions (m : Type → Type) where
  /-- A value as text. -/
  text : Value → m Value
  /-- Whether a number is finite. -/
  isFinite : Number.Double → m Bool
  /-- A value as JSON text; nothing for a value that JSON leaves out. -/
  stringify : Value → m Value

namespace Conversions

/-- The conversions of the start, for values that call nothing of their own. -/
def standard : Conversions (Except Thrown) where
  text v := v.toText.map fun s => .text (String.ofList s)
  isFinite x := .ok x.isFinite
  stringify v := v.jsonText.map fun t => (t.map Value.text).getD .undefined

variable {m : Type → Type} [Monad m] [MonadExceptOf Thrown m]

/-- A value as the console takes it: what JSON cannot show by itself is replaced by its text. -/
def forConsole (c : Conversions m) (v : Value) : m Value :=
  match v with
  | .undefined | .symbol .. | .function .. | .native _ | .bigint _ => c.text v
  | .number x => do if ← c.isFinite x then return v else c.text v
  | v => return v

/-- The payload of a console call. Where one of the values has no JSON form, all of them are
replaced by their texts. -/
def payload (c : Conversions m) (values : List Value) : m Value := do
  let converted ← values.mapM c.forConsole
  tryCatchThe Thrown (c.stringify (.array 0 (converted.map some))) fun _ => do
    let texts ← converted.mapM c.text
    c.stringify (.array 0 (texts.map some))

/-- How a failed comparison shows a value: its JSON, and its text where it has none. -/
def describe (c : Conversions m) (v : Value) : m Value :=
  match v with
  | .text s => c.stringify (.text s)
  | .undefined | .symbol .. | .function .. | .native _ => c.text v
  | v => do
    let shown ← tryCatchThe Thrown (c.stringify v) fun _ => return .undefined
    match shown with
    | .undefined => c.text v
    | shown => return shown

end Conversions

namespace Value

/-- The payload of a console call at the start of a session. -/
def payload (values : List Value) : Except Thrown Value := Conversions.standard.payload values

end Value

/-! ## Values where another kind of value is needed -/

namespace Value

/-- What a value without functions of its own becomes by a shared function. -/
def shared? (v : Value) (name : String) : Option Value :=
  match name, v with
  | _, object _ .nothing _ => none
  | "toString", v@(object ..) => some (text v.kindText)
  | "toString", v => v.plainText.toOption.map fun s => text (String.ofList s)
  | "valueOf", boxed _ inner => some inner
  | "valueOf", date _ time => some (number ((time.map Number.Double.ofInt).getD .nan))
  | _, _ => none

/-- Holds of values that count as true. -/
def isTrue : Value → Bool
  | undefined | null | bool false => false
  | number x => !x.isZero && x != .nan
  | bigint n => n ≠ 0
  | text s => s ≠ ""
  | _ => true

/-- The number that a text writes, which blanks may surround. -/
def numberOfText (s : List Char) : Number.Double :=
  let s := Text.dropTrailing Token.isBlank (s.dropWhile Token.isBlank)
  let (negative, size) : Bool × List Char := match s with
    | '-' :: rest => (true, rest)
    | '+' :: rest => (false, rest)
    | s => (false, s)
  let signed (x : Number.Double) : Number.Double := if negative then x.negate else x
  let marked := match s with
    | '0' :: c :: _ => ['x', 'X', 'o', 'O', 'b', 'B'].contains c
    | _ => false
  let plain := size.all fun c => c.isDigit || ['.', 'e', 'E', '+', '-'].contains c
  if s.isEmpty then .zero
  else if size = "Infinity".toList then signed (.infinite false)
  else if s.contains '_' || s.contains 'n' || !(marked || plain) then .nan
  else
    let digits := if marked then s else
      let bare := size.dropWhile (· = '0')
      if bare.head?.any Char.isDigit then bare else '0' :: bare
    if !marked && !size.any Char.isDigit then .nan
    else
      match Numeral.read? digits with
      | some (.number x, []) => signed x
      | _ => .nan

/-- The number that a value which is no object becomes. -/
def toNumber : Value → Except Thrown Number.Double
  | undefined => .ok .nan
  | null => .ok .zero
  | bool b => .ok (.ofInt (if b then 1 else 0))
  | number x => .ok x
  | bigint _ => .error .bigintNumber
  | text s => .ok (numberOfText s.toList)
  | symbol .. => .error .symbolNumber
  | _ => .ok .nan

mutual

/-- Holds of a value that may call a function to become JSON, or to show its members. -/
def calls : Value → Bool
  | array _ items => itemsCall items
  | object _ ancestry members =>
    (match ancestry with
    | .other _ => true
    | _ => false) || membersCall members
  | error _ _ _ members => membersCall members
  | computed _ => true
  | _ => false

/-- Holds of items one of which may call a function. -/
def itemsCall : List (Option Value) → Bool
  | [] => false
  | none :: more => itemsCall more
  | some v :: more => calls v || itemsCall more

/-- Holds of members one of which is the function that gives JSON, or may call one. -/
def membersCall : List (String × Option Value) → Bool
  | [] => false
  | (_, none) :: more => membersCall more
  | (name, some v) :: more => (name == "toJSON" && v.isFunction) || calls v || membersCall more

end

end Value

/-- What an object is to become. -/
inductive Hint where
  | text
  | number
  | any
  deriving DecidableEq, Repr

namespace Session

/-- A function under a name that a value or what it inherits from was given. -/
def given? (call : Caller) (v : Value) (name : String) : Act (Option Value) := do
  match ← storedMember? v name with
  | some (.native path) =>
    return if v.owners.any (fun o => o ++ ".prototype." ++ name == path) then none
      else some (.native path)
  | some (.computed f) => return some (← call f v [])
  | found => return found

/-- What an object becomes by one of its functions, if that is no object itself. -/
def attempt (call : Caller) (v : Value) (name : String) : Act (Option Value) := do
  match ← given? call v name with
  | some f =>
    if f.isFunction then
      let result ← call f v []
      return if result.isPrimitive then some result else none
    else return none
  | none => return v.shared? name

/-- What an object becomes by the first of its functions that gives a value which is no object. -/
def reduced (call : Caller) (v : Value) : List String → Act Value
  | [] => throw .noPrimitive
  | name :: more => do
    match ← attempt call v name with
    | some result => return result
    | none => reduced call v more

/-- The text of an object among others. -/
def objectText (call : Caller) (v : Value) : Act (List Char) := do
  take (← reduced call v ["toString", "valueOf"]).plainText

/-- The text of a value. -/
def textOf (call : Caller) (v : Value) : Act (List Char) := v.toTextWith (objectText call)

/-- A value that is no object in place of a value. -/
def primitive (call : Caller) (hint : Hint) (v : Value) : Act Value := do
  match v, hint with
  | .array .., _ => return .text (String.ofList (← v.innerTextWith (objectText call)))
  | .date .., .any => reduced call v ["toString", "valueOf"]
  | v, hint =>
    if v.isPrimitive then return v
    else
      reduced call v (if hint = .text then ["toString", "valueOf"] else ["valueOf", "toString"])

/-- The text of a value where a text is needed, which a symbol does not have. -/
def spelling (call : Caller) (v : Value) : Act (List Char) := do
  take (← primitive call .text v).plainText

/-- The number of a value where a number is needed. -/
def numberOf (call : Caller) (v : Value) : Act Number.Double := do
  take (← primitive call .number v).toNumber

/-! ## JSON -/

mutual

/-- A value with what the functions of objects in it give in place of their members and, where it is
to become JSON, in place of the objects. The first argument bounds how deep they may nest; the text
is the name under which the value stands. -/
def settle (call : Caller) (json : Bool) : Nat → String → Value → Act Value
  | 0, _, _ => throw .overflow
  | fuel + 1, name, v => do
    let v ← if json && !v.isPrimitive then
        match ← given? call v "toJSON" with
        | some f => if f.isFunction then call f v [.text name] else pure v
        | none => pure v
      else pure v
    match v with
    | .array id items => return .array id (← settleItems call json fuel 0 items)
    | .object id ancestry members =>
      return .object id ancestry (← settleMembers call json fuel v members)
    | .error id maker message members =>
      return .error id maker message (← settleMembers call json fuel v members)
    | .bigint _ => if json then throw .bigintJson else return v
    | v => return v

/-- The items of an array with what functions give in place of them. -/
def settleItems (call : Caller) (json : Bool) :
    Nat → Nat → List (Option Value) → Act (List (Option Value))
  | 0, _, _ => throw .overflow
  | _ + 1, _, [] => return []
  | fuel + 1, n, none :: more => do
    return (if json then some .null else none) :: (← settleItems call json fuel (n + 1) more)
  | fuel + 1, n, some item :: more => do
    let item ← settle call json fuel (toString n) item
    return some item :: (← settleItems call json fuel (n + 1) more)

/-- The members of an object with what functions give in place of them. -/
def settleMembers (call : Caller) (json : Bool) :
    Nat → Value → List (String × Option Value) → Act (List (String × Option Value))
  | 0, _, _ => throw .overflow
  | _ + 1, _, [] => return []
  | fuel + 1, self, (name, none) :: more => do
    if json then throw .cycle
    return (name, none) :: (← settleMembers call json fuel self more)
  | fuel + 1, self, (name, some v) :: more => do
    let v ← match v with
      | .computed f => call f self []
      | v => pure v
    let v ← settle call json fuel name v
    return (name, some v) :: (← settleMembers call json fuel self more)

end

/-- How deep functions that give values may nest. -/
def settlingDepth : Nat := 4000

/-- A value as it is after all functions for its members were called. -/
def settled (call : Caller) (v : Value) : Act Value := do
  if v.calls then settle call false settlingDepth "" v else return v

/-- A value after the functions that give JSON were called. -/
def settledForJson (call : Caller) (v : Value) : Act Value := do
  if v.calls then settle call true settlingDepth "" v else return v

/-- A value as JSON text; nothing for a value that JSON leaves out. -/
def stringify (call : Caller) (v : Value) : Act Value := do
  return ((← take (← settledForJson call v).jsonText).map Value.text).getD .undefined

/-! ## Conversions by name -/

/-- The conversions that stand under their names. -/
def conversions (call : Caller) : Conversions Act where
  text v := do
    match ← replaced? "String" with
    | some f => call f .undefined [v]
    | none => return .text (String.ofList (← textOf call v))
  isFinite x := do
    match ← replaced? "isFinite" with
    | some f => return (← call f .undefined [.number x]).isTrue
    | none => return x.isFinite
  stringify v := do
    match ← replaced? "JSON" with
    | some json => callMember call json "stringify" [v]
    | none => stringify call v

end Session

end DocExamples.Script
