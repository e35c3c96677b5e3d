import DocExamples.Json.Writer
import DocExamples.Script.Moment
import DocExamples.Script.Standard
import DocExamples.Script.Thrown
import DocExamples.Script.Value

/-!
Two written forms of script values: as JSON, and as text.

JSON has no place for some values. Those without data are left out of objects and stand as `null`
in arrays; a whole number of unbounded size and an object that holds itself make the whole value
impossible to write. The text of a value exists for nearly all values but says little of objects.
-/

namespace DocExamples.Script

namespace Value

/-- The JSON of a value that holds no other; `none` for one that JSON leaves out. -/
def plainJson : Value → Option Json
  | null => some .null
  | bool b => some (.bool b)
  | number x => some (if x.isFinite then .float x else .null)
  | text s => some (.str s)
  | undefined | symbol .. | function .. | native _ => none
  | date _ none => some .null
  | date _ (some time) => some (.str (String.ofList (Moment.standardText time)))
  | _ => some (.obj [])

mutual

/-- The JSON of a value; `none` for one that JSON leaves out. -/
def toJson : Value → Except Thrown (Option Json)
  | bigint _ => .error .bigintJson
  | array _ items => (itemsJson items).map fun items => some (.arr items)
  | object _ _ members | error _ _ _ members =>
    (membersJson members).map fun members => some (.obj members)
  | boxed _ inner =>
    match inner with
    | bool b => .ok (some (.bool b))
    | number x => .ok (plainJson (number x))
    | text s => .ok (some (.str s))
    | bigint _ => .error .bigintJson
    | _ => .ok (some (.obj []))
  | v => .ok v.plainJson

/-- The JSON of the items of an array. -/
def itemsJson : List (Option Value) → Except Thrown (List Json)
  | [] => .ok []
  | none :: more => (itemsJson more).map (Json.null :: ·)
  | some v :: more => do
    let item ← toJson v
    let items ← itemsJson more
    return item.getD .null :: items

/-- The JSON of the members of an object. -/
def membersJson : List (String × Option Value) → Except Thrown (List (String × Json))
  | [] => .ok []
  | (_, none) :: _ => .error .cycle
  | (name, some v) :: more => do
    let member ← toJson v
    let members ← membersJson more
    return (member.map fun j => (name, j)).toList ++ members

end

/-- A value as JSON text; `none` for one that JSON leaves out. -/
def jsonText (v : Value) : Except Thrown (Option String) :=
  v.toJson.map fun j => j.map fun j => String.ofList (Json.write Json.Style.script j)

/-- The text that stands under a name, or another where there is none. -/
def textUnder (members : List (String × Option Value)) (name default : String) : String :=
  match members.lookup name with
  | some (some (text s)) => s
  | _ => default

/-- The text of a value that holds no other. -/
def plainText : Value → Except Thrown (List Char)
  | undefined => .ok "undefined".toList
  | null => .ok "null".toList
  | bool b => .ok (if b then "true".toList else "false".toList)
  | number x => .ok (Number.Layout.script.text x)
  | bigint n => .ok (Number.intText n)
  | text s => .ok s.toList
  | symbol .. => .error .symbolText
  | function _ source _ => .ok source.toList
  | native name => .ok (Standard.functionText name)
  | date _ none => .ok "Invalid Date".toList
  | date _ (some time) => .ok (Moment.wordText time)
  | pattern _ source flags => .ok (patternText source flags)
  | set .. => .ok "[object Set]".toList
  | map .. => .ok "[object Map]".toList
  | error _ maker message members =>
    let name := textUnder members "name" maker
    let words := textUnder members "message" (message.getD "")
    .ok (if name = "" then words.toList else if words = "" then name.toList
      else name.toList ++ ": ".toList ++ words.toList)
  | _ => .error .noPrimitive

/-- The function of the start that an object was made by, if it is none of those that have a form of
their own. -/
def maker? : Value → Option String
  | object _ (.other id) _ => Standard.makerOf? id
  | _ => none

/-- The text that tells the kind of a value. -/
def kindText (v : Value) : String :=
  let kind := match v with
    | undefined => "Undefined"
    | null => "Null"
    | array .. => "Array"
    | function .. | native _ => "Function"
    | error .. => "Error"
    | bool _ => "Boolean"
    | number _ => "Number"
    | text _ => "String"
    | date .. => "Date"
    | pattern .. => "RegExp"
    | boxed _ (text _) => "String"
    | boxed _ (number _) => "Number"
    | boxed _ (bool _) => "Boolean"
    | set .. => "Set"
    | map .. => "Map"
    | symbol .. => "Symbol"
    | bigint _ => "BigInt"
    | object id .. =>
      let tag := v.maker?.bind fun maker => if Standard.tagging.contains maker then some maker else none
      ((Standard.holderName? id).or tag).getD "Object"
    | _ => "Object"
  "[object " ++ kind ++ "]"

/-- The text of an object that calls nothing of its own for it. -/
def objectText (v : Value) : Except Thrown (List Char) :=
  match v with
  | object _ ancestry members =>
    if ancestry = .nothing || members.any (·.1 == "toString") then .error .noPrimitive
    else .ok v.kindText.toList
  | v => v.plainText

/-- A result in any setting where something can be thrown. -/
def liftExcept {m : Type → Type} [Monad m] [MonadExceptOf Thrown m] {α : Type} :
    Except Thrown α → m α
  | .ok a => return a
  | .error e => throw e

section

variable {m : Type → Type} [Monad m] [MonadExceptOf Thrown m]

mutual

/-- The text of a value that stands among others, given the texts of objects. -/
def innerTextWith (object : Value → m (List Char)) : Value → m (List Char)
  | array _ items => do return Text.joinWith [','] (← itemTextsWith object items)
  | .object id ancestry members => object (.object id ancestry members)
  | boxed _ inner => liftExcept inner.plainText
  | v => liftExcept v.plainText

/-- The texts of the items of an array. What is missing or holds nothing has an empty text. -/
def itemTextsWith (object : Value → m (List Char)) : List (Option Value) → m (List (List Char))
  | [] => return []
  | none :: more | some .undefined :: more | some .null :: more => do
    return [] :: (← itemTextsWith object more)
  | some v :: more => do
    let text ← innerTextWith object v
    return text :: (← itemTextsWith object more)

end

/-- The text of a value, given the texts of objects. Only a symbol that stands alone has one. -/
def toTextWith (object : Value → m (List Char)) : Value → m (List Char)
  | symbol _ description => return "Symbol(".toList ++ description.toList ++ [')']
  | v => v.innerTextWith object

end

/-- The text of a value that calls nothing of its own for it. -/
def toText (v : Value) : Except Thrown (List Char) := v.toTextWith objectText

end Value

end DocExamples.Script
