import DocExamples.Json.Encoding
import DocExamples.Json.Reader
import DocExamples.Number.Arithmetic

/-!
Requests for a run: what is wrong with the body of one, or what it asks for.
-/

namespace DocExamples.Service

/-- What a request asks for. -/
structure RunRequest where
  paths : List String
  configPath : Option String := none
  /-- Whether examples are compiled, if the request says so. -/
  transpile : Option Bool := none
  deriving DecidableEq, Repr

/-- What can be wrong at a place of a body. -/
inductive Flaw where
  | missing
  | notJson
  | notObject
  | notList
  | notText
  | notBool
  /-- A text or number that stands for no truth value. -/
  | unreadableBool
  deriving DecidableEq, Repr

/-- The name of a flaw. -/
def Flaw.name : Flaw → String
  | missing => "missing"
  | notJson => "json_invalid"
  | notObject => "model_attributes_type"
  | notList => "list_type"
  | notText => "string_type"
  | notBool => "bool_type"
  | unreadableBool => "bool_parsing"

/-- A step on the way to a place of a body. -/
inductive Place where
  | field (name : String)
  | index (n : Nat)
  deriving DecidableEq, Repr

/-- A flaw at a place of the body, with the value that has it. -/
structure Problem where
  flaw : Flaw
  place : List Place
  input : Json := .null

/-- Why a body is no request. -/
inductive BodyFault where
  | problems (list : List Problem)
  /-- The bytes are no text, or a value in it is too long or too deep. -/
  | unreadable

/-- The problem with a part, which stands at a place of the body. -/
def problemAt (place : List Place) (input : Json) (flaw : Flaw) : List Problem :=
  [⟨flaw, place, input⟩]

/-- The words for truth values, in small letters. -/
def boolWords : List (String × Bool) :=
  [("0", false), ("f", false), ("n", false), ("no", false), ("off", false), ("false", false),
    ("1", true), ("t", true), ("y", true), ("yes", true), ("on", true), ("true", true)]

/-- The truth value of a whole number. -/
def boolOfInt (n : Int) : Except Flaw Bool :=
  if n = 0 then .ok false else if n = 1 then .ok true else .error .unreadableBool

/-- The truth value of a number with a point: a whole one of a size that is looked at. -/
def boolOfDouble (x : Number.Double) : Except Flaw Bool :=
  match x.toInt? with
  | some n => if -2 ^ 63 ≤ n ∧ n < 2 ^ 63 then boolOfInt n else .error .notBool
  | none => .error .notBool

/-- Reads a truth value. -/
def readBool : Json → Except Flaw Bool
  | .bool b => .ok b
  | .str s =>
    match boolWords.lookup (s.map Char.toLower) with
    | some b => .ok b
    | none => .error .unreadableBool
  | .int n => if -2 ^ 63 ≤ n ∧ n < 2 ^ 63 then boolOfInt n else boolOfDouble (.ofInt n)
  | .float x => boolOfDouble x
  | _ => .error .notBool

/-- The problems with the items of a list of texts from an index on. -/
def textProblems (name : String) (index : Nat) : List Json → List Problem
  | [] => []
  | .str _ :: more => textProblems name (index + 1) more
  | item :: more =>
    ⟨.notText, [.field name, .index index], item⟩ :: textProblems name (index + 1) more

/-- The texts among values. -/
def textsOf (items : List Json) : List String :=
  items.filterMap fun
    | .str s => some s
    | _ => none

/-- Reads the list of paths. -/
def readPaths (body : Json) : Except (List Problem) (List String) :=
  let name := "paths"
  match body.get? name with
  | none => .error (problemAt [.field name] body .missing)
  | some (.arr items) =>
    match textProblems name 0 items with
    | [] => .ok (textsOf items)
    | problems => .error problems
  | some value => .error (problemAt [.field name] value .notList)

/-- Reads the path of the configuration. -/
def readConfigPath (body : Json) : Except (List Problem) (Option String) :=
  let name := "config_path"
  match body.get? name with
  | none | some .null => .ok none
  | some (.str s) => .ok (some s)
  | some value => .error (problemAt [.field name] value .notText)

/-- Reads whether examples are compiled. -/
def readTranspile (body : Json) : Except (List Problem) (Option Bool) :=
  let name := "transpile"
  match body.get? name with
  | none | some .null => .ok none
  | some value =>
    match readBool value with
    | .ok b => .ok (some b)
    | .error flaw => .error (problemAt [.field name] value flaw)

/-- The problems of a part. -/
def problemsOf {α : Type} : Except (List Problem) α → List Problem
  | .ok _ => []
  | .error problems => problems

/-- Reads a request from the value of its body. All problems of the parts are collected. -/
def RunRequest.ofJson (body : Json) : Except BodyFault RunRequest :=
  match body with
  | .obj members =>
    let body := Json.obj members
    match readPaths body, readConfigPath body, readTranspile body with
    | .ok paths, .ok configPath, .ok transpile => .ok ⟨paths, configPath, transpile⟩
    | paths, configPath, transpile =>
      .error (.problems (problemsOf paths ++ problemsOf configPath ++ problemsOf transpile))
  | _ => .error (.problems (problemAt [] body .notObject))

/-- The fault of a request without a body. -/
def noBody : BodyFault := .problems (problemAt [] .null .missing)

/-- Reads a request from the bytes of its body. -/
def RunRequest.ofBytes (body : List UInt8) : Except BodyFault RunRequest :=
  if body.isEmpty then .error noBody
  else
    match (Json.textOfBytes? body).map Json.read with
    | none => .error .unreadable
    | some (.ok value) => ofJson value
    | some (.error (.malformed _ position _ _)) =>
      .error (.problems (problemAt [.index position] (.obj []) .notJson))
    | some (.error _) => .error .unreadable

end DocExamples.Service
