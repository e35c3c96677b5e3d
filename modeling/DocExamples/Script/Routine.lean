import DocExamples.Script.Statements

/-!
Functions and classes from their sources.
-/

namespace DocExamples.Script.Reader

/-- Reads the parameters and the body of a function after its name. -/
def routineFrom (name : Option String) (s : List Char) : Except SourceFault Routine := do
  let ((parameters, more), rest) ← parameters body (depthFor s) [] (← Token.expect "(" s)
  let (steps, _) ← block { function := true } (depthFor rest) rest
  return ⟨name, parameters, more, steps, false⟩

/-- Reads the parameters and the body of an arrow function. -/
def arrowRoutine (s : List Char) : Except SourceFault Routine := do
  let ((parameters, more), rest) ← match ← Token.read s with
    | (.name x, rest) => pure (([Term.name x], none), rest)
    | (_, rest) => parameters body (depthFor s) [] rest
  let inside ← Token.expect "=>" rest
  if markNext "\x7b" inside then
    let (steps, _) ← block { function := true } (depthFor inside) inside
    return ⟨none, parameters, more, steps, true⟩
  else
    let (t, _) ← assignment body (depthFor inside) inside
    return ⟨none, parameters, more, [.give t], true⟩

/-- Holds of the source of a class. -/
def isClass (source : String) : Bool :=
  match Token.read source.toList with
  | .ok (.word "class", _) => true
  | _ => false

/-- Reads a function from its source: with its word in front, as an arrow, or as a member. -/
def routine (source : String) : Except SourceFault Routine := do
  let s := source.toList
  match ← Token.read s with
  | (.word "function", rest) =>
    match ← Token.read rest with
    | (.name x, rest) => routineFrom (some x) rest
    | (.mark "*", _) => throw .uncovered
    | _ => routineFrom none rest
  | (.word "class", _) => throw .uncovered
  | (token, rest) =>
    if startsArrow s then arrowRoutine s
    else if token = .name "async" ∧ !markNext "(" rest then throw .uncovered
    else routineFrom none rest

/-- Reads the parts of a class from its source. -/
def classOf (source : String) : Except SourceFault (List ClassPart) := do
  match ← Token.read source.toList with
  | (.word "class", rest) => return (← classRest body (depthFor rest) rest).1
  | _ => throw .uncovered

/-- Reads the source of a function. One that is not covered is still a function with its source. -/
def function (source : String) : Except SourceFault Term :=
  match inBrackets source.toList with
  | .error .uncovered => .ok (.function (String.ofList (Text.strip source.toList)))
  | found => found

/-- The name of a function or a class, from its source. -/
def nameOf (source : String) : String :=
  match Token.read source.toList with
  | .ok (.word "class", rest) =>
    match Token.read rest with
    | .ok (.name x, _) => x
    | _ => ""
  | _ =>
    match routine source with
    | .ok r => r.name.getD ""
    | .error _ => ""

/-- How many arguments a function takes that have nothing to stand in their place. -/
def parameterCount (source : String) : Nat :=
  match routine source with
  | .ok r =>
    (r.parameters.takeWhile fun t => match t with
      | .set .. => false
      | _ => true).length
  | .error _ => 0

/-! ## Declared names -/

mutual

/-- The names that a target sets. -/
def namesOf : Term → List String
  | .name x => [x]
  | .set t .. => namesOf t
  | .spread t => namesOf t
  | .array items => itemNames items
  | .object _ fields => fieldNames fields
  | _ => []

/-- The names that the items of a target set. -/
def itemNames : List (Option Term) → List String
  | [] => []
  | none :: more => itemNames more
  | some t :: more => namesOf t ++ itemNames more

/-- The names that the fields of a target set. -/
def fieldNames : List Field → List String
  | [] => []
  | .named _ t :: more | .keyed _ t :: more | .spread t :: more => namesOf t ++ fieldNames more
  | .computed .. :: more => fieldNames more

end

mutual

/-- The names that a statement declares for the whole function. -/
def wideNames : Statement → List String
  | .declare .function target _ => namesOf target
  | .block steps => allWideNames steps
  | .choose _ a b => allWideNames a ++ allWideNames b
  | .loop start _ _ _ body => allWideNames start ++ allWideNames body
  | .each (some .function) target _ _ body => namesOf target ++ allWideNames body
  | .each _ _ _ _ body => allWideNames body
  | .select _ cases => caseWideNames cases
  | .attempt body handler last =>
    allWideNames body ++ handlerWideNames handler ++ allWideNames last
  | _ => []

/-- The names that statements declare for the whole function. -/
def allWideNames : List Statement → List String
  | [] => []
  | step :: more => wideNames step ++ allWideNames more

/-- The names that the cases of a choice declare for the whole function. -/
def caseWideNames : List (Option Term × List Statement) → List String
  | [] => []
  | (_, steps) :: more => allWideNames steps ++ caseWideNames more

/-- The names that what handles a failure declares for the whole function. -/
def handlerWideNames : Option (Option Term × List Statement) → List String
  | none => []
  | some (_, steps) => allWideNames steps

end

/-- The names that statements declare for the block they stand in. -/
def blockNames (steps : List Statement) : List String :=
  steps.flatMap fun step => match step with
    | .declare .block target _ => namesOf target
    | _ => []

/-- The functions that statements declare. -/
def functionsOf (steps : List Statement) : List (String × String) :=
  steps.filterMap fun step => match step with
    | .define name source => some (name, source)
    | _ => none

end DocExamples.Script.Reader
