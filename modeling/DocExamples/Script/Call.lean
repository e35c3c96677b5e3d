import DocExamples.Script.Steps

/-!
Calls of functions, and the objects that they make.

Each call has a bound on how many calls may be inside one another. A function that is not covered
gives nothing.
-/

namespace DocExamples.Script.Session

/-! ## Classes -/

/-- The members that the objects of a class inherit. -/
def sharedMembers (scope : Scope) (parts : List ClassPart) : Act (List (String × Option Value)) :=
  parts.filterMapM fun part => match part with
    | .method "constructor" _ => return none
    | .method name source => do return some (name, some (← newFunction scope source))
    | .computed name source => do
      return some (name, some (.computed (← newFunction scope source)))
    | .field .. => return none

/-- Makes a function. A class gets what its objects inherit from at once. -/
def define (places : List (String × Nat)) (source : String) : Act Value := do
  match Reader.isClass source, Reader.classOf source with
  | true, .ok parts =>
    let name := Reader.nameOf source
    let scope ← if name = "" then pure ⟨places⟩ else withPlace ⟨places⟩ name none
    let f ← newFunction scope source
    let id := Value.heirId (f.id?.getD 0)
    let members ← sharedMembers scope parts
    noteAncestor id (.object id .common (("constructor", some f) :: Members.listed members))
    if name ≠ "" then assignName scope name f
    return f
  | _, _ => newFunction ⟨places⟩ source

/-- Gives a new object the fields of its class, and takes the steps for new objects. -/
def build (m : Machine) (f : Value) (scope : Scope) (keeper : Nat) (parts : List ClassPart)
    (arguments : List Value) : Act Value := do
  let inside : Scope := ⟨(selfName, keeper) :: scope.places⟩
  parts.forM fun part => match part with
    | .field name t => do
      let v ← evaluate m inside t
      setMember ((← atPlace keeper).getD .undefined) name v
    | _ => return
  let steps := parts.findSome? fun part => match part with
    | .method "constructor" source => some source
    | _ => none
  match steps.map Reader.routine with
  | some (.ok r) =>
    runRoutine m r f ((← atPlace keeper).getD .undefined) scope.places arguments
  | some (.error fault) => throw (.unreadable fault)
  | none => return .undefined

/-! ## Calls -/

/-- Makes an object by a function. It stands in a place of its own while the function is at work. -/
def create (m : Machine) (f : Value) (arguments : List Value) : Act Value := do
  match f with
  | .native name => Native.make m name arguments
  | .function id source places =>
    if Value.canMake source then
      let self := Value.object (← freshId) (.other (Value.heirId id)) []
      let _ ← ancestorOf f
      let keeper ← newPlace (some self)
      let result ← match Reader.isClass source, Reader.classOf source with
        | true, .ok parts => build m f ⟨places⟩ keeper parts arguments
        | true, .error fault => throw (.unreadable fault)
        | false, _ => m.call f self arguments
      if result.isPrimitive then return (← atPlace keeper).getD self else return result
    else throw .notMaker
  | _ => throw .notFunction

/-- Calls a function that a script wrote. -/
def callWritten (m : Machine) (f self : Value) (source : String) (places : List (String × Nat))
    (arguments : List Value) : Act Value := do
  if Reader.isClass source then refuse .classCall
  match Reader.routine source with
  | .error .uncovered => return .undefined
  | .error fault => throw (.unreadable fault)
  | .ok r =>
    let self := match self with
      | .undefined | .null => Standard.allVariables
      | self => self
    runRoutine m r f self places arguments

/-- The machine of a session. The first argument bounds how many calls may be inside one another. -/
def machineWithin : Nat → Machine
  | 0 => {
    call := fun _ _ _ => throw .overflow
    create := fun _ _ => throw .overflow
    define := define
    run := fun _ => throw .overflow }
  | fuel + 1 =>
    let m := machineWithin fuel
    { call := fun f self arguments =>
        match f with
        | .native path => Native.apply m path self arguments
        | .function _ source places => callWritten m f self source places arguments
        | _ => throw .notFunction
      create := create m
      define := define
      run := run m }

/-- How many calls may be inside one another. -/
def callDepth : Nat := 500

/-- The machine of a session. -/
def machine : Machine := machineWithin callDepth

/-! ## What a script throws -/

/-- The text that reports a value which a script threw: its own, and for what is no error the text of
the stack that it says it has. -/
def raisedText (v : Value) : Act String := do
  let text := String.ofList (← spelling machine.call v)
  match v with
  | .error .. => return text
  | .undefined | .null => return text ++ "\n"
  | v =>
    let stack ← tryCatchThe Thrown
      (do return String.ofList (← spelling machine.call (← member machine.call v "stack")))
      fun _ => return ""
    return text ++ "\n" ++ stack

/-- What is reported of a failure: a value that a script threw is told by its text. -/
def reported (t : Thrown) : Act Thrown := do
  match t with
  | .value =>
    let v := (← get).thrown
    tryCatchThe Thrown (do return .raised (← raisedText v)) fun _ => return .wordless
  | t => return t

/-- An act that throws what is reported. -/
def reporting {α : Type} (act : Act α) : Act α :=
  tryCatchThe Thrown act fun t => do throw (← reported t)

end DocExamples.Script.Session
