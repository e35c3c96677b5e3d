import DocExamples.Script.Evaluation

/-!
The steps of functions: what statements do.

A step ends in one of a few ways, and the steps around it go on accordingly. What a step throws goes
through all of them up to the first that handles it.
-/

namespace DocExamples.Script.Session

/-- Sets a declared variable: one without a value holds nothing from now on, unless it could be seen
before. -/
def declare (m : Machine) (scope : Scope) (reach : Reach) (target : Term) (t : Option Term) :
    Act Unit := do
  match t, reach with
  | some t, _ => do assign m scope target (← evaluate m scope t)
  | none, .block => assign m scope target .undefined
  | none, .function =>
    (Reader.namesOf target).forM fun name => do
      if (scope.places.lookup name).isNone && (← findVariable name).isNone then
        setVariable name .undefined

/-- Whether a condition holds; a missing one always does. -/
def holds (m : Machine) (scope : Scope) (condition : Option Term) : Act Bool := do
  match condition with
  | some t => return (← evaluate m scope t).isTrue
  | none => return true

/-- The value that was thrown, for a failure that has one. -/
def keptValue (t : Thrown) : Act (Option Value) := do
  match t with
  | .value => return some (← get).thrown
  | _ => return none

/-- Takes the last steps after others, however those ended. -/
def lastly (act last : Act Outcome) : Act Outcome := do
  let (result, kept) ← tryCatchThe Thrown
    (do
      let outcome ← act
      return (Except.ok outcome, none))
    fun t => do return (.error t, ← keptValue t)
  match ← last, result, kept with
  | .done, .ok outcome, _ => return outcome
  | .done, .error _, some v => throwValue v
  | .done, .error t, none => throw t
  | outcome, _, _ => return outcome

mutual

/-- Takes steps up to the first that does not lead to the next. -/
def perform (m : Machine) (scope : Scope) : List Statement → Act Outcome
  | [] => return .done
  | step :: more => do
    match ← performOne m scope step with
    | .done => perform m scope more
    | outcome => return outcome

/-- Takes one step. -/
def performOne (m : Machine) (scope : Scope) : Statement → Act Outcome
  | .run t => do
    let _ ← evaluate m scope t
    return .done
  | .give t => do return .gives (← evaluate m scope t)
  | .raise t => do throwValue (← evaluate m scope t)
  | .declare reach target t => do
    declare m scope reach target t
    return .done
  | .define .. => return .done
  | .block steps => do
    let scope ← openBlock scope steps
    perform m scope steps
  | .choose condition a b => do
    if (← evaluate m scope condition).isTrue then perform m scope a else perform m scope b
  | .loop start condition after atOnce body => do
    let names := Reader.blockNames start
    let scope ← openBlock scope start
    let _ ← perform m scope start
    rounds (fun (first, scope) => do
      if !(first && atOnce) && !(← holds m scope condition) then return none
      else
        let outcome ← perform m scope body
        let scope ← renewed scope names
        match outcome, after with
        | .done, some t | .skips, some t =>
          let _ ← evaluate m scope t
          return some (outcome, false, scope)
        | outcome, _ => return some (outcome, false, scope)) mostRounds (true, scope)
  | .each reach target names t body => do
    let values ← visited names (← evaluate m scope t)
    visit (fun v => do
      let scope ← match reach with
        | some .block => withPlaces scope none (Reader.namesOf target)
        | _ => pure scope
      assign m scope target v
      perform m scope body) values
  | .select t cases => do
    let v ← evaluate m scope t
    let scope ← openBlock scope (cases.flatMap (·.2))
    let start ← match ← findCase m scope v cases 0 with
      | some n => pure n
      | none => pure ((cases.findIdx? fun c => c.1.isNone).getD cases.length)
    match ← performCases m scope start cases with
    | .leaves => return .done
    | outcome => return outcome
  | .attempt body handler last => do
    let first := do
      let scope ← openBlock scope body
      perform m scope body
    let handled := performHandled m scope first handler
    lastly handled do
      let scope ← openBlock scope last
      perform m scope last
  | .leave => return .leaves
  | .next => return .skips

/-- Takes steps that may be handled when they throw. -/
def performHandled (m : Machine) (scope : Scope) (act : Act Outcome) :
    Option (Option Term × List Statement) → Act Outcome
  | none => act
  | some (target, steps) =>
    tryCatchThe Thrown act fun thrown => do
      let v ← caught thrown
      let scope ← withPlaces scope none (target.toList.flatMap Reader.namesOf)
      target.forM fun target => assign m scope target v
      let scope ← openBlock scope steps
      perform m scope steps

/-- The position of the first case with the same value. -/
def findCase (m : Machine) (scope : Scope) (v : Value) :
    List (Option Term × List Statement) → Nat → Act (Option Nat)
  | [], _ => return none
  | (none, _) :: more, n => findCase m scope v more (n + 1)
  | (some t, _) :: more, n => do
    if v.strictlyEqual (← evaluate m scope t) then return some n
    else findCase m scope v more (n + 1)

/-- Takes the steps of the cases from a position on. -/
def performCases (m : Machine) (scope : Scope) :
    Nat → List (Option Term × List Statement) → Act Outcome
  | _, [] => return .done
  | n + 1, _ :: more => performCases m scope n more
  | 0, (_, steps) :: more => do
    match ← perform m scope steps with
    | .done => performCases m scope 0 more
    | outcome => return outcome

end

/-! ## Functions -/

/-- The variables of a function that is called: its own name, what it is called on, its arguments,
and those that it declares. -/
def enter (m : Machine) (r : Routine) (f self : Value) (places : List (String × Nat))
    (arguments : List Value) : Act Scope := do
  let scope ← r.name.toList.foldlM (fun scope name => withPlace scope name (some f)) ⟨places⟩
  let scope ←
    if r.arrow then pure scope
    else do
      let scope ← withPlace scope selfName (some self)
      withPlace scope "arguments" (some (← newArray arguments))
  let targets := r.parameters ++ r.more.toList
  let names := targets.flatMap Reader.namesOf
  let scope ← withPlaces scope (some .undefined) names
  assignItems m scope (r.parameters.map some) arguments
  r.more.forM fun target => do
    assign m scope target (← newArray (arguments.drop r.parameters.length))
  withPlaces scope (some .undefined)
    ((Reader.allWideNames r.body).filter fun name => !names.contains name)

/-- What a function gives. -/
def runRoutine (m : Machine) (r : Routine) (f self : Value) (places : List (String × Nat))
    (arguments : List Value) : Act Value := do
  let scope ← enter m r f self places arguments
  let scope ← openBlock scope r.body
  match ← perform m scope r.body with
  | .gives v => return v
  | _ => return .undefined

/-! ## Scripts -/

/-- Takes the steps of a script; the value of the last expression among them is its own. -/
def performScript (m : Machine) : List Statement → Value → Act Value
  | [], last => return last
  | .run t :: more, _ => do
    let v ← evaluate m {} t
    performScript m more v
  | step :: more, last => do
    let _ ← performOne m {} step
    performScript m more last

/-- Runs a script where no function is around it. Its functions are there from the start. -/
def runScript (m : Machine) (steps : List Statement) : Act Value := do
  (Reader.functionsOf steps).forM fun (name, source) => do
    setVariable name (← newFunction {} source)
  performScript m steps .undefined

/-- Runs the source of a script. -/
def run (m : Machine) (source : String) : Act Value := do
  match Reader.script source.toList with
  | .ok steps => runScript m steps
  | .error f => throw (.unreadable f)

end DocExamples.Script.Session
