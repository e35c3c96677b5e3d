import DocExamples.Script.Call

/-!
Sessions: what snippets do in a sandbox, step by step.

The variables of the sandbox are set before the first step. When that fails, every step fails in the
same way, for each of them begins anew; only what was written to the console stays.
-/

namespace DocExamples.Script

/-- A step of a session. -/
inductive Step where
  /-- Calls a function of the console. -/
  | log (function : String) (values : List Term)
  /-- Compares two values. -/
  | compare (actual expected : Term)
  /-- Compares the next line of the console with a value. -/
  | compareNext (expected : Term)
  /-- Compares the next line of the console with the line for values. -/
  | compareLogged (expected : List Term)
  /-- Checks that no line of the console is left. -/
  | checkDrained
  /-- Sets a variable. -/
  | define (name : String) (t : Term)
  /-- Runs a script. -/
  | run (steps : List Statement)
  deriving Inhabited

namespace Step

/-- The call of a function by its name. -/
def call (name : String) (arguments : List Term) : Term := .call (.name name) arguments

/-- The object that a function makes, by its name. -/
def make (name : String) (arguments : List Term) : Term := .create (.name name) arguments

/-- The variable with a name, which need not be there: a member of the object that holds all. -/
def global (name : String) : Term := .item (.name "globalThis") (.text name)

/-- The statements that a step takes. -/
def statements : Step → List Statement
  | log function values => [.run (.call (.member (.name "console") function) values)]
  | compare actual expected => [.run (call "__deepStrictEqual" [actual, expected])]
  | compareNext expected =>
    [.run (call "__deepStrictEqual" [call "__nextOutput" [], expected])]
  | compareLogged expected =>
    [.run (call "__deepStrictEqual"
      [call "__nextOutput" [], call "__formatOutput" [.array (expected.map some)]])]
  | checkDrained => [.run (call "__assertOutputDrained" [])]
  | define name t => [.run (.set (global name) none t)]
  | run steps => steps

end Step

namespace Session

/-- Takes a step. -/
def act (step : Step) : Act Unit := reporting do
  let _ ← runScript machine step.statements

/-- The variables of the sandbox, each with its source. -/
def sources : Act (List (Data × String)) := do
  match Sandbox.globalSources (← get).sandbox.globals with
  | .ok sources => return sources
  | .error refusal => throw (.unsupported refusal.failure)

/-- Runs the script that sets a variable. -/
def installVariable (key : Data) (source : String) : Act Unit := do
  match Sandbox.assignment key source with
  | .error fault => throw (.unsupported fault.failure)
  | .ok text =>
    tryCatchThe Thrown (reporting do let _ ← run machine text) fun thrown =>
      throw (.uninstalled thrown.message)

/-- Sets the variables of the sandbox in order. -/
def install : Act Unit := do
  (← sources).forM fun (key, source) => installVariable key source
  modify fun s => { s with installed := true }

/-- A session at its start. -/
def start (sandbox : Sandbox) : Session := { sandbox := sandbox }

/-- A session in which the variables of the sandbox are set. -/
def ready (s : Session) : Except Thrown Unit × Session :=
  if s.installed then (.ok (), s)
  else
    match install.run.run s with
    | (.ok (), s) => (.ok (), s)
    | (.error t, s) => (.error t, start s.sandbox)

/-- Takes a step in a session. A step that is not read fails when the session is ready for it. -/
def step (s : Session) (step : Except SourceFault Step) : Except Thrown Unit × Session :=
  match s.ready, step with
  | (.error t, s), _ => (.error t, s)
  | (.ok (), s), .error f => (.error (.unreadable f), s)
  | (.ok (), s), .ok step => (act step).run.run s

end Session

end DocExamples.Script
