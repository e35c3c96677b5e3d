import DocExamples.Command.Run
import DocExamples.Json.Basic
import DocExamples.Report.Text
import DocExamples.Service.Request

/-!
The service: what it answers to which request. There are two pages of its own, one that says that
the service runs and one that runs documents, and pages that describe them; slashes behind their
names do not matter, and neither does a line end.
-/

namespace DocExamples.Service

/-!
## The answer for a run

The counts, the verdict, and what the report says about each failure and each document without
results.
-/

/-- A failure: where it is, and its diagnostic. -/
structure FailureReport where
  location : String
  diagnostic : String
  deriving DecidableEq, Repr

/-- The answer for a run. -/
structure Response where
  passed : Nat
  failed : Nat
  skipped : Nat
  success : Bool
  failures : List FailureReport
  errors : List String
  deriving DecidableEq, Repr

/-- The answer for the results of a run and its documents without results. -/
def Response.ofRun (results : List Result) (errors : List DocumentError) : Response :=
  let summary := Summary.ofResults results
  { passed := summary.passed
    failed := summary.failed
    skipped := summary.skipped
    success := Report.succeeded results errors
    failures := (Report.failures results).map fun r => ⟨r.location, Report.detail r⟩
    errors := errors.map (·.message) }

/-- A failure as it stands in an answer. -/
def FailureReport.toJson (f : FailureReport) : Json :=
  .obj [("location", .str f.location), ("diagnostic", .str f.diagnostic)]

/-- The answer as it is sent. -/
def Response.toJson (r : Response) : Json :=
  .obj [("passed", .int r.passed), ("failed", .int r.failed), ("skipped", .int r.skipped),
    ("success", .bool r.success), ("failures", .arr (r.failures.map (·.toJson))),
    ("errors", .arr (r.errors.map .str))]

/-! ## Requests and their answers -/

/-- The body of an answer. -/
inductive Body where
  | healthy
  | detail (text : String)
  | problems (list : List Problem)
  | response (r : Response)

/-- An answer. -/
structure Answer where
  status : Nat
  body : Body

/-- What the service works with besides the surroundings of a run. -/
structure App (σ : Type) where
  surroundings : Command.Surroundings σ
  /-- Why no run can be started, if none can. -/
  unready : Option String := none

variable {σ : Type}

/-- An answer with the words for what went wrong. -/
def refused (status : Nat) (text : String) : Answer := ⟨status, .detail text⟩

/-- A failure as an answer, if there is one for it. -/
def failureAnswer (f : Failure) : Except Failure Answer :=
  if f.kind = "FileNotFoundError" then .ok (refused 404 f.message)
  else if f.kind = "RuntimeError" || f.kind = "RecursionError" then .ok (refused 500 f.message)
  else .error f

/-- The configuration with what a request says about compiling. -/
def withRequest (r : RunRequest) (c : Config) : Config :=
  match r.transpile with
  | none => c
  | some enabled => { c with transpile := { c.transpile with enabled := .bool enabled } }

/-- Runs documents with a configuration. -/
def runConfigured (s : App σ) (r : RunRequest) (c : Config) : Except Failure Answer :=
  let files := s.surroundings.files
  match Discovery.collect c.includes c.excludes files r.paths with
  | .error e => failureAnswer (Command.searchFailure e)
  | .ok found =>
    match s.unready with
    | some message => .ok (refused 500 message)
    | none =>
      match Run.documents c (s.surroundings.engine c) { engine := s.surroundings.start }
          (Run.sourcesFound files found) with
      | .error stop => failureAnswer (Command.runFailure stop)
      | .ok outcome => .ok ⟨200, .response (.ofRun outcome.results outcome.errors)⟩

/-- Answers a request for a run. -/
def run (s : App σ) (r : RunRequest) : Except Failure Answer :=
  let path := Path.ofString (r.configPath.getD "")
  let around := s.surroundings
  match (Config.load around.files around.setups around.yaml path).2 with
  | .error (.config e) => .ok (refused 400 e.message)
  | .error (.unhandled f) => failureAnswer f
  | .ok built =>
    match built.toConfig with
    | .error f => failureAnswer f
    | .ok c => runConfigured s r (withRequest r c)

/-- The pages, each with the method it is asked for by. -/
def pages : List (String × String) :=
  [("/health", "GET"), ("/run", "POST"), ("/docs", "GET"), ("/redoc", "GET"),
    ("/openapi.json", "GET"), ("/docs/oauth2-redirect", "GET")]

/-- A name without a line end. -/
def dropLineEnd (name : List Char) : String :=
  String.ofList (if name.getLast? = some '\n' then name.dropLast else name)

/-- The page at a path, which is cut at a question mark; slashes behind the name of a page count
only where there is a page without them. -/
def pageOf (path : String) : String :=
  let name := path.toList.takeWhile (· ≠ '?')
  let short := dropLineEnd (name.reverse.dropWhile (· = '/')).reverse
  if (pages.lookup short).isSome then short else dropLineEnd name

/-- The answer to a body that is no request. It shows the values with problems, so they have to be
such that can be written. -/
def faultAnswer : BodyFault → Except Failure Answer
  | .unreadable => .ok (refused 400 "There was an error parsing the body")
  | .problems list =>
    if list.all fun p => p.input.isFinite then .ok ⟨422, .problems list⟩
    else .error ⟨"ValueError", "Out of range float values are not JSON compliant"⟩

/-- Answers a request; its body has been read already. -/
def answer (s : App σ) (method path : String) (body : Except BodyFault RunRequest) :
    Except Failure Answer :=
  let page := pageOf path
  match pages.lookup page with
  | none => .ok (refused 404 "Not Found")
  | some allowed =>
    if method ≠ allowed then .ok (refused 405 "Method Not Allowed")
    else if page = "/run" then
      match body with
      | .error fault => faultAnswer fault
      | .ok r => run s r
    else .ok ⟨200, .healthy⟩

end DocExamples.Service
