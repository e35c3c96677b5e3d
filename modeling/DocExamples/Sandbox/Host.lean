import DocExamples.Console.Line
import DocExamples.Data.Json
import DocExamples.Data.Script
import DocExamples.Json.Reader
import DocExamples.Sandbox.Resolver

/-!
Sandboxes, and the calls that a running snippet makes to its host.

Both sides exchange JSON text. A request for a module always gets a reply: either the text of an
expression, or the words that the snippet is to fail with. The console belongs to one sandbox and
only writing and taking a line change it.
-/

namespace DocExamples

/-- What surrounds running snippets. -/
structure Sandbox where
  resolver : Resolver
  /-- The variables by their keys. -/
  globals : List (Data × Data)
  console : Console := {}

/-- Why a call fails on the side of the host. -/
inductive HostError where
  /-- The payload is not JSON. -/
  | notJson (e : Json.ReadError)
  /-- The payload does not hold the values of a console call. -/
  | notSeveral (n : Console.NotSeveral)
  deriving DecidableEq, Repr

/-- A failed call as a failure. -/
def HostError.failure : HostError → Failure
  | notJson e => e.failure
  | notSeveral n => ⟨"TypeError", n.message⟩

/-- A call from a snippet to its host. -/
inductive HostCall where
  | require (name : String)
  | log (payload : String)
  | nextOutput
  | formatOutput (payload : String)
  | pendingOutput
  deriving DecidableEq, Repr

namespace Sandbox

/-- A fresh sandbox for a configuration. -/
def ofConfig (c : Config) : Except (String × Pattern.Fault) Sandbox :=
  (Resolver.ofConfig c).map fun resolver => ⟨resolver, c.globals, {}⟩

/-- The names that the sandbox itself defines. -/
def reservedNames : List String :=
  ["__assertOutputDrained", "__deepStrictEqual", "__formatOutput", "__hostFormatOutput",
    "__hostLog", "__hostNextOutput", "__hostPendingOutput", "__hostRequire", "__nextOutput",
    "console", "require"]

/-- The functions of the host, in the order in which a sandbox receives them. -/
def hostNames : List String :=
  ["__hostRequire", "__hostLog", "__hostNextOutput", "__hostFormatOutput", "__hostPendingOutput"]

/-- The variables of a sandbox, each as an expression. -/
def globalSources (globals : List (Data × Data)) : Except Data.Refusal (List (Data × String)) :=
  globals.mapM fun (key, value) => value.scriptText.map fun source => (key, source)

/-- The statement that sets a variable. -/
def assignment (key : Data) (source : String) : Except Data.JsonFault String :=
  key.jsonText.map fun name => "globalThis[" ++ String.ofList name ++ "] = " ++ source ++ ";"

/-- The words for a maker of modules that failed. -/
def failedMessage (name : String) (f : Failure) : String :=
  "Resolving '" ++ name ++ "' failed: " ++ f.describe

/-- The expression of the module for a name, or the words for its absence. A maker that found no
module has the words for that. -/
def moduleSource (r : Resolver) (name : String) : Except String String :=
  match r.resolve name with
  | .error (.notFound name) => .error (Resolver.notFoundMessage name)
  | .error (.failed f) =>
    .error (if f.kind = Resolver.notFoundKind then f.message else failedMessage name f)
  | .ok d =>
    match d.scriptText with
    | .ok source => .ok source
    | .error refusal => .error (failedMessage name refusal.failure)

/-- The reply to a request for a module. -/
def requireReply (r : Resolver) (name : String) : Json :=
  match moduleSource r name with
  | .ok source => .obj [("ok", .bool true), ("source", .str source)]
  | .error message => .obj [("ok", .bool false), ("message", .str message)]

/-- The console line for a payload. -/
def lineOf (payload : String) : Except HostError String :=
  match Json.read payload.toList with
  | .error e => .error (.notJson e)
  | .ok j =>
    match Console.values j with
    | .error n => .error (.notSeveral n)
    | .ok values => .ok (Console.line values)

/-- The line a call took, as JSON. -/
def lineJson : Option String → Json
  | none => .null
  | some line => .str line

/-- Answers a call. A call that fails leaves the sandbox as it was. -/
def call (s : Sandbox) : HostCall → Except HostError String × Sandbox
  | .require name => (.ok (requireReply s.resolver name).render, s)
  | .log payload =>
    match lineOf payload with
    | .error e => (.error e, s)
    | .ok line => (.ok "", { s with console := s.console.log line })
  | .nextOutput =>
    let (line, console) := s.console.pop
    (.ok (lineJson line).render, { s with console := console })
  | .formatOutput payload => ((lineOf payload).map fun line => (Json.str line).render, s)
  | .pendingOutput => (.ok (Json.arr (s.console.lines.map .str)).render, s)

end Sandbox

end DocExamples
