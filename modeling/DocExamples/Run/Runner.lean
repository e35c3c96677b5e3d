import DocExamples.Config.Basic
import DocExamples.Document.Read
import DocExamples.Log.Record
import DocExamples.Run.Engine
import DocExamples.Run.Result

/-!
Running examples.

Every example that no directive leaves out runs in the same three steps: the hook, the compiler,
the evaluator, each of which is called only if those before it did not fail. Whatever a call does,
it decides over one example and never stops the run. The examples of a document run in a sandbox
each, or all in one where the document asks for that; no two documents share a sandbox.
-/

namespace DocExamples

/-- A call out of a run. A sandbox is known by its number in the run. -/
inductive Call where
  /-- The hook, where it is an action outside the sandbox. -/
  | hook
  | compile (code : String) (language : Language)
  | evaluate (code : String) (sandbox : Nat)
  deriving DecidableEq, Repr

/-- What a run has done so far. -/
structure Run (σ : Type) where
  /-- The state of the engine. -/
  engine : σ
  /-- How often the hook was called as an action. -/
  hooks : Nat := 0
  /-- How many sandboxes were made. -/
  sandboxes : Nat := 0
  /-- The calls in the order in which they were made. -/
  calls : List Call := []
  /-- The results that were announced while the run went on. -/
  announced : List Result := []
  log : List Log.Record := []

/-- A sandbox with its number. -/
structure Numbered where
  number : Nat
  sandbox : Sandbox

/-- Why a run stops before its end. -/
inductive RunError where
  /-- A document is not there or is no file. -/
  | file (e : FileError)
  /-- A fence of a document names no language. -/
  | tag (t : UnknownTag)
  /-- A pattern of the configuration cannot be read. -/
  | pattern (text : String) (fault : Pattern.Fault)
  deriving DecidableEq, Repr

namespace Run

variable {σ : Type}

/-- The code that calls a hook in a sandbox. -/
def hookCode (source : String) : String := "(" ++ source ++ ")();\n"

/-- Adds a log record. -/
def note (level : Log.Level) (message : String) (r : Run σ) : Run σ :=
  { r with log := r.log ++ [Log.record level "runner" message] }

/-- Makes a sandbox. -/
def makeSandbox (c : Config) (r : Run σ) : Except RunError (Numbered × Run σ) :=
  match Sandbox.ofConfig c with
  | .error (text, fault) => .error (.pattern text fault)
  | .ok sandbox => .ok (⟨r.sandboxes, sandbox⟩, { r with sandboxes := r.sandboxes + 1 })

/-- Compiles code. -/
def compile (e : Engine σ) (code : String) (language : Language) (r : Run σ) :
    Except Raised String × Run σ :=
  let (outcome, state) := e.compile code language r.engine
  (outcome, { r with engine := state, calls := r.calls ++ [.compile code language] })

/-- Evaluates code in a sandbox. -/
def evaluate (e : Engine σ) (code : String) (s : Numbered) (r : Run σ) :
    Except Raised Unit × Numbered × Run σ :=
  let (outcome, sandbox, state) := e.evaluate s.number s.sandbox code r.engine
  (outcome, { s with sandbox := sandbox },
    { r with engine := state, calls := r.calls ++ [.evaluate code s.number] })

/-- Calls an action outside the sandbox. -/
def callAction (action : Nat → Option Failure) (r : Run σ) : Except Raised Unit × Run σ :=
  (match action r.hooks with
    | none => .ok ()
    | some f => .error (.other f),
    { r with hooks := r.hooks + 1, calls := r.calls ++ [.hook] })

/-- Calls the hook of a configuration, if it has one. -/
def callHook (c : Config) (e : Engine σ) (s : Numbered) (r : Run σ) :
    Except Raised Unit × Numbered × Run σ :=
  match c.beforeEach with
  | none => (.ok (), s, r)
  | some (.script source) => evaluate e (hookCode source) s r
  | some (.action action) =>
    let (outcome, r) := callAction action r
    (outcome, s, r)

/-- Compiles the code of an example where the configuration says so. -/
def compileIfEnabled (c : Config) (e : Engine σ) (snippet : Snippet) (r : Run σ) :
    Except Raised String × Run σ :=
  if c.transpile.enabled.isTrue then compile e snippet.code snippet.language r
  else (.ok snippet.code, r)

/-- Compiles and evaluates the code of an example. -/
def execute (c : Config) (e : Engine σ) (snippet : Snippet) (s : Numbered) (r : Run σ) :
    Except Raised Unit × Numbered × Run σ :=
  match compileIfEnabled c e snippet r with
  | (.error raised, r) => (.error raised, s, r)
  | (.ok code, r) => evaluate e code s r

/-- The result of an example that failed in the given way. -/
def failed (snippet : Snippet) : Raised → Result
  | .evaluation err => ⟨.fail, snippet, err.diagnostic, err.line, err.column⟩
  | raised => ⟨.fail, snippet, raised.describe, none, none⟩

/-- Logs a failure that is none of the code itself. -/
def noteUnexpected (snippet : Snippet) (raised : Raised) (r : Run σ) : Run σ :=
  match raised with
  | .other _ => r.note .debug ("Unexpected error in " ++ snippet.path)
  | _ => r

/-- The hook, then the example itself. -/
def attempt (c : Config) (e : Engine σ) (snippet : Snippet) (s : Numbered) (r : Run σ) :
    Result × Numbered × Run σ :=
  match callHook c e s r with
  | (.error raised, s, r) =>
    (⟨.fail, snippet, "before_each failed: " ++ raised.describe, none, none⟩, s, r)
  | (.ok (), s, r) =>
    match execute c e snippet s r with
    | (.error raised, s, r) => (failed snippet raised, s, noteUnexpected snippet raised r)
    | (.ok (), s, r) => (⟨.pass, snippet, "", none, none⟩, s, r)

/-- Announces the result of an example that was attempted. -/
def announce (result : Result) (r : Run σ) : Run σ :=
  let snippet := result.snippet
  let r := r.note .debug
    (snippet.path ++ ":" ++ toString snippet.startLine ++ " " ++ result.status.name)
  { r with announced := r.announced ++ [result] }

/-- The result of an example that is left out. -/
def skipped (snippet : Snippet) : Result := ⟨.skip, snippet, "", none, none⟩

/-- Runs an example in a given sandbox, unless it is left out. -/
def snippetIn (c : Config) (e : Engine σ) (snippet : Snippet) (s : Numbered) (r : Run σ) :
    Result × Numbered × Run σ :=
  if snippet.skip then (skipped snippet, s, r)
  else
    let (result, s, r) := attempt c e snippet s r
    (result, s, r.announce result)

/-- Runs an example in a sandbox of its own, unless it is left out. -/
def snippetAlone (c : Config) (e : Engine σ) (snippet : Snippet) (r : Run σ) :
    Except RunError (Result × Run σ) :=
  if snippet.skip then .ok (skipped snippet, r)
  else
    match makeSandbox c r with
    | .error err => .error err
    | .ok (s, r) =>
      let (result, _, r) := snippetIn c e snippet s r
      .ok (result, r)

/-- Runs examples one after the other in one sandbox. -/
def shared (c : Config) (e : Engine σ) (s : Numbered) (r : Run σ) :
    List Snippet → List Result × Run σ
  | [] => ([], r)
  | snippet :: more =>
    let (result, s, r) := snippetIn c e snippet s r
    let (results, r) := shared c e s r more
    (result :: results, r)

/-- Runs examples one after the other, each in a sandbox of its own. -/
def separate (c : Config) (e : Engine σ) (r : Run σ) :
    List Snippet → Except RunError (List Result × Run σ)
  | [] => .ok ([], r)
  | snippet :: more =>
    match snippetAlone c e snippet r with
    | .error err => .error err
    | .ok (result, r) =>
      match separate c e r more with
      | .error err => .error err
      | .ok (results, r) => .ok (result :: results, r)

/-- Runs the examples of a document. -/
def document (c : Config) (e : Engine σ) (parsed : Parsed) (r : Run σ) :
    Except RunError (List Result × Run σ) :=
  if parsed.shares then
    match makeSandbox c r with
    | .error err => .error err
    | .ok (s, r) =>
      .ok (shared c e s (r.note .debug ("Sharing one sandbox across " ++ parsed.path))
        parsed.snippets)
  else separate c e r parsed.snippets

/-- The outcome of a run: the results of all examples, and the documents without results. -/
structure Outcome (σ : Type) where
  results : List Result
  errors : List DocumentError
  run : Run σ

/-- A document to run: its path, and its examples or why there are none. -/
abbrev Source := String × Except ReadFailure Parsed

/-- Runs the examples of documents, in order. -/
def documents (c : Config) (e : Engine σ) (r : Run σ) : List Source → Except RunError (Outcome σ)
  | [] => .ok ⟨[], [], r⟩
  | (path, examples) :: more =>
    let r := r.note .info ("Testing " ++ path)
    match examples with
    | .error (.file err) => .error (.file err)
    | .error (.tag t) => .error (.tag t)
    | .error (.noted err) =>
      match documents c e (r.note .error ("Skipping " ++ path ++ ": " ++ err.message)) more with
      | .error stop => .error stop
      | .ok rest => .ok { rest with errors := err :: rest.errors }
    | .ok parsed =>
      match document c e parsed r with
      | .error stop => .error stop
      | .ok (results, r) =>
        match documents c e r more with
        | .error stop => .error stop
        | .ok rest => .ok { rest with results := results ++ rest.results }

/-- The documents at paths. -/
def sourcesAt (files : Files) (paths : List String) : List Source :=
  paths.map fun path => (path, Document.readExamples files path)

/-- The documents at places, which are known by their absolute paths. -/
def sourcesFound (files : Files) (places : List (List String)) : List Source :=
  places.map fun names => (files.absoluteText names, Document.readFound files names)

end Run

end DocExamples
