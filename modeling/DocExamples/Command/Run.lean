import DocExamples.Command.Options
import DocExamples.Config.Load
import DocExamples.Discovery.Search
import DocExamples.Log.Setup
import DocExamples.Report.Text
import DocExamples.Run.Runner

/-!
The commands from their words to their endings.

A run goes through its options, the log file, the configuration, the documents and their examples.
What is wrong with the words, the configuration or the paths ends it with a message; a failure that
none of these foresees leaves it without one.
-/

namespace DocExamples.Command

/-- What a command line asks for. -/
inductive Request where
  | run (o : RunOptions)
  | serve (o : ServeOptions)
  deriving DecidableEq, Repr

/-- How a command ends: its exit code and what it wrote. -/
structure Ending where
  code : Nat
  out : String := ""
  err : String := ""
  deriving DecidableEq, Repr

/-- The ending for a command line without options. -/
def stopped {σ : Type} (g : Grammar σ) : Stop → Ending
  | .help => { code := 0, out := g.helpText }
  | stop => { code := 2, err := g.errorText stop.message }

/-- Reads a command line. -/
def request (words : List String) : Except Ending Request :=
  match words with
  | "serve" :: more =>
    match serveGrammar.read {} more with
    | .ok o => .ok (.serve o)
    | .error stop => .error (stopped serveGrammar stop)
  | _ =>
    match runGrammar.read {} words with
    | .ok o => .ok (.run o)
    | .error stop => .error (stopped runGrammar stop)

/-- The ending for a service that cannot be started. -/
def serviceFailed (message : String) : Ending := { code := 1, err := message ++ "\n" }

/-- A run that was stopped as a failure of its own. -/
def runFailure : RunError → Failure
  | .file e => e.failure
  | .tag t => ⟨"KeyError", String.ofList (Text.quoted t.tag)⟩
  | .pattern text fault => fault.failure text

/-- A search that was stopped: the path at which there is nothing, or a failure. -/
def searchFailure : Discovery.SearchError → Failure
  | .notFound path => ⟨"FileNotFoundError", Discovery.notFoundMessage path⟩
  | .file e => e.failure
  | .home fault => fault.failure
  | .encoding f => Config.encodingFailure f

/-- A finished run: its ending, the log records it made, and the state of the engine. -/
structure Finished (σ : Type) where
  ending : Ending
  records : List Log.Record
  engine : σ

/-- What a run works with. -/
structure Surroundings (σ : Type) where
  files : Files
  setups : Config.SetupLoader
  /-- The library for the settings language. -/
  yaml : Config.YamlLibrary
  terminal : TerminalLibrary
  /-- The engine for a configuration. -/
  engine : Config → Engine σ
  /-- The state of the engine at the start. -/
  start : σ

variable {σ : Type}

/-- The file that log records are written to. -/
def RunOptions.logPath? (o : RunOptions) : Option Path :=
  match o.logFile with
  | some (.value path) => some path
  | _ => none

/-- Where log records go. -/
def RunOptions.logSetup (o : RunOptions) : Log.Setup := ⟨o.verbose, o.logPath?⟩

/-- The log records that stand on the terminal. -/
def terminalText (l : TerminalLibrary) (o : RunOptions) (records : List Log.Record) : String :=
  l.logText (o.logSetup.onTerminal records)

/-- A run that ends with a message. -/
def endedBy (s : Surroundings σ) (o : RunOptions) (records : List Log.Record) (message : String) :
    Finished σ :=
  ⟨{ code := 1, err := terminalText s.terminal o records ++ "mddoctest: " ++ message ++ "\n" },
    records, s.start⟩

/-- The lines that a run hands to the terminal: the markers of the results in the order in which
they were announced, and the report. -/
def runLines (l : TerminalLibrary) (outcome : Run.Outcome σ) : List Printed :=
  outcome.run.announced.flatMap Report.markers ++
    Report.lines l.escape outcome.results outcome.errors

/-- A run that came to its end. -/
def completed (l : TerminalLibrary) (o : RunOptions) (records : List Log.Record)
    (outcome : Run.Outcome σ) : Finished σ :=
  let records := records ++ outcome.run.log
  { ending := {
      code := if Report.succeeded outcome.results outcome.errors then 0 else 1
      out := l.text (runLines l outcome)
      err := terminalText l o records }
    records := records
    engine := outcome.run.engine }

/-- Runs documents with a configuration. -/
def runConfigured (s : Surroundings σ) (files : Files) (o : RunOptions)
    (records : List Log.Record) (c : Config) : Except Failure (Finished σ) :=
  match Discovery.collect c.includes c.excludes files o.paths with
  | .error (.notFound path) => .ok (endedBy s o records (Discovery.notFoundMessage path))
  | .error e => .error (searchFailure e)
  | .ok found =>
    match Run.documents c (s.engine c) { engine := s.start } (Run.sourcesFound files found) with
    | .error stop => .error (runFailure stop)
    | .ok outcome => .ok (completed s.terminal o records outcome)

/-- The configuration with what the options say about compiling. -/
def withOptions (o : RunOptions) (c : Config) : Config :=
  if o.noTranspile then { c with transpile := { c.transpile with enabled := .bool false } } else c

/-- The path of the configuration; an empty one stands for the working directory, and so does
nothing. -/
def configPath : Option (Given String) → Path
  | some (.value path) => Path.ofString path
  | _ => Path.ofString ""

/-- Runs documents among files. -/
def runAmong (s : Surroundings σ) (files : Files) (o : RunOptions) :
    Except Failure (Finished σ) :=
  match Config.load files s.setups s.yaml (configPath o.config) with
  | (records, .error (.config e)) => .ok (endedBy s o records e.message)
  | (_, .error (.unhandled f)) => .error f
  | (records, .ok built) =>
    match built.toConfig with
    | .error f => .error f
    | .ok c => runConfigured s files o records (withOptions o c)

/-- Runs documents as options say. -/
def run (s : Surroundings σ) (o : RunOptions) : Except Failure (Finished σ) :=
  match o.logFile with
  | none => runAmong s s.files o
  | some .nothing =>
    .error ⟨"TypeError", "expected str, bytes or os.PathLike object, not list"⟩
  | some (.value path) =>
    match s.files.openForAppend path with
    | .error e => .error e.failure
    | .ok files => runAmong s files o

end DocExamples.Command
