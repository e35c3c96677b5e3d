import DocExamples.Command.Read
import DocExamples.Command.Switch
import DocExamples.Files.Path
import DocExamples.Number.Limit

/-!
The two commands: running the examples of documents, and serving runs over a network. The usage and
help texts of a command come first.
-/

namespace DocExamples.Command.Grammar

variable {σ : Type}

/-- A switch in the usage line. -/
def usageOf (s : Switch σ) : String := "[" ++ s.withPlaceholder (s.names.headD "") ++ "]"

/-- The usage line. -/
def usage (g : Grammar σ) : String :=
  let rest := match g.rest with
    | none => []
    | some r => ["[" ++ r.name ++ " ...]"]
  "usage: " ++ " ".intercalate (g.program :: g.switches.map usageOf ++ rest) ++ "\n"

/-- The names of a switch in the help text. -/
def invocation (s : Switch σ) : String := ", ".intercalate (s.names.map s.withPlaceholder)

/-- The entries of the help text: for what is no switch, and for the switches. -/
def restEntries (g : Grammar σ) : List (String × String) :=
  match g.rest with
  | none => []
  | some r => [(r.name, r.help)]

/-- The entries of the help text for the switches. -/
def switchEntries (g : Grammar σ) : List (String × String) :=
  g.switches.map fun s => (invocation s, s.help)

/-- The width of the column of names. -/
def nameWidth (g : Grammar σ) : Nat :=
  ((g.restEntries ++ g.switchEntries).map fun e => e.1.length).foldl max 0

/-- One entry of the help text. -/
def entryText (width : Nat) (e : String × String) : String :=
  "  " ++ e.1 ++ String.ofList (List.replicate (width - e.1.length + 2) ' ') ++ e.2 ++ "\n"

/-- The entries under a title; nothing where there are none. -/
def sectionText (width : Nat) (title : String) (entries : List (String × String)) : String :=
  if entries.isEmpty then ""
  else title ++ ":\n" ++ String.join (entries.map (entryText width)) ++ "\n"

/-- The help text. -/
def helpText (g : Grammar σ) : String :=
  let sections := sectionText g.nameWidth "positional arguments" g.restEntries ++
    sectionText g.nameWidth "options" g.switchEntries
  let epilog := match g.epilog with
    | none => ""
    | some text => text ++ "\n"
  g.usage ++ "\n" ++ g.description ++ "\n\n" ++
    (if epilog = "" then String.ofList (sections.toList.dropLast) else sections ++ epilog)

/-- The text for a command line that cannot be read. -/
def errorText (g : Grammar σ) (message : String) : String :=
  g.usage ++ g.program ++ ": error: " ++ message ++ "\n"

end DocExamples.Command.Grammar

/-! ## The options of the two commands -/

namespace DocExamples.Command

/-- The options of a run. -/
structure RunOptions where
  verbose : Bool := false
  /-- The documents and directories to run. -/
  paths : List String := ["."]
  /-- Where the configuration is. -/
  config : Option (Given String) := none
  /-- Whether examples run as they are written. -/
  noTranspile : Bool := false
  logFile : Option (Given Path) := none
  deriving DecidableEq, Repr

/-- The options of the service. -/
structure ServeOptions where
  verbose : Bool := false
  host : Given String := .value "127.0.0.1"
  port : Given Int := .value 8000
  deriving DecidableEq, Repr

/-- The switch for the help text. -/
def helpSwitch {σ : Type} : Switch σ := ⟨["-h", "--help"], .help, "show this help message and exit"⟩

/-- The switch for more log records. -/
def verboseSwitch {σ : Type} (change : σ → σ) : Switch σ :=
  ⟨["-v", "--verbose"], .set change, "Increase log verbosity for troubleshooting."⟩

/-- The command that runs examples. Without paths the usual one stays. -/
def runGrammar : Grammar RunOptions where
  program := "mddoctest"
  description := "Run the JavaScript examples embedded in Markdown documents as tests."
  switches := [
    helpSwitch,
    verboseSwitch fun o => { o with verbose := true },
    ⟨["--config"], .take "CONFIG" "str" fun v => some fun o => { o with config := some v },
      "Configuration file or directory (defaults to the current directory)."⟩,
    ⟨["--no-transpile"], .set fun o => { o with noTranspile := true },
      "Evaluate snippets as written instead of transpiling them first."⟩,
    ⟨["--log-file"],
      .take "LOG_FILE" "Path" fun v => (v.read fun t => some (Path.ofString t)).map fun p o =>
        { o with logFile := some p },
      "Write a debug log of the run to this file."⟩]
  rest := some ⟨"paths",
    "Markdown files or directories to test (defaults to current directory).",
    fun words o => if words.isEmpty then o else { o with paths := words }⟩
  epilog := some "Use \x60mddoctest serve --help\x60 for service mode."

/-- The command that serves runs. -/
def serveGrammar : Grammar ServeOptions where
  program := "mddoctest serve"
  description := "Expose doc-test runs over HTTP."
  switches := [
    helpSwitch,
    verboseSwitch fun o => { o with verbose := true },
    ⟨["--host"], .take "HOST" "str" fun v => some fun o => { o with host := v },
      "Interface to bind."⟩,
    ⟨["--port"],
      .take "PORT" "int" fun v => (v.read fun t => Text.readInt? t.toList).map fun n o =>
        { o with port := n },
      "Port to listen on."⟩]

end DocExamples.Command
