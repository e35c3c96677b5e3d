import DocExamples.Command.Run
import DocExamples.Report.Terminal
import DocExamples.Run.Libraries
import DocExamples.Yaml.Values

/-!
The command line. It reads the files that a run can reach, lets the library decide, and writes what
the run ends with.

No script library is linked into the program, so examples that are not skipped fail with the words
that say what is missing; documents, options and settings are checked as always.
-/

namespace DocExamples.Main

/-- How deep directories are read. -/
def deepest : Nat := 64

/-- Reads a part of the file system; what cannot be read is left out. -/
def readTree : Nat → String → IO (Option FileTree)
  | 0, _ => return none
  | fuel + 1, path => do
    match ← (readNames path).toBaseIO with
    | .ok names =>
      let entries ← names.filterMapM fun name => do
        return (← readTree fuel (path ++ "/" ++ name)).map fun node => (name, node)
      return some (.directory entries)
    | .error _ =>
      match ← (IO.FS.readBinFile path).toBaseIO with
      | .ok bytes => return some (.file bytes.toList)
      | .error _ => return none
where
  /-- The names in a directory. -/
  readNames (path : String) : IO (List String) := do
    let here := (← IO.currentDir) / path
    return ((← here.readDir).map (·.fileName)).toList

/-- The home directories by the names of their users. -/
def readHomes : IO (List (String × String)) := do
  let own := (← IO.getEnv "HOME").toList.map fun home => ("", home)
  match ← (IO.FS.readFile "/etc/passwd").toBaseIO with
  | .ok accounts => return own ++ Files.homesIn accounts
  | .error _ => return own

/-- Reads what stands at each of some absolute paths. -/
def readFiles (empty : Files) (paths : List (List String)) : IO Files := do
  let tree ← paths.foldlM (fun tree names => do
    match ← readTree deepest ("/" ++ Path.joinParts names) with
    | some node => return FileTree.put node names tree
    | none => return tree) empty.tree
  return { empty with tree := FileTree.put (.directory []) empty.working tree }

/-- The names from the root of a path that may begin in a home directory, with two dots taken back
from the text. -/
def namesOf (empty : Files) (path : Path) : Option (List String) :=
  match empty.expand path with
  | .ok path => empty.lexicalNames path
  | .error _ => none

/-- The places a run can reach: those on its command line, and the working directory where the
settings or the documents are looked for there. -/
def reached (empty : Files) (o : Command.RunOptions) : List (List String) :=
  (Command.configPath o.config :: o.paths.map Path.ofString).filterMap (namesOf empty) ++
    (o.logPath?.bind empty.lexicalNames).toList

/-- Writes what a command ends with. -/
def finish (e : Command.Ending) : IO UInt32 := do
  IO.print e.out
  IO.eprint e.err
  return UInt32.ofNat e.code

/-- Appends records to a log file. -/
def appendLog (path : Path) (records : List Log.Record) : IO Unit :=
  IO.FS.withFile path.text .append fun handle =>
    handle.putStr (String.join (records.map (·.fileText)))

/-- Runs documents as options say. -/
def runExamples (o : Command.RunOptions) : IO UInt32 := do
  let homes ← readHomes
  let empty : Files := {
    base := "", tree := .directory []
    working := (Path.ofString (toString (← IO.currentDir))).parts
    homes := fun user => homes.lookup user }
  let files ← readFiles empty (reached empty o)
  let surroundings : Command.Surroundings (Compiler Unit × Contexts Unit) := {
    files := files
    setups := fun _ => .error "no setup modules can be loaded"
    yaml := Yaml.library
    terminal := Terminal.library
    engine := fun c => Libraries.missing.engine c.transpile.presetNames
    start := ({ library := () }, { library := () }) }
  match Command.run surroundings o with
  | .error f => finish { code := 1, err := f.describe ++ "\n" }
  | .ok finished =>
    match o.logPath? with
    | some path => appendLog path finished.records
    | none => pure ()
    finish finished.ending

/-- What is said where the service is asked for. -/
def noService : String :=
  "FastAPI is required for service mode. Install it with \x60pip install fastapi uvicorn\x60."

end DocExamples.Main

/-- Runs the command that its arguments ask for. -/
def main (arguments : List String) : IO UInt32 :=
  match DocExamples.Command.request arguments with
  | .error ending => DocExamples.Main.finish ending
  | .ok (.serve _) =>
    DocExamples.Main.finish (DocExamples.Command.serviceFailed DocExamples.Main.noService)
  | .ok (.run o) => DocExamples.Main.runExamples o
