import DocExamples.Config.Settings
import DocExamples.Files.Home
import DocExamples.Sandbox.ModuleFile

/-!
Loading the configuration at a path: a file, or a directory with a settings file in it. A directory
without one has the usual configuration.
-/

namespace DocExamples.Config

/-- The names of settings files, the first choice first. -/
def fileNames : List String := [".mddoctest.yml", ".mddoctest.yaml", "mddoctest_setup.py"]

/-- The settings that a setup module may give. -/
def setupNames : List String :=
  ["globals", "require", "regex_require", "before_each", "transpile", "include", "exclude",
    "config"]

/-- What loading a setup module gives: its names with their values, or the words for its failure.
The module is known by its absolute path. -/
abbrev SetupLoader := String → Except String Settings

/-- The settings file in a directory, by its names from the root. -/
def fileIn? (directory : List String) (entries : List (String × FileTree)) :
    Option (List String × FileTree) :=
  fileNames.findSome? fun name => (entries.lookup name).map fun node => (directory ++ [name], node)

/-- The words for bytes that are not text. -/
def encodingFailure (f : Utf8.Fault) : Failure := ⟨"UnicodeDecodeError", f.message⟩

/-- How a failure to read a file ends the loading of a configuration. -/
def textError : Files.TextError → LoadError
  | .file e => .unhandled e.failure
  | .encoding f => .unhandled (encodingFailure f)

/-- A path below a directory that is given by its names. -/
def pathBelow (files : Files) (directory : List String) (p : Path) : String :=
  if p.isAbsolute then p.text
  else if p.parts = [] then files.absoluteText directory
  else files.absoluteText directory ++ "/" ++ Path.joinParts p.parts

/-- The bytes of the file at a path below a directory. -/
def bytesBelow (files : Files) (directory : List String) (p : Path) :
    Except FileError (List UInt8) :=
  let inside : Files := { files with working := directory }
  Files.bytesOf (pathBelow files directory p) ((inside.find p).map (Files.here files.tree))

/-- The expression of a module file that a settings file in a directory names. -/
def readModule (files : Files) (directory : List String) (name : String) :
    Except LoadError String :=
  let path := Path.ofString name
  match bytesBelow files directory path with
  | .error e =>
    .error (if e.fault = .nullInName then .unhandled e.failure
      else .config (.unreadableModule (pathBelow files directory path) e.message))
  | .ok bytes =>
    match Files.textOf bytes with
    | .error f => .error (.unhandled (encodingFailure f))
    | .ok body => .ok (moduleFileSource body)

/-- The settings in a settings file. -/
def readSettings (files : Files) (loader : SetupLoader) (yaml : YamlLibrary)
    (names : List String) : Except LoadError Settings :=
  let name := names.getLastD ""
  let path := files.absoluteText names
  if Path.hasSuffix ".py" name then
    match Files.bytesOf path ((Files.follow false files.tree [] names).map (Files.here files.tree)) with
    | .error e => .error (.config (.importFailed name e.message))
    | .ok _ =>
      match loader path with
      | .error message => .error (.config (.importFailed name message))
      | .ok settings => .ok (settings.filter fun s => setupNames.contains s.1)
  else
    match files.textAt names with
    | .error e => .error (textError e)
    | .ok text => readText yaml name (readModule files names.dropLast) text

/-- The record of the loading of a settings file. -/
def loadingRecord (path : String) : Log.Record :=
  Log.record .debug "config" ("Loading configuration from " ++ path)

/-- Loads the configuration in a settings file. -/
def loadFile (files : Files) (loader : SetupLoader) (yaml : YamlLibrary) (names : List String) :
    List Log.Record × Except LoadError Built :=
  let loading := loadingRecord (files.absoluteText names)
  match readSettings files loader yaml names with
  | .error e => ([loading], .error e)
  | .ok settings =>
    let (warnings, config) := build settings (files.absoluteText names.dropLast)
    (loading :: warnings, config)

/-- How a path that leads to no place ends the loading of a configuration. -/
def lostError : Lost → LoadError
  | .home fault => .unhandled fault.failure
  | .file e => if e.fault.meansAbsent then .config (.notFound e.path) else .unhandled e.failure

/-- Loads the configuration at a path, which may begin in a home directory. -/
def load (files : Files) (loader : SetupLoader) (yaml : YamlLibrary) (path : Path) :
    List Log.Record × Except LoadError Built :=
  match files.locate path with
  | .error lost => ([], .error (lostError lost))
  | .ok trail =>
    let names := Files.names trail
    match Files.here files.tree trail with
    | .file _ => loadFile files loader yaml names
    | .directory entries =>
      match fileIn? names entries with
      | none => ([], .ok (.ofParts { root := files.absoluteText names }))
      | some (names, _) => loadFile files loader yaml names

end DocExamples.Config
