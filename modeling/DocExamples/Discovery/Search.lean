import DocExamples.Config.Basic
import DocExamples.Discovery.Glob
import DocExamples.Files.Home
import DocExamples.Text.Case

/-!
Finding the documents of a run.

A listed path may begin in a home directory. A listed file is a document whatever its name. Below a
listed directory the documents are the files whose names match an include glob in lower case, except
ignored ones and those in directories that are left out: directories of tools, and ignored
directories. Whatever lies below a directory that is left out is left out with it.
-/

namespace DocExamples.Discovery

/-- The directories that are left out everywhere. -/
def toolDirectories : List String :=
  [".git", ".hg", ".svn", ".venv", "venv", "node_modules", "__pycache__", ".pytest_cache",
    ".mypy_cache", ".tox", ".idea"]

/-- What a directory is searched for. -/
structure Search where
  includes : List String
  rules : List IgnoreRule

/-- Holds when a name matches an include glob. -/
def isIncluded (includes : List String) (name : String) : Bool :=
  includes.any fun glob => Glob.holds glob.toList (Text.lower name.toList)

/-- A path below the searched directory. -/
def pathOf (above : List String) (name : String) : List Char :=
  (Path.joinParts (above ++ [name])).toList

/-- Holds when a directory is searched. -/
def entersDirectory (s : Search) (above : List String) (name : String) : Bool :=
  !toolDirectories.contains name && !IgnoreRules.ignores s.rules (pathOf above name) true

/-- Holds when a file is a document. -/
def takesFile (s : Search) (above : List String) (name : String) : Bool :=
  isIncluded s.includes name && !IgnoreRules.ignores s.rules (pathOf above name) false

mutual

/-- The documents at one entry of a directory, as names below the searched one; `above` are the
names from the searched directory down to it. -/
def documentsAt (s : Search) (above : List String) (name : String) : FileTree → List (List String)
  | .file _ => if takesFile s above name then [above ++ [name]] else []
  | .directory entries =>
    if entersDirectory s above name then documentsIn s (above ++ [name]) entries else []

/-- The documents among entries. -/
def documentsIn (s : Search) (above : List String) :
    List (String × FileTree) → List (List String)
  | [] => []
  | (name, node) :: more => documentsAt s above name node ++ documentsIn s above more

end

/-- The rules of the ignore file of a directory, if it has one. -/
def ignoreFileRules (entries : List (String × FileTree)) : Except Utf8.Fault (List IgnoreRule) :=
  match entries.lookup ".gitignore" with
  | some (.file bytes) => (Files.textOf bytes).map IgnoreRules.ofText
  | _ => .ok []

/-- The documents below a directory. -/
def searchDirectory (includes excludes : List String) (entries : List (String × FileTree)) :
    Except Utf8.Fault (List (List String)) := do
  let rules ← ignoreFileRules entries
  let search : Search := ⟨includes, rules ++ IgnoreRules.ofLines (excludes.map String.toList)⟩
  return documentsIn search [] entries

/-- Why there are no documents to run. -/
inductive SearchError where
  /-- Nothing stands at a listed path. -/
  | notFound (path : String)
  /-- A listed path cannot be looked at. -/
  | file (e : FileError)
  /-- A listed path begins in a home directory that cannot be told. -/
  | home (fault : HomeFault)
  /-- An ignore file is not text. -/
  | encoding (f : Utf8.Fault)
  deriving DecidableEq, Repr

/-- The words for a path at which there is nothing. -/
def notFoundMessage (path : String) : String := "Document path not found: " ++ path

/-- How a listed path that leads to no place is reported. -/
def lostPath (raw : String) : Lost → SearchError
  | .home fault => .home fault
  | .file e => if e.fault.meansAbsent then .notFound raw else .file e

/-- The documents at a listed path, by their names from the root. -/
def documentsOf (includes excludes : List String) (files : Files) (raw : String) :
    Except SearchError (List (List String)) :=
  match files.locate (Path.ofString raw) with
  | .error lost => .error (lostPath raw lost)
  | .ok trail =>
    match Files.here files.tree trail with
    | .file _ => .ok [Files.names trail]
    | .directory entries =>
      match searchDirectory includes excludes entries with
      | .error f => .error (.encoding f)
      | .ok found => .ok (found.map (Files.names trail ++ ·))

/-- Puts a path into a sorted list of different paths. -/
def insertPath (p : List String) : List (List String) → List (List String)
  | [] => [p]
  | q :: more =>
    if p = q then q :: more
    else if Path.precedes p q then p :: q :: more
    else q :: insertPath p more

/-- The documents at listed paths, found in order and then sorted. -/
def collectFrom (includes excludes : List String) (files : Files) :
    List String → Except SearchError (List (List String))
  | [] => .ok []
  | raw :: more => do
    let found ← documentsOf includes excludes files raw
    let others ← collectFrom includes excludes files more
    return found.foldr insertPath others

/-- The documents of a run, as names from the root. Without include globs the usual ones hold. -/
def collect (includes excludes : List String) (files : Files) (paths : List String) :
    Except SearchError (List (List String)) :=
  collectFrom (if includes.isEmpty then defaultInclude else includes) excludes files paths

end DocExamples.Discovery
