import DocExamples.Failure
import DocExamples.Files.Path
import DocExamples.Text.Quoted
import DocExamples.Text.Utf8

/-!
Files: a tree of directories and what they hold.

A path is followed name by name from the working directory or from the root of the tree. Following
fails where a name does not exist or is too long, and where something that is no directory would
have to hold one.
-/

namespace DocExamples

/-- A file with its bytes, or a directory with its entries. -/
inductive FileTree where
  | file (bytes : List UInt8)
  | directory (entries : List (String × FileTree))
  deriving Inhabited

/-- What goes wrong when a path is followed or read. -/
inductive FileFault where
  | missing
  | notDirectory
  | isDirectory
  | nameTooLong
  /-- A name holds the character that ends names. -/
  | nullInName
  deriving DecidableEq, Repr

/-- Holds of a fault that says no more than that nothing can be found at a path. -/
def FileFault.meansAbsent (fault : FileFault) : Bool := fault != .nameTooLong

/-- A fault at a path, which is given as it was written. -/
structure FileError where
  fault : FileFault
  path : String
  deriving DecidableEq, Repr

namespace FileError

/-- The words for a fault. -/
def message (e : FileError) : String :=
  let at_ (what : String) := what ++ ": " ++ Text.quotedString e.path
  match e.fault with
  | .missing => at_ "[Errno 2] No such file or directory"
  | .notDirectory => at_ "[Errno 20] Not a directory"
  | .isDirectory => at_ "[Errno 21] Is a directory"
  | .nameTooLong => at_ "[Errno 36] File name too long"
  | .nullInName => "embedded null byte"

/-- A fault as a failure. -/
def failure (e : FileError) : Failure :=
  ⟨match e.fault with
    | .missing => "FileNotFoundError"
    | .notDirectory => "NotADirectoryError"
    | .isDirectory => "IsADirectoryError"
    | .nameTooLong => "OSError"
    | .nullInName => "ValueError", e.message⟩

end FileError

namespace FileTree

/-- The entry of a directory. -/
def entry? (name : String) : FileTree → Option FileTree
  | directory entries => entries.lookup name
  | file _ => none

/-- Puts a node at the end of names; directories on the way are made. An empty directory that is put
where a directory stands adds nothing. -/
def put (node : FileTree) : List String → FileTree → FileTree
  | [], old =>
    match node, old with
    | directory [], directory entries => directory entries
    | node, _ => node
  | name :: more, old =>
    let entries := match old with
      | .directory entries => entries
      | .file _ => []
    let child := put node more ((entries.lookup name).getD (.directory []))
    if (entries.lookup name).isSome then
      .directory (entries.map fun e => if e.1 = name then (name, child) else e)
    else .directory (entries ++ [(name, child)])

end FileTree

/-- The files that a run can see. They may be a part of all files; then nothing can be reached by
an absolute path or by two dots above the root of the tree. -/
structure Files where
  /-- How the root of the tree is written in front of absolute paths; empty if the tree holds all
  files. -/
  base : String
  tree : FileTree
  /-- The names from the root down to the working directory. -/
  working : List String := []
  /-- The home directories by the names of their users; under the empty name stands that of the
  user whose run it is. -/
  homes : String → Option String := fun _ => none

namespace Files

/-- A place in the tree: the names from the root down to it, the deepest first, each with what it
holds. -/
abbrev Trail := List (String × FileTree)

/-- What stands at a place. -/
def here (root : FileTree) : Trail → FileTree
  | [] => root
  | (_, node) :: _ => node

/-- The place above a place. The root of all files is above itself. -/
def above (whole : Bool) : Trail → Except FileFault Trail
  | [] => if whole then .ok [] else .error .missing
  | _ :: trail => .ok trail

/-- How many bytes a name may have. -/
def longestName : Nat := 255

/-- How many bytes a path may have. -/
def longestPath : Nat := 4095

/-- Holds of a name that no directory can hold. -/
def isTooLong (name : String) : Bool := longestName < name.utf8ByteSize

/-- What is wrong with a path before any file is looked at. -/
def pathFault? (p : Path) : Option FileFault :=
  if p.parts.any fun name => name.toList.contains (Char.ofNat 0) then some .nullInName
  else if longestPath < p.text.utf8ByteSize then some .nameTooLong
  else none

/-- Follows names from a place. Two dots lead back to the directory above; `whole` says whether the
tree holds all files. -/
def follow (whole : Bool) (root : FileTree) (trail : Trail) : List String → Except FileFault Trail
  | [] => .ok trail
  | name :: more =>
    match here root trail with
    | .file _ => .error .notDirectory
    | .directory entries =>
      if name = ".." then
        match above whole trail with
        | .error fault => .error fault
        | .ok trail => follow whole root trail more
      else if isTooLong name then .error .nameTooLong
      else match entries.lookup name with
        | none => .error .missing
        | some node => follow whole root ((name, node) :: trail) more

/-- The place of a path. -/
def find (f : Files) (p : Path) : Except FileFault Trail :=
  let whole := f.base = ""
  match pathFault? p with
  | some fault => .error fault
  | none =>
    if p.isAbsolute then
      if whole then follow whole f.tree [] p.parts else .error .missing
    else
      match follow whole f.tree [] f.working with
      | .error fault => .error fault
      | .ok trail => follow whole f.tree trail p.parts

/-- The names from the root down to a place. -/
def names (trail : Trail) : List String := (trail.map (·.1)).reverse

/-- The absolute path of a place. -/
def absoluteText (f : Files) (names : List String) : String :=
  if names = [] then (if f.base = "" then "/" else f.base)
  else f.base ++ "/" ++ Path.joinParts names

/-- The names of an absolute path that is written like a path of these files, with two dots taken
back from the text alone; `none` for a path outside. -/
def lexicalNames (f : Files) (p : Path) : Option (List String) :=
  let back (names : Option (List String)) (name : String) : Option (List String) :=
    if name = ".." then
      match names with
      | some (_ :: above) => some above
      | _ => if f.base = "" then names else none
    else names.map (name :: ·)
  if p.isAbsolute && f.base ≠ "" then none
  else
    let start := if p.isAbsolute then [] else f.working.reverse
    (p.parts.foldl back (some start)).map List.reverse

/-- Opens a file for writing at its end: it has to be in a directory and not be one itself, and it
is made if it is not there. -/
def openForAppend (f : Files) (p : Path) : Except FileError Files :=
  match f.lexicalNames p with
  | none => .ok f
  | some names =>
    let path := f.absoluteText names
    let name := names.getLastD ""
    let above : Except FileFault FileTree := match pathFault? ⟨1, names⟩ with
      | some fault => .error fault
      | none => (follow (f.base = "") f.tree [] names.dropLast).map (here f.tree)
    match above with
    | .error fault => .error ⟨fault, path⟩
    | .ok (.file _) => .error ⟨.notDirectory, path⟩
    | .ok (.directory entries) =>
      match entries.lookup name with
      | some (.file _) => .ok f
      | some (.directory _) => .error ⟨.isDirectory, path⟩
      | none =>
        if names = [] then .error ⟨.isDirectory, path⟩
        else if isTooLong name then .error ⟨.nameTooLong, path⟩
        else .ok { f with tree := FileTree.put (.file []) names f.tree }

/-- The bytes of what was found on a path, which is written as given. -/
def bytesOf (path : String) : Except FileFault FileTree → Except FileError (List UInt8)
  | .error fault => .error ⟨fault, path⟩
  | .ok (.file bytes) => .ok bytes
  | .ok (.directory _) => .error ⟨.isDirectory, path⟩

/-- The bytes of the file at a path. -/
def readBytes (f : Files) (p : Path) : Except FileError (List UInt8) :=
  bytesOf p.text ((f.find p).map (here f.tree))

/-- Why a file has no text. -/
inductive TextError where
  | file (e : FileError)
  | encoding (f : Utf8.Fault)
  deriving DecidableEq, Repr

/-- The text that bytes stand for. -/
def textOf (bytes : List UInt8) : Except Utf8.Fault String :=
  (Utf8.decode bytes).map fun text => String.ofList (Text.unifyLineEnds text)

/-- The text that was read, if anything was. -/
def textRead : Except FileError (List UInt8) → Except TextError String
  | .error e => .error (.file e)
  | .ok bytes => (textOf bytes).mapError .encoding

/-- The text of the file at a path. -/
def readText (f : Files) (p : Path) : Except TextError String := textRead (f.readBytes p)

/-- The text of the file at a place. -/
def textAt (f : Files) (names : List String) : Except TextError String :=
  textRead (bytesOf (f.absoluteText names) ((follow false f.tree [] names).map (here f.tree)))

end Files

end DocExamples
