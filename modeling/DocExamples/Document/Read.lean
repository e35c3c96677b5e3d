import DocExamples.Document.Parse
import DocExamples.Files.Tree

/-!
Reading a document from a file.
-/

namespace DocExamples

/-- A document: its path and its text. -/
structure Document where
  path : String
  text : String
  deriving DecidableEq, Repr

/-- Why a document has no examples: an error that a run notes and passes over, or one that ends
the run. -/
inductive ReadFailure where
  | noted (e : DocumentError)
  | file (e : FileError)
  | tag (t : UnknownTag)
  deriving DecidableEq, Repr

namespace Document

/-- The document with a path and the given text, if it has one. -/
def ofText (path : String) : Except Files.TextError String → Except ReadFailure Document
  | .ok text => .ok ⟨path, text⟩
  | .error (.file e) => .error (.file e)
  | .error (.encoding f) => .error (.noted (.unreadable path f.reason.message))

/-- Reads the document at a path. -/
def read (files : Files) (raw : String) : Except ReadFailure Document :=
  let path := Path.ofString raw
  ofText path.text (files.readText path)

/-- The examples of a document. -/
def examples (d : Document) : Except ReadFailure Parsed :=
  match parseSnippets d.text d.path with
  | .ok parsed => .ok parsed
  | .error (.unclosedFence line) => .error (.noted (.unclosedFence d.path line))
  | .error (.unknownTag tag) => .error (.tag tag)

/-- Reads the examples of the document at a path. -/
def readExamples (files : Files) (raw : String) : Except ReadFailure Parsed :=
  match read files raw with
  | .error e => .error e
  | .ok d => d.examples

/-- Reads the examples of the document at a place, which is known by its absolute path. -/
def readFound (files : Files) (names : List String) : Except ReadFailure Parsed :=
  match ofText (files.absoluteText names) (files.textAt names) with
  | .error e => .error e
  | .ok d => d.examples

end Document

end DocExamples
