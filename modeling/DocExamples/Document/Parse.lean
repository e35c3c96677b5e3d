import DocExamples.Document.Snippet

/-!
Reading the examples of a document.

The document is read line by line. Lines outside examples matter only as fences and directives;
lines inside go to the open example. A fence that opens while an example is still open leaves that
example without its end, which is an error once the document has been read.
-/

namespace DocExamples

/-- One example of a document. -/
structure Snippet where
  path : String
  /-- The line of its opening fence, counted from one. -/
  startLine : Nat
  language : Language := .javascript
  code : String := ""
  /-- Whether a directive leaves it out of the run. -/
  skip : Bool := false
  deriving DecidableEq, Repr

/-- The examples of a document, in order. -/
structure Parsed where
  path : String
  snippets : List Snippet
  /-- Whether all examples of the document run in one sandbox. -/
  shares : Bool
  deriving DecidableEq, Repr

/-- Why a text has no examples. -/
inductive ParseError where
  /-- The fence opened on this line has no end. -/
  | unclosedFence (line : Nat)
  | unknownTag (tag : UnknownTag)
  deriving DecidableEq, Repr

/-- What has been read of a document. -/
structure Parse where
  /-- The examples before the open one, the newest first, and whether each was closed. -/
  older : List (Draft × Bool) := []
  /-- The open example. -/
  current : Option Draft := none
  shares : Bool := false
  /-- Whether a directive leaves the next example out of the run. -/
  skipNext : Bool := false
  deriving DecidableEq, Repr

namespace Parse

/-- Sets the open example aside. -/
def setAside (p : Parse) (closed : Bool) : List (Draft × Bool) :=
  match p.current with
  | none => p.older
  | some d => ((if closed then d.finishLines else d), closed) :: p.older

/-- Reads one line, whose kind is known. -/
def stepKind (p : Parse) (line : Line) (number : Nat) : Fence.Kind → Parse
  | .opening language =>
    { p with
      older := p.setAside false
      current := some (Draft.start number language p.skipNext)
      skipNext := false }
  | .closing => { p with older := p.setAside true, current := none }
  | .skipNext => { p with skipNext := true }
  | .share => { p with shares := true }
  | .body => { p with current := p.current.map (·.feed line) }

/-- Reads one line with its number. Carriage returns at its end do not belong to it. -/
def step (p : Parse) (line : Line) (number : Nat) : Except UnknownTag Parse :=
  let line := Text.dropTrailing (· == '\r') line
  (Fence.kind line).map (p.stepKind line number)

/-- Reads lines in order, the first of which has the given number. -/
def steps (p : Parse) (number : Nat) : List Line → Except UnknownTag Parse
  | [] => .ok p
  | line :: more =>
    match p.step line number with
    | .ok next => next.steps (number + 1) more
    | .error e => .error e

/-- The examples read so far, the open one last, and whether each was closed. -/
def drafts (p : Parse) : List (Draft × Bool) :=
  p.older.reverse ++ (p.current.map (·, false)).toList

end Parse

/-- An example as it is handed on. -/
def Draft.toSnippet (path : String) (d : Draft) : Snippet :=
  ⟨path, d.startLine, d.language, String.ofList d.code.text, d.skip⟩

/-- Reads the examples of a text. The first fence without an end decides the error. -/
def parseSnippets (text path : String) : Except ParseError Parsed :=
  match Parse.steps ⟨[], none, false, false⟩ 1 (Text.splitLines text.toList) with
  | .error e => .error (.unknownTag e)
  | .ok p =>
    match p.drafts.find? (!·.2) with
    | some (d, _) => .error (.unclosedFence d.startLine)
    | none => .ok ⟨path, p.drafts.map fun d => d.1.toSnippet path, p.shares⟩

/-!
## Documents without results

These are the documents that cannot be read, and those with an example that never ends.
-/

/-- Why a document contributes no examples. -/
inductive DocumentError where
  /-- The document is not text; the reason is that of the decoder. -/
  | unreadable (path reason : String)
  /-- The fence opened on a line has no end. -/
  | unclosedFence (path : String) (line : Nat)
  deriving DecidableEq, Repr

namespace DocumentError

/-- The document. -/
def path : DocumentError → String
  | unreadable path _ => path
  | unclosedFence path _ => path

/-- The words for a document without results. -/
def message : DocumentError → String
  | unreadable path reason => path ++ ": cannot be read as UTF-8 text (" ++ reason ++ ")"
  | unclosedFence path line =>
    path ++ ":" ++ toString line ++ ": code fence opened here is never closed"

end DocumentError

end DocExamples
