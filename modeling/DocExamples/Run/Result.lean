import DocExamples.Document.Parse

/-!
Results: what became of each example.
-/

namespace DocExamples

/-- What became of an example. -/
inductive Status where
  | pass
  | fail
  | skip
  deriving DecidableEq, Repr

/-- The name of a status. -/
def Status.name : Status → String
  | pass => "pass"
  | fail => "fail"
  | skip => "skip"

/-- The result of one example. A line is counted in the generated code. -/
structure Result where
  status : Status
  snippet : Snippet
  diagnostic : String := ""
  line : Option Nat := none
  column : Option Nat := none
  deriving DecidableEq, Repr

namespace Result

/-- Where in its document an example failed. -/
def location (r : Result) : String :=
  match r.line, r.column with
  | none, _ => r.snippet.path ++ ":" ++ toString r.snippet.startLine
  | some line, none => r.snippet.path ++ ":" ++ toString (r.snippet.startLine + line)
  | some line, some column =>
    r.snippet.path ++ ":" ++ toString (r.snippet.startLine + line) ++ ":" ++ toString column

end Result

/-- How many examples there were of each status. -/
structure Summary where
  passed : Nat
  failed : Nat
  skipped : Nat
  deriving DecidableEq, Repr

namespace Summary

/-- Counts results. -/
def ofResults (results : List Result) : Summary :=
  ⟨results.countP (·.status == .pass), results.countP (·.status == .fail),
    results.countP (·.status == .skip)⟩

/-- Holds when nothing failed. -/
def success (s : Summary) : Bool := s.failed == 0

end Summary

end DocExamples
