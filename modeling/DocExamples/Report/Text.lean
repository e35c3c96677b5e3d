import DocExamples.Document.Parse
import DocExamples.Report.Details
import DocExamples.Report.Markup
import DocExamples.Run.Result

/-!
The report of a run: the failures with their hints, the documents without results, the counts, and
the verdict. A run succeeds when no example failed and every document has results.
-/

namespace DocExamples.Report

open Markup (coloured hintLines)

/-- The markers of a result while the run goes on; skipped examples have none. -/
def markers (r : Result) : List Printed :=
  match r.status with
  | .pass => [{ markup := coloured "green" ['.'], ending := [] }]
  | .fail => [{ markup := coloured "red" ['x'], ending := [] }]
  | .skip => []

/-- The failures among results, in order. -/
def failures (results : List Result) : List Result := results.filter (·.status == .fail)

/-- The diagnostic of a failure as reports show it. -/
def detail (r : Result) : String := String.ofList (Details.relevant r.diagnostic.toList)

section Lines

variable (escape : List Char → List Char)

/-- The line that says where an example failed. -/
def locationLine (location : List Char) : Printed :=
  { markup := coloured "red" ("Failed - ".toList ++ escape location) }

/-- The lines for one failure. -/
def failureLines (r : Result) : List Printed :=
  let details := Details.relevant r.diagnostic.toList
  let hint := match Details.undefinedName? details with
    | none => []
    | some name => hintLines escape name
  locationLine escape r.location.toList :: { markup := escape details, highlight := false } ::
    hint.map fun line => { markup := line, highlight := false }

/-- The line for a document without results. -/
def errorLine (e : DocumentError) : Printed :=
  { markup := coloured "red" ("Error - ".toList ++ escape e.message.toList) }

/-- A line with a count. -/
def countLine (colour what : String) (n : Nat) : Printed :=
  { markup := coloured colour (what ++ ": " ++ toString n).toList }

/-- Holds when a run succeeded. -/
def succeeded (results : List Result) (errors : List DocumentError) : Bool :=
  (Summary.ofResults results).success && errors.isEmpty

/-- The line for a run that succeeded; it leaves a line free. -/
def successLine : Printed := { markup := coloured "green" "\nSuccess!".toList }

/-- The lines below the counts: the verdict, or what stands against it. -/
def verdictLines (summary : Summary) (errors : List DocumentError) : List Printed :=
  if summary.success && errors.isEmpty then [successLine]
  else
    (if summary.failed = 0 then [] else [countLine "red" "Failed" summary.failed]) ++
      (if errors.isEmpty then [] else [countLine "red" "Unparseable documents" errors.length])

/-- The lines of a report. -/
def lines (results : List Result) (errors : List DocumentError) : List Printed :=
  let summary := Summary.ofResults results
  [{ markup := [] }] ++ (failures results).flatMap (failureLines escape) ++
    errors.map (errorLine escape) ++ [countLine "green" "Passed" summary.passed] ++
    (if summary.skipped = 0 then [] else [countLine "yellow" "Skipped" summary.skipped]) ++
    verdictLines summary errors

end Lines

end DocExamples.Report
