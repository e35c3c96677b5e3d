import DocExamples.Data.Basic
import DocExamples.Number.Layout
import DocExamples.Text.Digit
import DocExamples.Yaml.Cursor
import DocExamples.Yaml.Implicit

/-!
Moments: dates, and dates with a time of day. A moment that no calendar has is a failure.
-/

namespace DocExamples.Yaml.Moment

open Implicit (Parts)

/-- How many days a month has. -/
def daysIn (year month : Nat) : Nat :=
  if month = 2 then
    if (year % 4 = 0 ∧ year % 100 ≠ 0) ∨ year % 400 = 0 then 29 else 28
  else if month = 4 ∨ month = 6 ∨ month = 9 ∨ month = 11 then 30 else 31

/-- Why there is no such date. -/
def dateFault (p : Parts) : Option String :=
  if p.year = 0 then some "year 0 is out of range"
  else if p.month = 0 ∨ 12 < p.month then some "month must be in 1..12"
  else if p.day = 0 ∨ daysIn p.year p.month < p.day then some "day is out of range for month"
  else none

/-- Why there is no such time of day. -/
def timeFault (time : Nat × Nat × Nat) : Option String :=
  if 23 < time.1 then some "hour must be in 0..23"
  else if 59 < time.2.1 then some "minute must be in 0..59"
  else if 59 < time.2.2 then some "second must be in 0..59"
  else none

/-- The distance of a zone from universal time, in seconds. -/
def zoneSeconds (zone : Bool × Nat × Nat) : Int :=
  let seconds : Int := 3600 * zone.2.1 + 60 * zone.2.2
  if zone.1 then -seconds else seconds

/-- A distance in days and seconds, as it is shown in words for a failure. -/
def distanceText (seconds : Int) : String :=
  let days := Int.fdiv seconds 86400
  let rest := Int.fmod seconds 86400
  let parts := (if days = 0 then [] else ["days=" ++ String.ofList (Number.intText days)]) ++
    (if rest = 0 then [] else ["seconds=" ++ String.ofList (Number.intText rest)])
  "datetime.timedelta(" ++ (if parts.isEmpty then "0" else ", ".intercalate parts) ++ ")"

/-- Why there is no such zone. -/
def zoneFault (zone : Bool × Nat × Nat) : Option String :=
  let seconds := zoneSeconds zone
  if seconds.natAbs < 86400 then none
  else some ("offset must be a timedelta strictly between -timedelta(hours=24) and " ++
    "timedelta(hours=24), not " ++ distanceText seconds ++ ".")

/-- A number with zeros in front. -/
def padded (width n : Nat) : String :=
  let digits := Number.natText n
  String.ofList (List.replicate (width - digits.length) '0' ++ digits)

/-- A date. -/
def dateText (p : Parts) : String :=
  padded 4 p.year ++ "-" ++ padded 2 p.month ++ "-" ++ padded 2 p.day

/-- The fraction of a second in millionths. -/
def fractionText (digits : List Char) : String :=
  let six := (digits ++ List.replicate 6 '0').take 6
  if six.all (· == '0') then "" else "." ++ String.ofList six

/-- A zone. -/
def zoneText (zone : Bool × Nat × Nat) : String :=
  let seconds := zoneSeconds zone
  let minutes := seconds.natAbs / 60
  (if seconds < 0 then "-" else "+") ++ padded 2 (minutes / 60) ++ ":" ++ padded 2 (minutes % 60)

/-- The words for a moment with a time of day. -/
def momentText (p : Parts) (time : Nat × Nat × Nat) : String :=
  dateText p ++ " " ++ padded 2 time.1 ++ ":" ++ padded 2 time.2.1 ++ ":" ++ padded 2 time.2.2 ++
    fractionText p.fraction ++ (p.zone.map zoneText).getD ""

/-- How many days lie between the start of the calendar and a date. -/
def dayNumber (p : Parts) : Nat :=
  let y := p.year - 1
  365 * y + y / 4 - y / 100 + y / 400 +
    ((List.range p.month).drop 1).foldl (fun n m => n + daysIn p.year m) p.day

/-- What a moment with a time of day is known by: its millionths of a second since the start of
the calendar, in universal time where a zone is known. -/
def identity (p : Parts) (time : Nat × Nat × Nat) : String :=
  let seconds : Int := ((dayNumber p * 24 + time.1) * 60 + time.2.1) * 60 + time.2.2
  let digits := Text.natOfDigits ((p.fraction ++ List.replicate 6 '0').take 6)
  (if p.zone.isSome then "universal " else "") ++
    toString ((seconds - (p.zone.map zoneSeconds).getD 0) * 1000000 + digits)

/-- The first of several faults, as a failure. -/
def checked (faults : List (Option String)) (d : Data) : Except Fault Data :=
  match faults.findSome? id with
  | some message => .error (.failed ⟨"ValueError", message⟩)
  | none => .ok d

/-- The value of a moment. -/
def value (p : Parts) : Except Fault Data :=
  match p.time with
  | none => checked [dateFault p] (.foreign "date" (dateText p) (dateText p) [])
  | some time =>
    checked [p.zone.bind zoneFault, dateFault p, timeFault time]
      (.foreign "datetime" (momentText p time) (identity p time) [])

end DocExamples.Yaml.Moment
