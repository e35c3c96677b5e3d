import DocExamples.Script.Moment
import DocExamples.Script.Native.Argument

/-!
The functions of moments. All of them count in universal time.
-/

namespace DocExamples.Script.Native

open Session

/-! ## Moments from numbers -/

/-- The moment of a number, cut to whole milliseconds. -/
def momentOf? (x : Number.Double) : Option Int := if x.isFinite then Moment.clip x.truncate else none

/-- The moment of a year, a month counted from zero, a day, and the time of the day. -/
def momentOfWholes? (parts : List Int) : Option Int :=
  let part (n : Nat) (default : Int) : Int := parts.getD n default
  Moment.Parts.moment?
    ⟨part 0 1970, part 1 0 + 1, part 2 1, part 3 0, part 4 0, part 5 0, part 6 0⟩ 0

/-- The year that a number names: two digits are a year of the last century. -/
def fullYear (year : Int) : Int := if 0 ≤ year ∧ year ≤ 99 then year + 1900 else year

/-- The moment of numbers that begin with a year. -/
def momentOfParts? (parts : List Number.Double) : Option Int :=
  if parts.all Number.Double.isFinite then
    match parts.map Number.Double.truncate with
    | year :: more => momentOfWholes? (fullYear year :: more)
    | [] => none
  else none

/-- The moment that arguments name. -/
def momentOf (call : Caller) : List Value → Act (Option Int)
  | [] => return some 0
  | [.date _ time] => return time
  | [v] => do
    match ← primitive call .any v with
    | .text s => return Moment.ofText? s.toList
    | v => return momentOf? (← take v.toNumber)
  | parts => do return momentOfParts? (← (parts.take 7).mapM (numberOf call))

/-! ## Parts of moments -/

/-- The day of the week, counted from Sunday. -/
def weekday (time : Int) : Int := Int.fmod (Int.fdiv time 86400000 + 4) 7

/-- The year, the month counted from zero, the day, hours, minutes, seconds and milliseconds. -/
def partsOf (time : Int) : List Int :=
  let (day, rest) := Moment.split time
  [day.year, (day.month : Int) - 1, day.day, (rest / 3600000 : Nat), (rest / 60000 % 60 : Nat),
    (rest / 1000 % 60 : Nat), (rest % 1000 : Nat)]

/-- A name without the words for universal time, which all names mean. -/
def withoutZone (name : String) : String := name.replace "UTC" ""

/-- The parts of moments by name, with the position of each. -/
def partNames : List (String × Nat) := [
  ("FullYear", 0), ("Month", 1), ("Date", 2), ("Hours", 3), ("Minutes", 4), ("Seconds", 5),
  ("Milliseconds", 6)]

/-- The parts that a function can set beside its own. -/
def settable : Nat → Nat
  | 0 => 3
  | 1 => 2
  | 2 => 1
  | n => 7 - n

/-- What a function tells of a moment, if it tells a number. -/
def told? (name : String) : Option (Int → Int) :=
  match withoutZone name with
  | "getTime" | "valueOf" => some id
  | "getDay" => some weekday
  | "getTimezoneOffset" => some fun _ => 0
  | "getYear" => some fun time => (partsOf time).getD 0 0 - 1900
  | name =>
    (partNames.find? fun part => "get" ++ part.1 == name).map fun part time =>
      (partsOf time).getD part.2 0

/-- A moment with other parts from a position on. -/
def withParts? (time : Option Int) (first : Nat) (parts : List Number.Double) : Option Int :=
  let time := if first = 0 then some (time.getD 0) else time
  if parts.isEmpty || !parts.all Number.Double.isFinite then none
  else
    time.bind fun time =>
      let known := partsOf time
      momentOfWholes? (known.take first ++ parts.map Number.Double.truncate ++
        known.drop (first + parts.length))

/-- Sets the moment of an object. -/
def setMoment (v : Value) (time : Option Int) : Act Value := do
  update (.date (v.id?.getD 0) time)
  return numberOrNan time

/-- Calls a function that sets parts of a moment. -/
def setting? (call : Caller) (name : String) (self : Value) (time : Option Int)
    (arguments : List Value) : Option (Act Value) :=
  match withoutZone name with
  | "setTime" => some do setMoment self (momentOf? (← numberOf call (arg arguments 0)))
  | "setYear" => some do
    let year ← numberOf call (arg arguments 0)
    let year := if year.isFinite then .ofInt (fullYear year.truncate) else year
    setMoment self (withParts? time 0 [year])
  | name =>
    (partNames.find? fun part => "set" ++ part.1 == name).map fun part => do
      let parts ← (arguments.take (settable part.2)).mapM (numberOf call)
      setMoment self (withParts? time part.2 parts)

/-! ## Texts of moments -/

/-- The name of the day of the week, and the parts of the day as texts. -/
def dayWords (time : Int) : List Char × List Char × List Char × List Char :=
  let (day, _) := Moment.split time
  let weekday := (Int.fmod (Int.fdiv time 86400000) 7).toNat
  ((Moment.weekdays.getD weekday "").toList, (Moment.months.getD (day.month - 1) "").toList,
    Moment.padded 2 day.day,
    (if day.year < 0 then ['-'] else []) ++ Moment.padded 4 day.year.natAbs)

/-- The time of a day, counted in half days. -/
def halfDayText (rest : Nat) : List Char :=
  let hours : Int := (rest / 3600000 + 1) % 12 - 1
  (if hours < 0 then Number.intText hours else Moment.padded 2 hours.natAbs) ++
    (Moment.clock (rest / 1000)).drop 2 ++ ' ' :: (if rest < 43200000 then 'A' else 'P') :: ['M']

/-- The text of a moment by the name of a function. -/
def momentText? (name : String) (time : Int) : Option (List Char) :=
  let (day, rest) := Moment.split time
  let (weekday, month, number, year) := dayWords time
  let dayText := Moment.padded 2 day.month ++ '/' :: number ++ '/' :: year
  match name with
  | "toString" => some (Moment.wordText time)
  | "toISOString" | "toJSON" => some (Moment.standardText time)
  | "toUTCString" | "toGMTString" =>
    some (weekday ++ ", ".toList ++ number ++ ' ' :: month ++ ' ' :: year ++
      ' ' :: Moment.clock (rest / 1000) ++ " GMT".toList)
  | "toDateString" =>
    some (weekday ++ ' ' :: month ++ ' ' :: number ++ ' ' :: year)
  | "toTimeString" => some (Moment.clock (rest / 1000) ++ " GMT+0000".toList)
  | "toLocaleDateString" => some dayText
  | "toLocaleTimeString" => some (halfDayText rest)
  | "toLocaleString" => some (dayText ++ ", ".toList ++ halfDayText rest)
  | _ => none

/-- Calls a function that moments share. -/
def sharedByMoments? (call : Caller) (name : String) (self : Value) (time : Option Int)
    (arguments : List Value) : Option (Act Value) :=
  match told? name, time, name with
  | some f, time, _ => some (return numberOrNan (time.map f))
  | none, none, "toISOString" => some (refuse .moment)
  | none, none, "toJSON" => some (return .null)
  | none, time, name =>
    match momentText? name (time.getD 0) with
    | some s => some (return textValue (if time.isSome then s else "Invalid Date".toList))
    | none => setting? call name self time arguments

/-- Calls a function for moments. -/
def moments? (call : Caller) (path : String) (arguments : List Value) : Option (Act Value) :=
  match path with
  | "Date.UTC" => some do
    return numberOrNan (momentOfParts? (← (arguments.take 7).mapM (numberOf call)))
  | "Date.parse" => some do
    return numberOrNan (Moment.ofText? (← spelling call (arg arguments 0)))
  | "Date" => some (return .text "")
  | _ => none

end DocExamples.Script.Native
