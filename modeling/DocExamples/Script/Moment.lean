import DocExamples.Number.Layout
import DocExamples.Text.Digit

/-!
Moments of scripts: milliseconds since the start of 1970, in universal time, on the calendar that
has leap years at all times.
-/

namespace DocExamples.Script.Moment

/-- The greatest distance of a moment from the start of 1970. -/
def limit : Nat := 8640000000000000

/-- A moment within the limit. -/
def clip (time : Int) : Option Int := if time.natAbs ≤ limit then some time else none

/-- A day on the calendar. -/
structure Day where
  year : Int
  month : Nat
  day : Nat
  deriving DecidableEq, Repr

/-- The days from the start of 1970 to a day. Years are counted from March, so that a leap day is
the last of its year, in cycles of four hundred. -/
def Day.toDays (d : Day) : Int :=
  let year := if d.month ≤ 2 then d.year - 1 else d.year
  let cycle := Int.fdiv year 400
  let inCycle := year - cycle * 400
  let fromMarch : Nat := (d.month + 9) % 12
  let inYear : Int := ((153 * fromMarch + 2) / 5 + d.day : Nat) - 1
  cycle * 146097 + (inCycle * 365 + inCycle / 4 - inCycle / 100 + inYear) - 719468

/-- The day so many days after the start of 1970. -/
def Day.ofDays (days : Int) : Day :=
  let shifted := days + 719468
  let cycle := Int.fdiv shifted 146097
  let inCycle := (shifted - cycle * 146097).toNat
  let yearInCycle := (inCycle - inCycle / 1460 + inCycle / 36524 - inCycle / 146096) / 365
  let inYear := inCycle - (365 * yearInCycle + yearInCycle / 4 - yearInCycle / 100)
  let fromMarch := (5 * inYear + 2) / 153
  let month := if fromMarch < 10 then fromMarch + 3 else fromMarch - 9
  ⟨yearInCycle + cycle * 400 + (if month ≤ 2 then 1 else 0), month,
    inYear - (153 * fromMarch + 2) / 5 + 1⟩

/-- A number with zeros in front. -/
def padded (width n : Nat) : List Char :=
  let digits := Number.natText n
  List.replicate (width - digits.length) '0' ++ digits

/-- The time of a day, in hours, minutes and seconds. -/
def clock (seconds : Nat) : List Char :=
  padded 2 (seconds / 3600) ++ ':' :: padded 2 (seconds / 60 % 60) ++ ':' :: padded 2 (seconds % 60)

/-- A moment cut into its day and the milliseconds of that day. -/
def split (time : Int) : Day × Nat :=
  (Day.ofDays (Int.fdiv time 86400000), (Int.fmod time 86400000).toNat)

/-- The year of a moment in standard form: four digits, or a sign and six. -/
def yearText (year : Int) : List Char :=
  if 0 ≤ year ∧ year ≤ 9999 then padded 4 year.natAbs
  else (if year < 0 then '-' else '+') :: padded 6 year.natAbs

/-- A moment in standard form. -/
def standardText (time : Int) : List Char :=
  let (day, rest) := split time
  yearText day.year ++ '-' :: padded 2 day.month ++ '-' :: padded 2 day.day ++
    'T' :: clock (rest / 1000) ++ '.' :: padded 3 (rest % 1000) ++ ['Z']

/-- The names of the days of the week; the start of 1970 was the first of them. -/
def weekdays : List String := ["Thu", "Fri", "Sat", "Sun", "Mon", "Tue", "Wed"]

/-- The names of the months. -/
def months : List String :=
  ["Jan", "Feb", "Mar", "Apr", "May", "Jun", "Jul", "Aug", "Sep", "Oct", "Nov", "Dec"]

/-- A moment in words. -/
def wordText (time : Int) : List Char :=
  let (day, rest) := split time
  let weekday := (Int.fmod (Int.fdiv time 86400000) 7).toNat
  (weekdays.getD weekday "").toList ++ ' ' :: (months.getD (day.month - 1) "").toList ++
    ' ' :: padded 2 day.day ++ ' ' :: (if day.year < 0 then ['-'] else []) ++
    padded 4 day.year.natAbs ++ ' ' :: clock (rest / 1000) ++ " GMT+0000".toList

/-! ## Reading -/

/-- Holds of the digits that moments are written with. -/
def isDigit (c : Char) : Bool := '0' ≤ c && c ≤ '9'

/-- A whole number, which needs a digit, and what follows it. -/
def number? (s : List Char) : Option (Int × List Char) :=
  match s.span isDigit with
  | ([], _) => none
  | (digits, rest) => some ((Text.natOfDigits digits : Int), rest)

/-- A whole number that may have a sign. -/
def signed? : List Char → Option (Int × List Char)
  | '-' :: rest => (number? rest).map fun (n, rest) => (-n, rest)
  | '+' :: rest => number? rest
  | s => number? s

/-- A whole number of two digits. -/
def pair? : List Char → Option (Int × List Char)
  | a :: b :: rest =>
    if isDigit a && isDigit b then some ((Text.natOfDigits [a, b] : Int), rest) else none
  | _ => none

/-- The milliseconds of a fraction of a second, rounded by its fourth digit. -/
def fraction? (s : List Char) : Option (Int × List Char) :=
  match s.span isDigit with
  | ([], _) => none
  | (digits, rest) =>
    let whole := Text.natOfDigits ((digits ++ ['0', '0']).take 3)
    let up := (digits[3]?).any fun c => '5' ≤ c
    some (whole + (if up then 1 else 0), rest)

/-- The parts of a moment: the year, the month and the day, then hours, minutes, seconds and
milliseconds. A part may be greater than the calendar or the clock has it; the rest is carried. -/
structure Parts where
  year : Int := 1970
  month : Int := 1
  day : Int := 1
  hours : Int := 0
  minutes : Int := 0
  seconds : Int := 0
  milliseconds : Int := 0

/-- The moment that parts name, so many minutes away from universal time. -/
def Parts.moment? (p : Parts) (zone : Int) : Option Int := do
  let year := p.year + Int.fdiv (p.month - 1) 12
  let month := (Int.fmod (p.month - 1) 12).toNat + 1
  let days := Day.toDays ⟨year, month, 1⟩ + (p.day - 1)
  let clock := p.hours * 3600000 + p.minutes * 60000 + p.seconds * 1000 + p.milliseconds
  let time ← clip (days * 86400000 + clock)
  clip (time - zone * 60000)

/-- A part of a moment in standard form: its mark, how it is read and where it goes. -/
abbrev Slot : Type :=
  Char × (List Char → Option (Int × List Char)) × (Parts → Int → Parts)

/-- The parts of a moment in standard form that follow the year. -/
def slots : List Slot := [
  ('-', number?, fun p n => { p with month := n }),
  ('-', number?, fun p n => { p with day := n }),
  ('T', number?, fun p n => { p with hours := n }),
  (':', number?, fun p n => { p with minutes := n }),
  (':', number?, fun p n => { p with seconds := n }),
  ('.', fraction?, fun p n => { p with milliseconds := n })]

/-- Reads parts, each behind its mark, up to the first mark that is missing. -/
def readSlots (p : Parts) (s : List Char) : List Slot → Option (Parts × List Char)
  | [] => some (p, s)
  | (mark, read, set) :: more =>
    match s with
    | c :: rest =>
      if c = mark then
        match read rest with
        | some (n, rest) => readSlots (set p n) rest more
        | none => none
      else some (p, s)
    | [] => some (p, s)

/-- The distance of a zone from universal time, in minutes. -/
def zone? : List Char → Option Int
  | [] | ['Z'] => some 0
  | sign :: rest => do
    let (hours, rest) ← pair? rest
    let (minutes, rest) ← pair? (match rest with
      | ':' :: rest => rest
      | rest => rest)
    if rest = [] ∧ (sign = '+' ∨ sign = '-') then
      some ((if sign = '-' then -1 else 1) * (60 * hours + minutes))
    else none

/-- The moment that a text in standard form names. -/
def ofStandard? (s : List Char) : Option Int := do
  let (year, s) ← signed? s
  let (parts, s) ← readSlots { year := year } s slots
  parts.moment? (← zone? s)

/-- Drops blanks between words. -/
def skip (s : List Char) : List Char := s.dropWhile (· = ' ')

/-- A month by its name. -/
def month? (s : List Char) : Option (Int × List Char) :=
  (months.findIdx? fun name => name.toList.isPrefixOf s).map fun i => ((i : Int) + 1, s.drop 3)

/-- The distance of a zone behind the first sign of a text, in minutes; zero without a sign. -/
def zoneWithin? (s : List Char) : Option Int :=
  match s.dropWhile fun c => c != '+' && c != '-' with
  | [] => some 0
  | sign :: rest => do
    let (hours, rest) ← pair? rest
    let (minutes, _) ← pair? rest
    some ((if sign = '-' then -1 else 1) * (60 * hours + minutes))

/-- A number behind a colon. -/
def afterColon? : List Char → Option (Int × List Char)
  | ':' :: rest => number? rest
  | _ => none

/-- The moment that a text in words names: a word that does not count, the day and the month in
either order, the year, and the time of the day. -/
def ofWords? (s : List Char) : Option Int := do
  let s := skip (s.dropWhile (· ≠ ' '))
  let (day, month, s) ←
    match number? s with
    | some (day, s) => (month? (skip s)).map fun (month, s) => (day, month, s)
    | none => do
      let (month, s) ← month? s
      let (day, s) ← number? (skip s)
      some (day, month, s)
  let (year, s) ← signed? (skip s)
  let (hours, s) ← number? (skip s)
  let (minutes, s) ← afterColon? s
  let (seconds, s) ← afterColon? s
  Parts.moment? ⟨year, month, day, hours, minutes, seconds, 0⟩ (← zoneWithin? s)

/-- The moment that a text names. A digit or a sign at its start tells standard form from words. -/
def ofText? (s : List Char) : Option Int :=
  if s.head?.any fun c => isDigit c || c = '+' || c = '-' then ofStandard? s else ofWords? s

end DocExamples.Script.Moment
