import DocExamples.Yaml.Node

/-!
What a text without quotes stands for: a number, a truth value, a moment, nothing, or itself. The
test of a form allows one line feed behind it.
-/

namespace DocExamples.Yaml.Implicit

/-- Drops a sign. -/
def dropSign : List Char → List Char
  | '-' :: rest | '+' :: rest => rest
  | s => s

/-- Holds of a text of at least one character, all of which satisfy a test. -/
def someAll (p : Char → Bool) (s : List Char) : Bool := !s.isEmpty && s.all p

/-- Holds of decimal digits and the low lines between them. -/
def isDigitOrLine (c : Char) : Bool := c.isDigit || c == '_'

/-- Holds of hexadecimal digits and the low lines between them. -/
def isHexOrLine (c : Char) : Bool :=
  isDigitOrLine c || ('a' ≤ c && c ≤ 'f') || ('A' ≤ c && c ≤ 'F')

/-- Holds of a group of a number in base sixty. -/
def isGroup : List Char → Bool
  | [a] => a.isDigit
  | [a, b] => '0' ≤ a && a ≤ '5' && b.isDigit
  | _ => false

/-- The groups behind the first part of a number in base sixty, each behind a colon, and what
follows them. The number of characters bounds the steps. -/
def dropGroups (fuel : Nat) : List Char → Option (List Char)
  | ':' :: rest =>
    match fuel with
    | 0 => none
    | fuel + 1 =>
      if isGroup (rest.takeWhile Char.isDigit) then
        match rest.dropWhile Char.isDigit with
        | ':' :: more => dropGroups fuel (':' :: more)
        | rest => some rest
      else none
  | _ => none

/-- What follows the groups of a number in base sixty, if there are any. -/
def afterGroups? (s : List Char) : Option (List Char) := dropGroups s.length s

/-- Holds of a whole number without its sign. -/
def isMagnitude : List Char → Bool
  | '0' :: 'b' :: rest => someAll (fun c => c == '0' || c == '1' || c == '_') rest
  | '0' :: 'x' :: rest => someAll isHexOrLine rest
  | '0' :: rest => rest.all fun c => ('0' ≤ c && c ≤ '7') || c == '_'
  | c :: rest =>
    c.isDigit && match rest.dropWhile isDigitOrLine with
      | [] => true
      | s => afterGroups? s == some []
  | [] => false

/-- Holds of a whole number. -/
def isInt (s : List Char) : Bool := isMagnitude (dropSign s)

/-- Holds of an exponent, or of nothing. Its sign has to be written. -/
def isExponent : List Char → Bool
  | [] => true
  | e :: s :: digits =>
    (e == 'e' || e == 'E') && (s == '-' || s == '+') && someAll Char.isDigit digits
  | _ => false

/-- Holds of a point with digits behind it and an exponent. -/
def isFraction (withExponent : Bool) : List Char → Bool
  | '.' :: rest =>
    let after := rest.dropWhile isDigitOrLine
    after.isEmpty || (withExponent && isExponent after)
  | _ => false

/-- Holds of a number with a point and digits in front of it, without its sign. -/
def isDecimal : List Char → Bool
  | c :: rest =>
    c.isDigit &&
      (let after := rest.dropWhile isDigitOrLine
      isFraction true after || (afterGroups? after).any (isFraction false))
  | [] => false

/-- Holds of a number that starts with its point. -/
def isPointDecimal : List Char → Bool
  | '.' :: c :: rest => c.isDigit && isExponent (rest.dropWhile isDigitOrLine)
  | _ => false

/-- Holds of one of the words for numbers without digits. -/
def isNamedFloat (s : List Char) : Bool :=
  [".inf", ".Inf", ".INF"].contains (String.ofList (dropSign s)) ||
    [".nan", ".NaN", ".NAN"].contains (String.ofList s)

/-- Holds of a number with a point. -/
def isFloat (s : List Char) : Bool :=
  isDecimal (dropSign s) || isPointDecimal s || isNamedFloat s

/-- The words for truth values. -/
def boolWords : List (String × Bool) :=
  [("yes", true), ("Yes", true), ("YES", true), ("no", false), ("No", false), ("NO", false),
    ("true", true), ("True", true), ("TRUE", true), ("false", false), ("False", false),
    ("FALSE", false), ("on", true), ("On", true), ("ON", true), ("off", false), ("Off", false),
    ("OFF", false)]

/-- The words for nothing. -/
def nullWords : List String := ["~", "null", "Null", "NULL", ""]

/-- A moment: its parts as they are written. -/
structure Parts where
  year : Nat
  month : Nat
  day : Nat
  /-- Hour, minute and second. -/
  time : Option (Nat × Nat × Nat) := none
  /-- The digits of the fraction of a second. -/
  fraction : List Char := []
  /-- The distance from universal time: whether it is behind, hours and minutes. -/
  zone : Option (Bool × Nat × Nat) := none
  /-- Whether the month and the day are written with two digits. -/
  full : Bool
  deriving DecidableEq, Repr

/-- A number of at most `most` digits and at least `least`. -/
def number? (least most : Nat) (s : List Char) : Option (Nat × List Char) :=
  let digits := s.takeWhile Char.isDigit
  if least ≤ digits.length && digits.length ≤ most then
    some (digits.foldl (fun n d => 10 * n + (d.toNat - 48)) 0, s.dropWhile Char.isDigit)
  else none

/-- The rest of a text behind a given character. -/
def behind? (c : Char) : List Char → Option (List Char)
  | x :: rest => if x == c then some rest else none
  | [] => none

/-- Holds of a blank or a tab. -/
def isSpace (c : Char) : Bool := c == ' ' || c == '\t'

/-- The zone at the end of a moment: nothing, the letter for universal time, or a distance. -/
def zone? (s : List Char) : Option (Option (Bool × Nat × Nat)) :=
  match s with
  | [] => some none
  | _ =>
    match s.dropWhile isSpace with
    | ['Z'] => some (some (false, 0, 0))
    | sign :: rest =>
      if sign == '-' || sign == '+' then do
        let (hours, rest) ← number? 1 2 rest
        match rest with
        | [] => return some (sign == '-', hours, 0)
        | _ =>
          let (minutes, rest) ← number? 2 2 (← behind? ':' rest)
          if rest.isEmpty then return some (sign == '-', hours, minutes) else none
      else none
    | [] => none

/-- The time of day behind a date. -/
def withTime? (date : Parts) (s : List Char) : Option Parts := do
  let rest ← match s with
    | 'T' :: rest | 't' :: rest => some rest
    | c :: _ => if isSpace c then some (s.dropWhile isSpace) else none
    | [] => none
  let (hour, rest) ← number? 1 2 rest
  let (minute, rest) ← number? 2 2 (← behind? ':' rest)
  let (second, rest) ← number? 2 2 (← behind? ':' rest)
  let (fraction, rest) := match rest with
    | '.' :: rest => (rest.takeWhile Char.isDigit, rest.dropWhile Char.isDigit)
    | rest => ([], rest)
  let zone ← zone? rest
  return { date with time := some (hour, minute, second), fraction := fraction, zone := zone }

/-- The parts of a moment. -/
def parts? (s : List Char) : Option Parts := do
  let (year, rest) ← number? 4 4 s
  let (month, rest) ← number? 1 2 (← behind? '-' rest)
  let dayText ← behind? '-' rest
  let (day, after) ← number? 1 2 dayText
  let full := s.length - after.length == 10
  let date : Parts := { year := year, month := month, day := day, full := full }
  if after.isEmpty then return date else withTime? date after

/-- Holds of a moment. A date alone has to be written in full. -/
def isTimestamp (s : List Char) : Bool :=
  (parts? s).any fun p => p.time.isSome || p.full

/-- A text without one line feed at its end. -/
def dropLineFeed (s : List Char) : List Char :=
  match s.reverse with
  | '\n' :: rest => rest.reverse
  | _ => s

/-- What a text without quotes stands for. -/
def tagOf (text : String) : Tag :=
  let s := dropLineFeed text.toList
  let word := String.ofList s
  if (boolWords.lookup word).isSome then .bool
  else if isFloat s then .float
  else if isInt s then .int
  else if word == "<<" then .merge
  else if nullWords.contains word && text != "\n" then .null
  else if isTimestamp s then .timestamp
  else if word == "=" then .defaultValue
  else if ["!", "&", "*"].contains word then .other (Tag.start ++ "yaml")
  else .text

end DocExamples.Yaml.Implicit
