import DocExamples.Json.Basic
import DocExamples.Json.Literal
import DocExamples.Number.Limit

/-!
Reading JSON text.

The reader accepts the values of the standard and the three words for numbers without digits
(`NaN`, `Infinity`, `-Infinity`). A number with neither fraction nor exponent is whole, of any
size up to the bound on numbers in text. A failure names its position, counted in characters from
the start of the text. Values that nest too deep and numbers that are too long are no flaws of the
text, but failures of their own.
-/

namespace DocExamples.Json

/-- What is wrong with a text that is not JSON. -/
inductive Flaw where
  /-- A byte order mark stands in front. -/
  | mark
  | noValue
  | noName
  | noColon
  | noComma
  | literal (e : LiteralError)
  /-- More follows the value. -/
  | more
  deriving DecidableEq, Repr

/-- What can nest. -/
inductive Nest where
  | array
  | object
  deriving DecidableEq, Repr

/-- How deep values may nest. -/
def deepest : Nat := 990

/-- Why reading stops. -/
inductive Halt where
  | flaw (f : Flaw)
  | tooDeep (n : Nest)
  | tooLong (t : Number.TooLong)
  deriving DecidableEq, Repr

/-- The words for a flaw. -/
def Flaw.message : Flaw → String
  | mark => "Unexpected UTF-8 BOM (decode using utf-8-sig)"
  | noValue => "Expecting value"
  | noName => "Expecting property name enclosed in double quotes"
  | noColon => "Expecting ':' delimiter"
  | noComma => "Expecting ',' delimiter"
  | literal .unterminated => "Unterminated string starting at"
  | literal .control => "Invalid control character at"
  | literal .badEscape => "Invalid \\escape"
  | literal .badUnit => "Invalid \\uXXXX escape"
  | more => "Extra data"

/-- Why a text gives no value. -/
inductive ReadError where
  /-- The text is not JSON: what is wrong with it, and where. Lines and columns are counted from
  one. -/
  | malformed (flaw : Flaw) (position line column : Nat)
  | tooDeep (n : Nest)
  | tooLong (t : Number.TooLong)
  deriving DecidableEq, Repr

namespace ReadError

/-- A text without a value as a failure. -/
def failure : ReadError → Failure
  | malformed flaw position line column =>
    ⟨"JSONDecodeError", flaw.message ++ ": line " ++ toString line ++ " column " ++
      toString column ++ " (char " ++ toString position ++ ")"⟩
  | tooDeep nest =>
    ⟨"RecursionError", "maximum recursion depth exceeded while decoding a JSON " ++
      (match nest with
        | .array => "array"
        | .object => "object") ++ " from a unicode string"⟩
  | tooLong t => t.failure

/-- What stopped the reading of a text at a position. -/
def located (text : List Char) (halt : Halt) (position : Nat) : ReadError :=
  match halt with
  | .flaw flaw =>
    let before := text.take position
    malformed flaw position (before.count '\n' + 1)
      ((before.reverse.takeWhile (· ≠ '\n')).length + 1)
  | .tooDeep nest => tooDeep nest
  | .tooLong t => tooLong t

end ReadError

/-- Holds of the four characters that may stand between tokens. -/
def isSpace (c : Char) : Bool := c = ' ' || c = '\t' || c = '\n' || c = '\r'

/-- Drops what may stand between tokens. -/
def skipSpace (s : List Char) : List Char := s.dropWhile isSpace

/-- Holds of an ASCII digit. -/
def isDigit (c : Char) : Bool := '0' ≤ c && c ≤ '9'

/-- Takes a given word off the front of a text. -/
def dropWord (word : List Char) (s : List Char) : Option (List Char) :=
  if word.isPrefixOf s then some (s.drop word.length) else none

/-- The fraction of a number: a point and at least one digit. -/
def readFraction : List Char → List Char × List Char
  | '.' :: rest =>
    match rest.span isDigit with
    | ([], _) => ([], '.' :: rest)
    | (digits, after) => (digits, after)
  | s => ([], s)

/-- The exponent of a number, if one is written in full. -/
def readExponent (s : List Char) : Option (Bool × List Char × List Char) :=
  match s with
  | e :: rest =>
    if e = 'e' ∨ e = 'E' then
      let (negative, rest) := match rest with
        | '-' :: r => (true, r)
        | '+' :: r => (false, r)
        | r => (false, r)
      match rest.span isDigit with
      | ([], _) => none
      | (digits, after) => some (negative, digits, after)
    else none
  | [] => none

/-- A number after its sign; `none` where no digit follows. -/
def readMagnitude (negative : Bool) (s : List Char) : Option (Json × List Char) :=
  let (whole, rest) : List Char × List Char := match s with
    | '0' :: rest => (['0'], rest)
    | s => s.span isDigit
  if whole.isEmpty then none
  else
    let (fraction, rest) := readFraction rest
    let exponent := readExponent rest
    match fraction, exponent with
    | [], none =>
      let n : Int := Text.natOfDigits whole
      some (.int (if negative then -n else n), rest)
    | _, _ =>
      let (shift, rest) : Int × List Char := match exponent with
        | some (minus, digits, after) =>
          let n : Int := Text.natOfDigits digits
          (if minus then -n else n, after)
        | none => (0, rest)
      let digits := Text.natOfDigits (whole ++ fraction)
      some (.float (Number.Double.ofDecimal negative digits (shift - fraction.length)), rest)

/-- A number, or one of the words for numbers without digits. -/
def readNumber (s : List Char) : Option (Json × List Char) :=
  match s with
  | '-' :: rest =>
    match dropWord "Infinity".toList rest with
    | some after => some (.float (.infinite true), after)
    | none => readMagnitude true rest
  | s => readMagnitude false s

/-- A word that stands for a value. -/
def readWord (s : List Char) : Option (Json × List Char) :=
  match dropWord "null".toList s with
  | some after => some (.null, after)
  | none => match dropWord "true".toList s with
    | some after => some (.bool true, after)
    | none => match dropWord "false".toList s with
      | some after => some (.bool false, after)
      | none => match dropWord "NaN".toList s with
        | some after => some (.float .nan, after)
        | none => (dropWord "Infinity".toList s).map fun after =>
            (.float (.infinite false), after)

/-- Why reading failed, and how much of the text is left there. -/
abbrev Stuck := Halt × Nat

/-- A flaw, and how much of the text is left there. -/
def flawed (f : Flaw) (left : Nat) : Stuck := (.flaw f, left)

/-- A failure inside a literal; `opening` is the length from the opening quote on. -/
def literalStuck (opening : Nat) : LiteralError × Nat → Stuck
  | (.unterminated, _) => flawed (.literal .unterminated) opening
  | (e, left) => flawed (.literal e) left

/-- The number of digits of the whole number that a text starts with. -/
def wholeLength (s : List Char) : Nat := ((s.dropWhile (· = '-')).takeWhile isDigit).length

/-- A value without parts: a word or a number. -/
def readPlain (s : List Char) : Except Stuck (Json × List Char) :=
  match readWord s with
  | some found => .ok found
  | none =>
    match readNumber s with
    | some (.int n, rest) =>
      if Number.isWritable n then .ok (.int n, rest)
      else .error (.tooLong (.toRead (wholeLength s)), s.length)
    | some found => .ok found
    | none => .error (flawed .noValue s.length)

mutual

/-- Reads one value, given how deep it may nest. The first argument bounds the depth of calls. -/
def readValue : Nat → Nat → List Char → Except Stuck (Json × List Char)
  | 0, _, s => .error (flawed .noValue s.length)
  | fuel + 1, depth, s =>
    match s with
    | '"' :: rest =>
      match readLiteral rest with
      | .ok (text, after) => .ok (.str (String.ofList text), after)
      | .error e => .error (literalStuck s.length e)
    | '[' :: rest =>
      match depth, skipSpace rest with
      | 0, _ => .error (.tooDeep .array, s.length)
      | _, ']' :: after => .ok (.arr [], after)
      | depth + 1, inside => readItems fuel depth [] inside
    | '\x7b' :: rest =>
      match depth, skipSpace rest with
      | 0, _ => .error (.tooDeep .object, s.length)
      | _, '\x7d' :: after => .ok (.obj [], after)
      | depth + 1, inside => readMembers fuel depth [] inside
    | s => readPlain s

/-- Reads the items of an array from its first item on; `acc` holds the earlier ones in reverse. -/
def readItems : Nat → Nat → List Json → List Char → Except Stuck (Json × List Char)
  | 0, _, _, s => .error (flawed .noValue s.length)
  | fuel + 1, depth, acc, s =>
    match readValue fuel depth s with
    | .error e => .error e
    | .ok (item, rest) =>
      match skipSpace rest with
      | ']' :: after => .ok (.arr (item :: acc).reverse, after)
      | ',' :: more => readItems fuel depth (item :: acc) (skipSpace more)
      | stuck => .error (flawed .noComma stuck.length)

/-- Reads the members of an object from its first name on; `acc` holds the earlier ones in
reverse. -/
def readMembers : Nat → Nat → List (String × Json) → List Char → Except Stuck (Json × List Char)
  | 0, _, _, s => .error (flawed .noValue s.length)
  | fuel + 1, depth, acc, s =>
    match s with
    | '"' :: rest =>
      match readLiteral rest with
      | .error e => .error (literalStuck s.length e)
      | .ok (name, rest) =>
        match skipSpace rest with
        | ':' :: rest =>
          match readValue fuel depth (skipSpace rest) with
          | .error e => .error e
          | .ok (value, rest) =>
            let acc := (String.ofList name, value) :: acc
            match skipSpace rest with
            | '\x7d' :: after => .ok (.obj (mergeMembers acc.reverse), after)
            | ',' :: more => readMembers fuel depth acc (skipSpace more)
            | stuck => .error (flawed .noComma stuck.length)
        | stuck => .error (flawed .noColon stuck.length)
    | stuck => .error (flawed .noName stuck.length)

end

/-- Reads a text that is one JSON value with nothing but blanks around it. -/
def read (s : List Char) : Except ReadError Json :=
  if s.head? = some (Char.ofNat 0xFEFF) then .error (ReadError.located s (.flaw .mark) 0)
  else
    match readValue (2 * s.length + 2) deepest (skipSpace s) with
    | .error (halt, left) => .error (ReadError.located s halt (s.length - left))
    | .ok (value, rest) =>
      match skipSpace rest with
      | [] => .ok value
      | stuck => .error (ReadError.located s (.flaw .more) (s.length - stuck.length))

end DocExamples.Json
