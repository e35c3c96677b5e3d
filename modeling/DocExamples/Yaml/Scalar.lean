import DocExamples.Json.Literal
import DocExamples.Number.Arithmetic
import DocExamples.Number.Limit
import DocExamples.Text.Base64
import DocExamples.Text.Blank
import DocExamples.Text.Case
import DocExamples.Text.Digit
import DocExamples.Text.Lines
import DocExamples.Text.Quoted
import DocExamples.Yaml.Moment

/-!
The values of texts whose kind is known. The kind can be forced by a tag, so a text need not have
the form of its kind; reading it then fails in a way of its own.
-/

namespace DocExamples.Yaml.Scalar

/-- A failure of a value. -/
def failure {α : Type} (kind message : String) : Except Fault α := .error (.failed ⟨kind, message⟩)

/-- The value of a digit in bases up to sixteen. -/
def digitIn (base : Nat) (c : Char) : Option Nat :=
  let value := match Text.digitValue? c with
    | some d => some d
    | none => Json.hexValue? c
  value.filter (· < base)

/-- Drops what may stand in front of the digits of a number in a base. -/
def dropBaseMark (base : Nat) : List Char → List Char
  | '0' :: c :: rest =>
    let isMark := (base == 16 && (c == 'x' || c == 'X')) || (base == 8 && (c == 'o' || c == 'O')) ||
      (base == 2 && (c == 'b' || c == 'B'))
    if isMark then rest else '0' :: c :: rest
  | s => s

/-- The start of a quoted text that stands in a message about it. -/
def quotedStart (s : List Char) : String := String.ofList ((Text.quoted s).take 200)

/-- Requires that a text does not start with more digits than can be read in base ten. -/
def checkLength (base : Nat) (s : List Char) : Except Fault Unit :=
  let digits := s.takeWhile Text.isDigit
  if base = 10 ∧ Number.digitLimit < digits.length then
    .error (.failed (Number.TooLong.toRead digits.length).failure)
  else .ok ()

/-- Reads digits of a base. -/
def readDigits? (base : Nat) (s : List Char) : Option Nat :=
  if s.isEmpty then none
  else s.foldl (fun n c => do return base * (← n) + (← digitIn base c)) (some 0)

/-- Reads a number in a base; blanks may stand around it and a sign in front. -/
def readIn (base : Nat) (s : List Char) : Except Fault Int := do
  let (negative, body) := match Text.strip s with
    | '-' :: rest => (true, rest)
    | '+' :: rest => (false, rest)
    | rest => (false, rest)
  checkLength base body
  match readDigits? base (dropBaseMark base body) with
  | some n => return if negative then -(n : Int) else n
  | none =>
    failure "ValueError" ("invalid literal for int() with base " ++ toString base ++ ": " ++
      quotedStart s)

/-- A text without its sign, and whether the sign is a minus; there has to be something. -/
def splitSign (s : List Char) : Except Fault (Bool × List Char) :=
  match s with
  | [] => failure "IndexError" "string index out of range"
  | '-' :: rest => .ok (true, rest)
  | '+' :: rest => .ok (false, rest)
  | s => .ok (false, s)

/-- The magnitude of a whole number. -/
def magnitude (s : List Char) : Except Fault Int :=
  match s with
  | [] => failure "IndexError" "string index out of range"
  | ['0'] => .ok 0
  | '0' :: 'b' :: rest => readIn 2 rest
  | '0' :: 'x' :: rest => readIn 16 rest
  | '0' :: _ => readIn 8 s
  | _ =>
    if s.contains ':' then
      (Text.splitAt ':' s).foldlM (fun n part => (readIn 10 part).map (60 * n + ·)) 0
    else readIn 10 s

/-- A whole number. -/
def intValue (text : String) : Except Fault Data := do
  let (negative, s) ← splitSign (text.toList.filter (· ≠ '_'))
  let n ← magnitude s
  return .int (if negative then -n else n)

/-- Reads decimal digits with a point and an exponent. -/
def readDecimal? (s : List Char) : Option Number.Double :=
  let digit (c : Char) := (Text.digitValue? c).isSome
  let (whole, rest) := s.span digit
  let (fraction, rest) := match rest with
    | '.' :: rest => rest.span digit
    | rest => ([], rest)
  if whole.isEmpty && fraction.isEmpty then none
  else
    let shift : Option Int := match rest with
      | [] => some 0
      | 'e' :: rest =>
        let (negative, digits) := match rest with
          | '-' :: rest => (true, rest)
          | '+' :: rest => (false, rest)
          | rest => (false, rest)
        if digits.isEmpty || !digits.all digit then none
        else
          let n : Int := Text.natOfDigits digits
          some (if negative then -n else n)
      | _ => none
    shift.map fun shift =>
      Number.Double.ofDecimal false (Text.natOfDigits (whole ++ fraction))
        (shift - fraction.length)

/-- Reads a number with a point, which is written in small letters. -/
def readFloat (s : List Char) : Except Fault Number.Double :=
  let (negative, body) := match Text.strip s with
    | '-' :: rest => (true, rest)
    | '+' :: rest => (false, rest)
    | rest => (false, rest)
  let word := String.ofList body
  let magnitude := if word == "inf" || word == "infinity" then some (.infinite false)
    else if word == "nan" then some .nan
    else readDecimal? body
  match magnitude with
  | some x => .ok (if negative then x.negate else x)
  | none =>
    failure "ValueError" ("could not convert string to float: " ++ String.ofList (Text.quoted s))

/-- The value of parts in base sixty, the last part first. -/
def sumGroups (base : Nat) (sum : Number.Double) :
    List Number.Double → Except Fault Number.Double
  | [] => .ok sum
  | x :: more =>
    if (Number.Double.ofInt base).isFinite then
      sumGroups (60 * base) (sum.add (x.multiply (Number.Double.ofInt base))) more
    else failure "OverflowError" "int too large to convert to float"

/-- A number with a point. -/
def floatValue (text : String) : Except Fault Data := do
  let (negative, s) ← splitSign (Text.lower (text.toList.filter (· ≠ '_')))
  let word := String.ofList s
  let x : Number.Double ←
    if word == ".inf" then pure (.infinite false)
    else if word == ".nan" then pure .nan
    else if s.contains ':' then do
      let parts ← (Text.splitAt ':' s).mapM readFloat
      sumGroups 1 Number.Double.zero parts.reverse
    else readFloat s
  return .float (if negative then x.negate else x)

/-- A truth value. -/
def boolValue (text : String) : Except Fault Data :=
  let word := String.ofList (Text.lower text.toList)
  match Implicit.boolWords.lookup word with
  | some b => .ok (.bool b)
  | none => failure "KeyError" (Text.quotedString word)

/-- A moment. -/
def momentValue (text : String) : Except Fault Data :=
  match Implicit.parts? (Implicit.dropLineFeed text.toList) with
  | some parts => Moment.value parts
  | none => failure "AttributeError" "'NoneType' object has no attribute 'groupdict'"

/-- Bytes, which are a sequence of numbers. -/
def binaryValue (text : String) : Except Fault Data :=
  let s := text.toList
  match if s.all fun c => c.toNat < 128 then Text.Base64.decode? s else none with
  | some bytes =>
    let shown := String.ofList (Text.quotedBytes bytes)
    .ok (.foreign "bytes" shown shown (bytes.map fun b => .int b.toNat))
  | none => .error .malformed

/-- The value of a text with a tag that stands for one; `none` for other tags. -/
def value? (tag : Tag) (text : String) : Option (Except Fault Data) :=
  match tag with
  | .null => some (.ok .null)
  | .bool => some (boolValue text)
  | .int => some (intValue text)
  | .float => some (floatValue text)
  | .timestamp => some (momentValue text)
  | .text => some (.ok (.text text))
  | .binary => some (binaryValue text)
  | _ => none

end DocExamples.Yaml.Scalar
