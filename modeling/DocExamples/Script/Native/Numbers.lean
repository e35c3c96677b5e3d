import DocExamples.Number.Angle
import DocExamples.Number.Elementary
import DocExamples.Number.Fixed
import DocExamples.Script.Native.Argument

/-!
The functions of numbers: those of mathematics, those that read numbers from texts, and those that
write them.
-/

namespace DocExamples.Script.Native

open Session
open Number (Double)

/-! ## Mathematics -/

/-- The whole number that a number rounds to by a rule; what is not finite stays. -/
def rounded (x : Double) (rule : Double → Int) : Double :=
  if x.isFinite then
    let n := rule x
    if n = 0 ∧ x.isNegative then Double.zero.negate else .ofInt n
  else x

/-- The nearest whole number; a half goes up. -/
def nearest (x : Double) : Int :=
  match x.ratio? with
  | some (num, den) => Int.fdiv (2 * num + den) (2 * den)
  | none => 0

/-- The greater of two numbers; an undefined one counts most. -/
def greater (x y : Double) : Double :=
  if x = .nan ∨ y = .nan then .nan
  else if x.isLess y ∨ (x.isZero ∧ y.isZero ∧ x.isNegative) then y
  else x

/-- How many bits of a word of 32 bits are zero before the first that is not. -/
def zeroBits (x : Double) : Int := if x.toWord = 0 then 32 else 31 - (x.toWord.log2 : Int)

/-- The functions of one number. -/
def ofNumber? : String → Option (Double → Double)
  | "Math.abs" => some Double.size
  | "Math.floor" => some fun x => rounded x (·.floor)
  | "Math.ceil" => some fun x => (rounded x.negate (·.floor)).negate
  | "Math.trunc" => some fun x => rounded x (·.truncate)
  | "Math.round" => some fun x => rounded x nearest
  | "Math.sign" => some fun x =>
    if x = .nan ∨ x.isZero then x else .ofInt (if x.isNegative then -1 else 1)
  | "Math.sqrt" => some Double.squareRoot
  | "Math.cbrt" => some Double.cubeRoot
  | "Math.exp" => some Double.exp
  | "Math.expm1" => some Double.expLessOne
  | "Math.log" => some Double.log
  | "Math.log2" => some Double.logBaseTwo
  | "Math.log10" => some Double.logBaseTen
  | "Math.log1p" => some Double.logOneMore
  | "Math.sinh" => some Double.sinh
  | "Math.cosh" => some Double.cosh
  | "Math.tanh" => some Double.tanh
  | "Math.asinh" => some Double.arsinh
  | "Math.acosh" => some Double.arcosh
  | "Math.atanh" => some Double.artanh
  | "Math.sin" => some Double.sin
  | "Math.cos" => some Double.cos
  | "Math.tan" => some Double.tan
  | "Math.asin" => some Double.arcsin
  | "Math.acos" => some Double.arccos
  | "Math.atan" => some Double.arctan
  | "Math.fround" => some Double.single
  | "Math.clz32" => some fun x => .ofInt (zeroBits x)
  | _ => none

/-- The functions of two numbers. -/
def ofTwoNumbers? : String → Option (Double → Double → Double)
  | "Math.pow" => some Double.raise
  | "Math.atan2" => some Double.angle
  | "Math.imul" => some fun x y => .ofSignedWord (x.toWord * y.toWord % 2 ^ 32)
  | _ => none

/-- The functions of any count of numbers. -/
def ofNumbers? : String → Option (List Double → Double)
  | "Math.max" => some fun xs => xs.foldl greater (.infinite true)
  | "Math.min" => some fun xs => (xs.foldl (fun x y => greater x y.negate) (.infinite true)).negate
  | "Math.hypot" => some fun
    | [] => .zero
    | x :: more => more.foldl Double.longSide x.size
  | _ => none

/-- The functions that say something of a number. -/
def aboutNumber? : String → Option (Double → Bool)
  | "isNaN" | "Number.isNaN" => some (· == .nan)
  | "isFinite" | "Number.isFinite" => some (·.isFinite)
  | "Number.isInteger" => some fun x => x.toInt?.isSome
  | "Number.isSafeInteger" => some fun x => x.toInt?.any fun n => n.natAbs < 2 ^ 53
  | _ => none

/-! ## Reading -/

/-- The number that a text starts with. -/
def parseFloat (s : List Char) : Double :=
  let s := s.dropWhile Token.isBlank
  let lengths := (List.range (s.length + 1)).reverse
  let readable (n : Nat) : Option Double :=
    let part := s.take n
    if part.isEmpty || !part.all (fun c => c.isDigit || ['.', 'e', 'E', '+', '-'].contains c) then none
    else
      match Value.numberOfText part with
      | .nan => none
      | x => some x
  let unsigned := s.dropWhile fun c => c == '+' || c == '-'
  if "Infinity".toList.isPrefixOf unsigned then .infinite (s.head? == some '-')
  else (lengths.findSome? readable).getD .nan

/-- The value of a digit in bases up to thirty-six. -/
def digitIn? (base : Nat) (c : Char) : Option Nat :=
  let c := c.toLower
  let value :=
    if c.isDigit then some (c.toNat - 48)
    else if 'a' ≤ c ∧ c ≤ 'z' then some (c.toNat - 87)
    else none
  value.filter (· < base)

/-- The base of a text of digits, and the digits behind the mark for it. -/
def baseAndDigits : Nat → List Char → Nat × List Char
  | 0, '0' :: 'x' :: rest | 0, '0' :: 'X' :: rest => (16, rest)
  | 16, '0' :: 'x' :: rest | 16, '0' :: 'X' :: rest => (16, rest)
  | 0, s => (10, s)
  | base, s => (base, s)

/-- The whole number that a text starts with, in a base. -/
def parseInt (s : List Char) (base : Nat) : Double :=
  let s := s.dropWhile Token.isBlank
  let (negative, s) : Bool × List Char := match s with
    | '-' :: rest => (true, rest)
    | '+' :: rest => (false, rest)
    | s => (false, s)
  let (base, s) := baseAndDigits base s
  let digits := (s.takeWhile fun c => (digitIn? base c).isSome).filterMap (digitIn? base)
  if base < 2 || 36 < base || digits.isEmpty then .nan
  else
    let x := Numeral.ofDigits base digits
    if negative then x.negate else x

/-- The whole number of any size that a text writes. -/
def wholeOfText? (s : List Char) : Option Int :=
  let s := Text.dropTrailing Token.isBlank (s.dropWhile Token.isBlank)
  let ofBase (base : Nat) (digits : List Char) : Option Int :=
    if digits.isEmpty then none
    else
      (digits.mapM (digitIn? base)).map fun ds =>
        ((ds.foldl (fun n d => base * n + d) 0 : Nat) : Int)
  match s with
  | [] => some 0
  | '0' :: 'x' :: rest | '0' :: 'X' :: rest => ofBase 16 rest
  | '0' :: 'o' :: rest | '0' :: 'O' :: rest => ofBase 8 rest
  | '0' :: 'b' :: rest | '0' :: 'B' :: rest => ofBase 2 rest
  | '-' :: rest => (ofBase 10 rest).map (- ·)
  | '+' :: rest => ofBase 10 rest
  | rest => ofBase 10 rest

/-- The whole number of any size that a value becomes. -/
def toWhole (v : Value) : Except Misuse Int :=
  match v with
  | .bigint n => .ok n
  | .bool b => .ok (if b then 1 else 0)
  | .number x =>
    match x.toInt? with
    | some n => .ok n
    | none => .error (if x.isFinite then .wholeBigint else .finiteBigint)
  | .text s =>
    match wholeOfText? s.toList with
    | some n => .ok n
    | none => .error .bigintLiteral
  | _ => .error .noBigint

/-! ## Writing -/

/-- The base that an argument names. -/
def baseOf (call : Caller) (arguments : List Value) : Act Nat := do
  let base ← wholeArg call arguments 0 10
  if 2 ≤ base ∧ base ≤ 36 then return base.toNat else refuse .radix

/-- The count of digits that an argument names. -/
def digitsOf (call : Caller) (arguments : List Value) (least : Int) : Act Nat := do
  let count ← wholeArg call arguments 0 0
  if least ≤ count ∧ count ≤ 100 then return count.toNat else refuse .digitCount

/-- The size from which on numbers are not written without an exponent. -/
def greatestFixed : Double := .ofInt (10 ^ 21)

/-- Calls a function that numbers share. -/
def sharedByNumbers? (call : Caller) (name : String) (x : Double) (arguments : List Value) :
    Option (Act Value) :=
  match name with
  | "toString" => some do return textValue (Number.baseText (← baseOf call arguments) x)
  | "toLocaleString" => some (return textValue (Number.Layout.script.text x))
  | "valueOf" => some (return .number x)
  | "toFixed" => some do
    let places ← digitsOf call arguments 0
    return textValue (if x.size.isLess greatestFixed then Number.fixedText places x
      else Number.Layout.script.text x)
  | "toExponential" => some do
    if !x.isFinite then return textValue (Number.Layout.script.text x)
    match arg arguments 0 with
    | .undefined => return textValue (Number.exponentialText none x)
    | _ => return textValue (Number.exponentialText (← digitsOf call arguments 0) x)
  | "toPrecision" => some do
    match arg arguments 0, x.isFinite with
    | .undefined, _ | _, false => return textValue (Number.Layout.script.text x)
    | _, true => return textValue (Number.preciseText (← digitsOf call arguments 1) x)
  | _ => none

/-- Calls a function that whole numbers of any size share. -/
def sharedByWholes? (call : Caller) (name : String) (n : Int) (arguments : List Value) :
    Option (Act Value) :=
  match name with
  | "toString" => some do return textValue (Number.inBase (← baseOf call arguments) n)
  | "valueOf" => some (return .bigint n)
  | _ => none

/-! ## Calls -/

/-- Says something of a number, or of a value that is to be one. -/
def aboutArgument (call : Caller) (path : String) (test : Double → Bool) (v : Value) :
    Act Value := do
  if path = "isNaN" ∨ path = "isFinite" then return .bool (test (← numberOf call v))
  else
    match v with
    | .number x => return .bool (test x)
    | _ => return .bool false

/-- The number that a value becomes. -/
def toNumber (call : Caller) (v : Value) : Act Value := do
  match ← primitive call .number v with
  | .bigint n => return .number (.ofInt n)
  | v => return .number (← take v.toNumber)

/-- Calls a function for whole numbers of any size. -/
def wholes? (call : Caller) (path : String) (arguments : List Value) : Option (Act Value) :=
  let read (v : Value) : Act Int := do
    match toWhole (← primitive call .number v) with
    | .ok n => return n
    | .error m => refuse m
  match path with
  | "BigInt" => some do return .bigint (← read (arg arguments 0))
  | "BigInt.asUintN" => some do
    let bits ← wholeArg call arguments 0 0
    return .bigint ((← read (arg arguments 1)) % 2 ^ (min bits 65536).toNat)
  | "BigInt.asIntN" => some do
    let bits := (min (← wholeArg call arguments 0 0) 65536).toNat
    let n := (← read (arg arguments 1)) % 2 ^ bits
    return .bigint (if 0 < bits && 2 ^ (bits - 1) ≤ n then n - 2 ^ bits else n)
  | _ => none

/-- Calls a function of numbers. -/
def numbers? (call : Caller) (path : String) (arguments : List Value) : Option (Act Value) :=
  let number (n : Nat) : Act Double := numberOf call (arg arguments n)
  match ofNumber? path, ofTwoNumbers? path, ofNumbers? path, aboutNumber? path with
  | some f, _, _, _ => some do return .number (f (← number 0))
  | _, some f, _, _ => some do return .number (f (← number 0) (← number 1))
  | _, _, some f, _ => some do return .number (f (← arguments.mapM (numberOf call)))
  | _, _, _, some test => some (aboutArgument call path test (arg arguments 0))
  | none, none, none, none =>
    match path, arguments with
    | "Number", [] => some (return .number .zero)
    | "Number", v :: _ => some (toNumber call v)
    | "parseFloat", _ => some do
      return .number (parseFloat (← spelling call (arg arguments 0)))
    | "parseInt", _ => some do
      let s ← spelling call (arg arguments 0)
      return .number (parseInt s (← number 1).toWord)
    | path, arguments => wholes? call path arguments

end DocExamples.Script.Native
