import DocExamples.Json.Encoding
import DocExamples.Script.Native.Argument
import DocExamples.Text.Utf8

/-!
The functions that write characters as numbers behind a percent sign, and those that read them.
-/

namespace DocExamples.Script.Native

open Session

/-- Digits in base sixteen, in capitals. -/
def hexDigits (width n : Nat) : List Char :=
  (List.range width).reverse.map fun i => (Nat.digitChar (n / 16 ^ i % 16)).toUpper

/-- Holds of the letters and digits that stay as they are. -/
def isAlphanumeric (c : Char) : Bool := c.toNat < 128 && c.isAlphanum

/-- The marks that have a meaning in an address. -/
def reservedMarks : List Char := ";/?:@&=+$,#".toList

/-- The marks that stay as they are in all addresses. -/
def plainMarks : List Char := "-_.!~*'()".toList

/-- A text in which characters are written as bytes. The flag tells that it is a whole address. -/
def encoded (address : Bool) (s : List Char) : List Char :=
  s.flatMap fun c =>
    if isAlphanumeric c || plainMarks.contains c || (address && reservedMarks.contains c) then [c]
    else (String.singleton c).toUTF8.toList.flatMap fun b => '%' :: hexDigits 2 b.toNat

/-- The byte behind a percent sign. -/
def escapedByte : List Char → Except Misuse (Nat × List Char)
  | '%' :: a :: b :: rest =>
    match Json.hexValue? a, Json.hexValue? b with
    | some x, some y => .ok (16 * x + y, rest)
    | _, _ => .error .escapeDigits
  | '%' :: _ => .error .escapeDigits
  | _ => .error .escapeMark

/-- How many bytes follow the first one of a character, and what that one tells of it. -/
def leading (byte : Nat) : Option (Nat × Nat) :=
  if byte < 0x80 then some (0, byte)
  else if 0xC0 ≤ byte ∧ byte < 0xE0 then some (1, byte % 0x20)
  else if 0xE0 ≤ byte ∧ byte < 0xF0 then some (2, byte % 0x10)
  else if 0xF0 ≤ byte ∧ byte < 0xF8 then some (3, byte % 8)
  else none

/-- Takes the further bytes of a character. -/
def following : Nat → Nat → List Char → Except Misuse (Nat × List Char)
  | 0, n, s => .ok (n, s)
  | count + 1, n, s => do
    let (byte, rest) ← escapedByte s
    if byte / 0x40 = 2 then following count (0x40 * n + byte % 0x40) rest else throw .escapeBytes

/-- Reads a text in which characters are written as bytes. The flag tells that it is a whole address,
in which some marks stay as they are; the second argument bounds the steps. -/
def decoded (address : Bool) : Nat → List Char → Except Misuse (List Char)
  | 0, _ => .ok []
  | _ + 1, [] => .ok []
  | fuel + 1, '%' :: rest => do
    let (byte, after) ← escapedByte ('%' :: rest)
    match leading byte with
    | none => throw .escapeBytes
    | some (count, n) =>
      let (n, after) ← following count n after
      if n < [0, 0x80, 0x800, 0x10000].getD count 0 || !n.isValidChar then throw .escapeBytes
      let c := Char.ofNat n
      if address && count = 0 && reservedMarks.contains c then
        return '%' :: (← decoded address fuel rest)
      else return c :: (← decoded address fuel after)
  | fuel + 1, c :: rest => do return c :: (← decoded address fuel rest)

/-- A text in which units beyond ASCII are written as numbers. -/
def escapedUnits (s : List Char) : List Char :=
  (PatternCheck.units s).flatMap fun u =>
    let c := Char.ofNat u
    if u < 128 && (isAlphanumeric c || "@*_+-./".toList.contains c) then [c]
    else if u < 256 then '%' :: hexDigits 2 u
    else '%' :: 'u' :: hexDigits 4 u

/-- The units of a text in which some are written as numbers. The first argument bounds the steps. -/
def unescapedUnits : Nat → List Char → List Nat
  | 0, _ | _, [] => []
  | fuel + 1, c :: rest =>
    let number (s : List Char) : Option Nat :=
      (s.mapM Json.hexValue?).map fun ds => ds.foldl (fun n d => 16 * n + d) 0
    let long := if rest.head? = some 'u' ∧ 4 < rest.length then number ((rest.drop 1).take 4) else none
    let short := if 1 < rest.length then number (rest.take 2) else none
    match c, long, short with
    | '%', some u, _ => u :: unescapedUnits fuel (rest.drop 5)
    | '%', none, some u => u :: unescapedUnits fuel (rest.drop 2)
    | c, _, _ => PatternCheck.units [c] ++ unescapedUnits fuel rest

/-- Calls a function that writes or reads escapes. -/
def escapes? (call : Caller) (path : String) (arguments : List Value) : Option (Act Value) :=
  let s : Act (List Char) := spelling call (arg arguments 0)
  let read (address : Bool) : Act Value := do
    let s ← s
    match decoded address (s.length + 1) s with
    | .ok s => return textValue s
    | .error m => refuse m
  match path with
  | "encodeURI" => some do return textValue (encoded true (← s))
  | "encodeURIComponent" => some do return textValue (encoded false (← s))
  | "decodeURI" => some (read true)
  | "decodeURIComponent" => some (read false)
  | "escape" => some do return textValue (escapedUnits (← s))
  | "unescape" => some do
    let s ← s
    return textValue (Json.Encoding.ofUnits (unescapedUnits (s.length + 1) s))
  | _ => none

end DocExamples.Script.Native
