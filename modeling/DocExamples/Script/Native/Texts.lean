import DocExamples.Json.Encoding
import DocExamples.Script.Native.Argument
import DocExamples.Text.Case

/-!
The functions of texts.

Positions count characters. Where a function gets a pattern instead of a text it is not covered and
gives nothing.
-/

namespace DocExamples.Script.Native

open Session

/-! ## Places in texts -/

/-- The first place where a text stands in another. -/
def place? (part : List Char) : List Char → Option Nat
  | [] => if part.isEmpty then some 0 else none
  | c :: rest => if part.isPrefixOf (c :: rest) then some 0 else (place? part rest).map (· + 1)

/-- The last place, up to a position, where a text stands in another. -/
def lastPlace? (part s : List Char) (last : Nat) : Option Nat :=
  (List.range (min last s.length + 1)).reverse.find? fun n => part.isPrefixOf (s.drop n)

/-- The parts of a text between the places where another stands. The first argument bounds the
steps. -/
def splitBy (mark : List Char) : Nat → List Char → List (List Char)
  | 0, s => [s]
  | fuel + 1, s =>
    match place? mark s with
    | some n => s.take n :: splitBy mark fuel (s.drop (n + mark.length))
    | none => [s]

/-- The parts of a text between the places where another stands; an empty one stands between all
characters. -/
def partsBetween (mark s : List Char) : List (List Char) :=
  if mark.isEmpty then s.map fun c => [c] else splitBy mark (s.length + 1) s

/-- The places where a text stands in another, one behind the other. The first argument bounds the
steps, the second is how much was passed. -/
def places (part : List Char) : Nat → Nat → List Char → List Nat
  | 0, _, _ => []
  | fuel + 1, passed, s =>
    match place? part s with
    | some n =>
      let step := n + max part.length 1
      (passed + n) :: (if s.length < step then [] else places part fuel (passed + step) (s.drop step))
    | none => []

/-! ## Changes of texts -/

/-- The capital of a character, which can be two. -/
def capital (c : Char) : List Char :=
  if c = 'ß' then ['S', 'S']
  else if c ∈ ['ſ', 'ı'] then [if c = 'ſ' then 'S' else 'I']
  else if Text.smallForm c != c then [c]
  else ((Text.familyOf c.toNat).flatMap Text.capitalsOf).head?.elim [c] fun n => [Char.ofNat n]

/-- A text in capitals. -/
def capitals (s : List Char) : List Char := s.flatMap capital

/-- What fills a text up to a length. -/
def filling (width : Nat) (fill s : List Char) : List Char :=
  let missing := width - s.length
  if fill.isEmpty then []
  else ((List.replicate (missing / fill.length + 1) fill).flatten).take missing

/-- The text that stands for a place in a replaced text: marks in it stand for parts. -/
def expanded (before found after : List Char) : List Char → List Char
  | '$' :: '$' :: rest => '$' :: expanded before found after rest
  | '$' :: '&' :: rest => found ++ expanded before found after rest
  | '$' :: '\x27' :: rest => after ++ expanded before found after rest
  | '$' :: c :: rest =>
    if c = Token.backquote then before ++ expanded before found after rest
    else '$' :: expanded before found after (c :: rest)
  | c :: rest => c :: expanded before found after rest
  | [] => []

/-- A text with another in place of the parts at some places; the first argument is how much of the
text was passed. -/
def withReplaced (call : Caller) (s found : List Char) (f : Value) : Nat → List Nat → Act (List Char)
  | passed, [] => return s.drop passed
  | passed, n :: more => do
    let new ←
      if f.isFunction then
        spelling call (← call f .undefined [textValue found, Value.count n, textValue s])
      else do pure (expanded (s.take n) found (s.drop (n + found.length)) (← spelling call f))
    let rest ← withReplaced call s found f (n + found.length) more
    return (s.take n).drop passed ++ new ++ rest

/-- Replaces the first place where a text stands in another, or all of them. -/
def replaceText (call : Caller) (everywhere : Bool) (s found : List Char) (f : Value) :
    Act Value := do
  let all := places found (s.length + 2) 0 s
  return textValue (← withReplaced call s found f 0 (if everywhere then all else all.take 1))

/-- A text repeated. -/
def repeated (s : List Char) (count : Int) : Act Value := do
  if count < 0 ∨ 2 ^ 31 ≤ count then refuse .repeatCount
  else if greatestLength < s.length * count.toNat then throw .overflow
  else return textValue (List.replicate (if s.isEmpty then 0 else count.toNat) s).flatten

/-- The tags of functions that put a text between two of them, with the name of what a tag takes. -/
def tags : List (String × String × String) := [
  ("anchor", "a", "name"), ("big", "big", ""), ("blink", "blink", ""), ("bold", "b", ""),
  ("fixed", "tt", ""), ("fontcolor", "font", "color"), ("fontsize", "font", "size"),
  ("italics", "i", ""), ("link", "a", "href"), ("small", "small", ""), ("strike", "strike", ""),
  ("sub", "sub", ""), ("sup", "sup", "")]

/-- A text between two tags. -/
def tagged (call : Caller) (s : List Char) (tag taken : String) (v : Value) : Act Value := do
  let inside ←
    if taken = "" then pure []
    else do
      let quoted := (← spelling call v).flatMap fun c => if c = '"' then "&quot;".toList else [c]
      pure (' ' :: taken.toList ++ '=' :: '"' :: quoted ++ ['"'])
  return textValue ('<' :: tag.toList ++ inside ++ '>' :: s ++ '<' :: '/' :: tag.toList ++ ['>'])

/-! ## Calls -/

/-- Calls a function that looks for a text in another. -/
def finding? (call : Caller) (name : String) (s : List Char) (arguments : List Value) :
    Option (Act Value) :=
  let other : Act (List Char) := spelling call (arg arguments 0)
  let start : Act Nat := do return position (max 0 (← wholeArg call arguments 1 0)) s.length
  match name with
  | "indexOf" => some do
    let part ← other
    let start ← start
    return positionOrNone ((place? part (s.drop start)).map (· + start))
  | "lastIndexOf" => some do
    let part ← other
    let last ← match ← numberOf call (arg arguments 1) with
      | .nan => pure s.length
      | x => pure (max 0 (whole x)).toNat
    return positionOrNone (lastPlace? part s last)
  | "includes" => some do
    let part ← other
    return .bool (place? part (s.drop (← start))).isSome
  | "startsWith" => some do
    let part ← other
    return .bool (part.isPrefixOf (s.drop (← start)))
  | "endsWith" => some do
    let part ← other
    let last := position (max 0 (← wholeArg call arguments 1 s.length)) s.length
    return .bool (part.isSuffixOf (s.take last))
  | "localeCompare" => some do
    let that := String.ofList (← other)
    let this := String.ofList s
    return .number (.ofInt
      (if Value.textBefore this that then -1 else if Value.textBefore that this then 1 else 0))
  | _ => none

/-- Calls a function that takes a part of a text. -/
def cutting? (call : Caller) (name : String) (s : List Char) (arguments : List Value) :
    Option (Act Value) :=
  let inside (n : Int) : Nat := position (max 0 n) s.length
  let units := PatternCheck.units s
  match name with
  | "slice" => some do return textValue (← part call s arguments)
  | "substring" => some do
    let first := inside (← wholeArg call arguments 0 0)
    let last := inside (← wholeArg call arguments 1 s.length)
    return textValue ((s.take (max first last)).drop (min first last))
  | "substr" => some do
    let first := position (← wholeArg call arguments 0 0) s.length
    let count ← wholeArg call arguments 1 (s.length - first)
    return textValue ((s.drop first).take count.toNat)
  | "charAt" => some do
    let n ← wholeArg call arguments 0 0
    return textValue (if n < 0 then [] else (s[n.toNat]?).toList)
  | "charCodeAt" => some do
    let n ← wholeArg call arguments 0 0
    return numberOrNan (if n < 0 then none else (units[n.toNat]?).map fun u => (u : Int))
  | "codePointAt" => some do
    let n ← wholeArg call arguments 0 0
    return ((if n < 0 then none else s[n.toNat]?).map fun c => Value.count c.toNat).getD .undefined
  | "split" => some do
    let parts ← match arg arguments 0 with
      | .undefined => pure [s]
      | mark => do pure (partsBetween (← spelling call mark) s)
    let most ← match arg arguments 1 with
      | .undefined => pure parts.length
      | v => do pure (← numberOf call v).toWord
    newArray ((parts.take most).map textValue)
  | _ => none

/-- Calls a function that changes a text. -/
def changing? (call : Caller) (name : String) (s : List Char) (arguments : List Value) :
    Option (Act Value) :=
  let isPattern : Bool := match arg arguments 0 with
    | .pattern .. => true
    | _ => false
  let fill : Act (List Char) := do
    let width ← wholeArg call arguments 0 0
    if (greatestLength : Int) < width then throw .overflow
    let mark ← match arg arguments 1 with
      | .undefined => pure [' ']
      | v => spelling call v
    return filling width.toNat mark s
  match name with
  | "toUpperCase" | "toLocaleUpperCase" => some (return textValue (capitals s))
  | "toLowerCase" | "toLocaleLowerCase" => some (return textValue (Text.lower s))
  | "trim" =>
    some (return textValue (Text.dropTrailing Token.isBlank (s.dropWhile Token.isBlank)))
  | "trimStart" | "trimLeft" => some (return textValue (s.dropWhile Token.isBlank))
  | "trimEnd" | "trimRight" => some (return textValue (Text.dropTrailing Token.isBlank s))
  | "concat" => some do return textValue (s ++ (← arguments.mapM (spelling call)).flatten)
  | "repeat" => some do repeated s (← wholeArg call arguments 0 0)
  | "padStart" => some do return textValue ((← fill) ++ s)
  | "padEnd" => some do return textValue (s ++ (← fill))
  | "normalize" => some (return textValue s)
  | "__quote" => some (return textValue (Json.quote Json.plainAll s))
  | "replace" | "replaceAll" =>
    if isPattern then none
    else some do
      replaceText call (name = "replaceAll") s (← spelling call (arg arguments 0)) (arg arguments 1)
  | name => (tags.lookup name).map fun (tag, taken) => tagged call s tag taken (arg arguments 0)

/-- Calls a function that texts share. -/
def sharedByTexts? (call : Caller) (name : String) (s : List Char) (arguments : List Value) :
    Option (Act Value) :=
  match name with
  | "toString" | "valueOf" => some (return textValue s)
  | name =>
    (finding? call name s arguments).or
      ((cutting? call name s arguments).or (changing? call name s arguments))

/-- A character by its number. -/
def characterOf (x : Number.Double) : Act Char :=
  match x.toInt? with
  | some n =>
    if 0 ≤ n ∧ n ≤ 0x10FFFF then return Char.ofNat n.toNat else refuse .codePoint
  | none => refuse .codePoint

/-- Calls a function for texts. -/
def texts? (call : Caller) (path : String) (arguments : List Value) : Option (Act Value) :=
  match path with
  | "String" => some do
    return textValue (← if arguments.isEmpty then pure [] else textOf call (arg arguments 0))
  | "String.fromCharCode" => some do
    let numbers ← arguments.mapM (numberOf call)
    return textValue (Json.Encoding.ofUnits (numbers.map fun x => x.toWord % 2 ^ 16))
  | "String.fromCodePoint" => some do
    return textValue (← (← arguments.mapM (numberOf call)).mapM characterOf)
  | _ => none

end DocExamples.Script.Native
