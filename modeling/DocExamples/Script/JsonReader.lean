import DocExamples.Json.Basic
import DocExamples.Script.Token

/-!
JSON as scripts read it.

The tokens are those of JSON, but texts take all escapes of script texts, and numbers are read like
numerals. A fault is told by the first token that does not fit.
-/

namespace DocExamples.Script.JsonReader

/-- A token. -/
inductive Token where
  | stop
  | text (s : String)
  | number (x : Number.Double)
  | word (s : String)
  | mark (c : Char)
  deriving DecidableEq, Repr

/-- Words for a fault. -/
abbrev Words : Type := String

/-- A token, how it is written, and what follows it. -/
abbrev Piece : Type := Token × List Char × List Char

/-- Holds of the characters between tokens. -/
def isGap (c : Char) : Bool := c == ' ' || c == '\t' || c == '\n' || c == '\r'

/-- Holds of the characters of words. -/
def isWordPart (c : Char) : Bool := c.isAlphanum || c == '_' || c == '$'

/-- Takes the digits of a number behind its sign: a whole part, a fraction and an exponent. -/
def numberExtent (s : List Char) : Nat :=
  let digits (s : List Char) : Nat := (s.takeWhile Char.isDigit).length
  let whole := digits s
  let fraction := match s.drop whole with
    | '.' :: rest => 1 + digits rest
    | _ => 0
  let exponent := match s.drop (whole + fraction) with
    | e :: rest =>
      let sign := if rest.head? = some '-' ∨ rest.head? = some '+' then 1 else 0
      let count := digits (rest.drop sign)
      if (e = 'e' ∨ e = 'E') ∧ count ≠ 0 then 1 + sign + count else 0
    | [] => 0
  whole + fraction + exponent

/-- The number with such digits. -/
def numberOf (s : List Char) : Number.Double :=
  match Numeral.read? s with
  | some (.number x, _) => x
  | _ => .nan

/-- Reads a text behind its opening quote. -/
def readText (s : List Char) : Except Words Piece :=
  let inside := s.take (Script.Token.extent '"' s)
  if inside.any fun c => c.toNat < 32 then .error "invalid character in a JSON string"
  else
    match Script.Token.readText '"' s with
    | .ok (x, rest) => .ok (.text x, '"' :: s.take (s.length - rest.length), rest)
    | .error f => .error f.message

/-- Reads a token. -/
def readToken (s : List Char) : Except Words Piece :=
  match s.dropWhile isGap with
  | [] => .ok (.stop, [], [])
  | c :: rest =>
    let s := c :: rest
    let size := if c = '-' then rest else s
    if c = '"' then readText rest
    else if c.isAlpha || c = '_' || c = '$' then
      let w := s.takeWhile isWordPart
      .ok (.word (String.ofList w), w, s.drop w.length)
    else if size.head?.any Char.isDigit &&
        !(c = '0' && rest.head?.any Char.isDigit) then
      let n := numberExtent size
      let x := numberOf (size.take n)
      let written := s.take (s.length - (size.drop n).length)
      .ok (.number (if c = '-' then x.negate else x), written, size.drop n)
    else if 128 ≤ c.toNat then .error "unexpected character"
    else .ok (.mark c, [c], rest)

/-- Takes a mark that has to come next. -/
def expect (c : Char) (piece : Piece) : Except Words (List Char) :=
  match piece with
  | (.mark m, _, rest) =>
    if m = c then .ok rest else .error ("expecting '" ++ String.singleton c ++ "'")
  | _ => .error ("expecting '" ++ String.singleton c ++ "'")

/-- The fault of a token where a value should be. -/
def unexpected (piece : Piece) : Words :=
  match piece with
  | (.stop, _, _) => "unexpected end of input"
  | (_, written, _) => "unexpected token: '" ++ String.ofList written ++ "'"

mutual

/-- Reads a value. The first argument of each reader bounds how deep they call each other. -/
def readValue : Nat → List Char → Except Words (Json × List Char)
  | 0, _ => .error "stack overflow"
  | fuel + 1, s => do
    let piece ← readToken s
    match piece with
    | (.text x, _, rest) => return (.str x, rest)
    | (.number x, _, rest) => return (.float x, rest)
    | (.word "true", _, rest) => return (.bool true, rest)
    | (.word "false", _, rest) => return (.bool false, rest)
    | (.word "null", _, rest) => return (.null, rest)
    | (.mark '[', _, rest) =>
      match ← readToken rest with
      | (.mark ']', _, rest) => return (.arr [], rest)
      | _ => readItems fuel [] rest
    | (.mark '\x7b', _, rest) =>
      match ← readToken rest with
      | (.mark '\x7d', _, rest) => return (.obj [], rest)
      | _ => readMembers fuel [] rest
    | piece => throw (unexpected piece)

/-- Reads the items of an array; those read so far are held in reverse. -/
def readItems : Nat → List Json → List Char → Except Words (Json × List Char)
  | 0, _, _ => .error "stack overflow"
  | fuel + 1, acc, s => do
    let (item, rest) ← readValue fuel s
    match ← readToken rest with
    | (.mark ',', _, rest) => readItems fuel (item :: acc) rest
    | piece => return (.arr (item :: acc).reverse, ← expect ']' piece)

/-- Reads the members of an object; those read so far are held in reverse. -/
def readMembers : Nat → List (String × Json) → List Char → Except Words (Json × List Char)
  | 0, _, _ => .error "stack overflow"
  | fuel + 1, acc, s => do
    match ← readToken s with
    | (.text name, _, rest) =>
      let (member, rest) ← readValue fuel (← expect ':' (← readToken rest))
      match ← readToken rest with
      | (.mark ',', _, rest) => readMembers fuel ((name, member) :: acc) rest
      | piece => return (.obj ((name, member) :: acc).reverse, ← expect '\x7d' piece)
    | _ => throw "expecting property name"

end

/-- Reads a text that is one value. -/
def read (s : List Char) : Except Words Json := do
  let (j, rest) ← readValue (2 * s.length + 2) s
  match ← readToken rest with
  | (.stop, _, _) => return j
  | _ => throw "unexpected data at the end"

end DocExamples.Script.JsonReader
