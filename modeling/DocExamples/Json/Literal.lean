/-!
JSON string literals: the quoted form of a text, and reading it back.

A quote and a backslash are escaped, so are the controls; whether characters beyond ASCII stand as
they are or as escapes is the only choice, given by the predicate `plain`. Reading a literal gives
the text back (`read_quoteAscii`, proved with the other laws of literals).
-/

namespace DocExamples.Json

/-- A hexadecimal digit in lower case. -/
def hexChar (n : Nat) : Char := Nat.digitChar (n % 16)

/-- The value of a hexadecimal digit in either case. -/
def hexValue? (c : Char) : Option Nat :=
  let n := c.toNat
  if 48 ≤ n ∧ n ≤ 57 then some (n - 48)
  else if 97 ≤ n ∧ n ≤ 102 then some (n - 87)
  else if 65 ≤ n ∧ n ≤ 70 then some (n - 55)
  else none

/-- The escape of one 16-bit unit. -/
def unitEscape (n : Nat) : List Char :=
  ['\\', 'u', hexChar (n / 4096), hexChar (n / 256), hexChar (n / 16), hexChar n]

/-- The numeric escape of a character; beyond the basic plane it is a pair of units. -/
def numericEscape (c : Char) : List Char :=
  let n := c.toNat
  if n < 0x10000 then unitEscape n
  else unitEscape (0xD800 + (n - 0x10000) / 0x400) ++ unitEscape (0xDC00 + (n - 0x10000) % 0x400)

/-- Characters of a literal that is ASCII throughout. -/
def plainAscii (c : Char) : Bool := 32 ≤ c.toNat && c.toNat ≤ 126

/-- Characters of a literal that escapes nothing but controls. -/
def plainAll (c : Char) : Bool := 32 ≤ c.toNat

/-- One character of a text inside a literal. -/
def escapeChar (plain : Char → Bool) (c : Char) : List Char :=
  if c = '"' then ['\\', '"']
  else if c = '\\' then ['\\', '\\']
  else if plain c then [c]
  else if c = '\n' then ['\\', 'n']
  else if c = '\r' then ['\\', 'r']
  else if c = '\t' then ['\\', 't']
  else if c = Char.ofNat 8 then ['\\', 'b']
  else if c = Char.ofNat 12 then ['\\', 'f']
  else numericEscape c

/-- The inside of a literal. -/
def escape (plain : Char → Bool) (s : List Char) : List Char := s.flatMap (escapeChar plain)

/-- A text as a literal. -/
def quote (plain : Char → Bool) (s : List Char) : List Char :=
  '"' :: (escape plain s ++ ['"'])

/-- A text as a literal of ASCII characters. -/
def quoteAscii (s : List Char) : List Char := quote plainAscii s

/-- Why the inside of a literal cannot be read. -/
inductive LiteralError where
  | unterminated
  | control
  | badEscape
  | badUnit
  deriving DecidableEq, Repr

/-- Four hexadecimal digits, and what follows them. -/
def readUnit : List Char → Option (Nat × List Char)
  | a :: b :: c :: d :: rest => do
    let a ← hexValue? a
    let b ← hexValue? b
    let c ← hexValue? c
    let d ← hexValue? d
    return (4096 * a + 256 * b + 16 * c + d, rest)
  | _ => none

/-- The character that an escape of one letter stands for. -/
def shortEscape? (c : Char) : Option Char :=
  if c = '"' then some '"'
  else if c = '\\' then some '\\'
  else if c = '/' then some '/'
  else if c = 'b' then some (Char.ofNat 8)
  else if c = 'f' then some (Char.ofNat 12)
  else if c = 'n' then some '\n'
  else if c = 'r' then some '\r'
  else if c = 't' then some '\t'
  else none

/-- The unit of an escape that follows at once, if it is the low half of a pair. It has to leave
something of the literal. -/
def lowHalf? : List Char → Option (Nat × List Char)
  | '\\' :: 'u' :: rest =>
    match readUnit rest with
    | some (low, rest) =>
      if 0xDC00 ≤ low ∧ low < 0xE000 ∧ rest ≠ [] then some (low, rest) else none
    | none => none
  | _ => none

/-- The character that a unit stands for, with the low half of a pair taken from what follows. A
half without its partner has no character of its own and is read as the replacement character. -/
def unitChar (unit : Nat) (rest : List Char) : Char × List Char :=
  if 0xD800 ≤ unit ∧ unit < 0xDC00 then
    match lowHalf? rest with
    | some (low, rest) => (Char.ofNat (0x10000 + (unit - 0xD800) * 0x400 + (low - 0xDC00)), rest)
    | none => (Char.ofNat 0xFFFD, rest)
  else if 0xDC00 ≤ unit ∧ unit < 0xE000 then (Char.ofNat 0xFFFD, rest)
  else (Char.ofNat unit, rest)

/-- Reads the inside of a literal up to its closing quote. The text read so far is held in
reverse. On failure the result is the cause and how much of the input was left where it arose. -/
def readInside (fuel : Nat) (acc : List Char) (s : List Char) :
    Except (LiteralError × Nat) (List Char × List Char) :=
  match fuel, s with
  | 0, s => .error (.unterminated, s.length)
  | _ + 1, [] => .error (.unterminated, 0)
  | fuel + 1, c :: rest =>
    if c = '"' then .ok (acc.reverse, rest)
    else if c = '\\' then
      match rest with
      | [] => .error (.unterminated, 0)
      | 'u' :: after =>
        match readUnit after with
        | none | some (_, []) => .error (.badUnit, rest.length)
        | some (unit, after) =>
          let (x, after) := unitChar unit after
          readInside fuel (x :: acc) after
      | e :: after =>
        match shortEscape? e with
        | some x => readInside fuel (x :: acc) after
        | none => .error (.badEscape, s.length)
    else if c.toNat < 32 then .error (.control, s.length)
    else readInside fuel (c :: acc) rest

/-- Reads a literal after its opening quote. Each step uses up a character, so the length of the
input bounds the steps. -/
def readLiteral (s : List Char) : Except (LiteralError × Nat) (List Char × List Char) :=
  readInside (s.length + 1) [] s

end DocExamples.Json
