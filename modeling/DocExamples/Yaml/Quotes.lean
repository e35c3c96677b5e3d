import DocExamples.Json.Literal
import DocExamples.Yaml.Cursor

/-!
Texts in quotes. Lines inside are folded: a single line end becomes a blank, and blanks around it
do not count. Between double quotes a backslash starts an escape.
-/

namespace DocExamples.Yaml

/-- The character that an escape of one letter stands for. -/
def escapeChar? (c : Char) : Option Char :=
  let table := [('0', 0), ('a', 7), ('b', 8), ('t', 9), ('\t', 9), ('n', 10), ('v', 11),
    ('f', 12), ('r', 13), ('e', 0x1B), (' ', 0x20), ('"', 0x22), ('\\', 0x5C), ('/', 0x2F),
    ('N', 0x85), ('_', 0xA0), ('L', 0x2028), ('P', 0x2029)]
  (table.lookup c).map Char.ofNat

/-- How many hexadecimal digits follow a letter of an escape. -/
def escapeSize? (c : Char) : Option Nat :=
  [('x', 2), ('u', 4), ('U', 8)].lookup c

/-- Reads a given number of hexadecimal digits. -/
def hexNumber? (digits : List Char) : Option Nat :=
  digits.foldl (fun n c => do return 16 * (← n) + (← Json.hexValue? c)) (some 0)

/-- The character with a code that an escape gives. -/
def charOfCode (n : Nat) : Except Fault Char :=
  if n < 0x110000 then .ok (if n.isValidChar then Char.ofNat n else Char.ofNat 0xFFFD)
  else if n < 0x80000000 then
    .error (.failed ⟨"ValueError", "chr() arg not in range(0x110000)"⟩)
  else .error (.failed ⟨"OverflowError", "Python int too large to convert to C int"⟩)

/-- The line ends behind a line end inside quotes, with the blanks around them dropped. The number
of characters left bounds the steps. -/
def quotedBreaks (fuel : Nat) (c : Cursor) : Except Fault (List Char × Cursor) :=
  if c.atDocumentMark then .error .malformed
  else
    let c := (c.span fun x => x == ' ' || x == '\t').2
    match fuel, c.lineBreak with
    | 0, _ | _, ([], _) => .ok ([], c)
    | fuel + 1, (text, c) => (quotedBreaks fuel c).map fun (more, c) => (text ++ more, c)

/-- What a line end and the line ends behind it stand for. -/
def folded (first more : List Char) : List Char :=
  if first = ['\n'] then (if more.isEmpty then [' '] else more) else first ++ more

/-- The blanks and line ends at a place inside quotes. -/
def quotedSpaces (c : Cursor) : Except Fault (List Char × Cursor) :=
  let (blanks, c) := c.span fun x => x == ' ' || x == '\t'
  match c.rest with
  | [] => .error .malformed
  | _ =>
    match c.lineBreak with
    | ([], c) => .ok (blanks, c)
    | (first, c) =>
      (quotedBreaks c.rest.length c).map fun (more, c) => (folded first more, c)

/-- Reads an escape behind its backslash. -/
def readEscape (c : Cursor) : Except Fault (List Char × Cursor) :=
  match c.rest with
  | [] => .error .malformed
  | x :: rest =>
    match escapeChar? x, escapeSize? x with
    | some y, _ => .ok ([y], c.advance 1)
    | none, some size =>
      let digits := rest.take size
      if digits.length < size then .error .malformed
      else
        match hexNumber? digits with
        | none => .error .malformed
        | some n => (charOfCode n).map fun y => ([y], c.advance (1 + size))
    | none, none =>
      if isBreak x then
        let c := c.lineBreak.2
        quotedBreaks c.rest.length c
      else .error .malformed

/-- Reads a text in quotes behind its opening quote. The number of characters left bounds the
steps. -/
def readQuoted (double : Bool) (fuel : Nat) (c : Cursor) : Except Fault (List Char × Cursor) :=
  match fuel, c.rest with
  | 0, _ | _, [] => .error .malformed
  | fuel + 1, x :: rest =>
    let go (text : List Char) (c : Cursor) :=
      (readQuoted double fuel c).map fun (more, c) => (text ++ more, c)
    if x == ' ' || x == '\t' || isBreak x then
      match quotedSpaces c with
      | .error e => .error e
      | .ok (text, c) => go text c
    else if double then
      if x == '"' then .ok ([], c.advance 1)
      else if x == '\\' then
        match readEscape (c.advance 1) with
        | .error e => .error e
        | .ok (text, c) => go text c
      else go [x] (c.advance 1)
    else if x == '\'' then
      if rest.head? == some '\'' then go ['\''] (c.advance 2) else .ok ([], c.advance 1)
    else go [x] (c.advance 1)

end DocExamples.Yaml
