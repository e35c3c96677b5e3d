import DocExamples.Script.Numeral
import DocExamples.Text.Blank
import DocExamples.Text.Name

/-!
The tokens of script sources: numerals, texts between quotes, names, reserved words, and marks.

A token is read from the start of what is left of a source, after blanks and comments. A slash is a
mark here; only who expects an expression knows that it can start a pattern.
-/

namespace DocExamples.Script

/-- Why a source is not read. -/
inductive SourceFault where
  /-- A token where an expression should be. -/
  | unexpected (token : String)
  /-- Something else than the expected token. -/
  | expecting (token : String)
  /-- A character that starts no token. -/
  | character
  | numeral
  | textEnd
  | escape
  | commentEnd
  | patternEnd
  | fieldName
  | memberName
  | functionName
  /-- A word that no name may be. -/
  | reserved (name : String)
  /-- A mark of private names without such a name. -/
  | privateName
  /-- A sign in front of what is raised to a power. -/
  | signedPower
  /-- A value where something that holds one should be. -/
  | notAssignable
  /-- A value in place of what is counted up or down. -/
  | notCountable
  /-- Something else than a parameter. -/
  | parameter
  /-- Two ways to choose a value without brackets between them. -/
  | mixed
  /-- A pattern that is none; the text says why. -/
  | pattern (words : String)
  /-- A statement that may not stand here; the text says why. -/
  | statement (words : String)
  /-- A part of the language that is not covered. -/
  | uncovered
  deriving DecidableEq, Repr

namespace SourceFault

/-- The words for a fault. -/
def message : SourceFault → String
  | unexpected token => "unexpected token in expression: '" ++ token ++ "'"
  | expecting token => "expecting '" ++ token ++ "'"
  | character => "unexpected character"
  | numeral => "invalid number literal"
  | textEnd => "unexpected end of string"
  | escape => "malformed escape sequence in string literal"
  | commentEnd => "unexpected end of comment"
  | patternEnd => "unexpected end of regexp"
  | fieldName => "expecting field name"
  | memberName => "invalid property name"
  | functionName => "function name expected"
  | reserved name => "'" ++ name ++ "' is a reserved identifier"
  | privateName => "invalid first character of private name"
  | signedPower =>
    "unparenthesized unary expression can't appear on the left-hand side of '**'"
  | notAssignable => "invalid assignment left-hand side"
  | notCountable => "invalid increment/decrement operand"
  | parameter => "missing formal parameter"
  | mixed => "cannot mix ?? with && or ||"
  | pattern words | statement words => words
  | uncovered => "this part of the language is not covered"

end SourceFault

/-- A token. -/
inductive Token where
  /-- The end of the source. -/
  | stop
  | numeral (n : Numeral)
  | text (s : String)
  | name (s : String)
  /-- A reserved word. -/
  | word (s : String)
  /-- A reserved word with an escape in it, which is neither that word nor a name. -/
  | disguised (s : String)
  | mark (s : String)
  deriving DecidableEq, Repr

namespace Token

/-- The result of reading: what was read and what is left, or the fault. -/
abbrev Reading (α : Type) : Type := Except SourceFault (α × List Char)

/-- Holds of the characters between tokens. -/
def isBlank (c : Char) : Bool :=
  c == ' ' || (9 ≤ c.toNat && c.toNat ≤ 13) || c.toNat == 0xFEFF ||
    (128 ≤ c.toNat && c.toNat ≠ 0x85 && Text.isBlank c)

/-- Holds of the characters that end a line. -/
def isLineEnd (c : Char) : Bool :=
  c == '\n' || c == '\r' || c.toNat == 0x2028 || c.toNat == 0x2029

/-- Where blanks are dropped: between tokens, or inside a comment of either kind. -/
inductive Gap where
  | open
  | line
  | block

/-- Drops blanks and comments. -/
def skipFrom : Gap → List Char → Except SourceFault (List Char)
  | .open, '/' :: '/' :: rest => skipFrom .line rest
  | .open, '/' :: '*' :: rest => skipFrom .block rest
  | .open, '<' :: '!' :: '-' :: '-' :: rest => skipFrom .line rest
  | .open, c :: rest => if isBlank c then skipFrom .open rest else .ok (c :: rest)
  | .open, [] => .ok []
  | .line, c :: rest => skipFrom (if isLineEnd c then .open else .line) rest
  | .line, [] => .ok []
  | .block, '*' :: '/' :: rest => skipFrom .open rest
  | .block, _ :: rest => skipFrom .block rest
  | .block, [] => .error .commentEnd

/-- Drops blanks and comments between tokens. -/
def skip (s : List Char) : Except SourceFault (List Char) := skipFrom .open s

/-- Holds of the characters that names start with. -/
def isNameStart (c : Char) : Bool :=
  c.isAlpha || c == '$' || c == '_' || Text.Name.canStart c

/-- Holds of the characters that names go on with, the two that only shape their neighbours among
them. -/
def isNamePart (c : Char) : Bool :=
  isNameStart c || c.isDigit || Text.Name.canGoOn c || c.toNat == 0x200C || c.toNat == 0x200D

/-- The reserved words. -/
def reserved : List String := [
  "null", "false", "true", "if", "else", "return", "var", "this", "delete", "void", "typeof",
  "new", "in", "instanceof", "do", "while", "for", "break", "continue", "switch", "case",
  "default", "throw", "try", "catch", "finally", "function", "debugger", "with", "class", "const",
  "enum", "export", "extends", "import", "super"]

/-- The marks of several characters, so that none stands before a longer one that it starts. -/
def longMarks : List String := [
  ">>>=", "...", "?.", "===", "!==", "**=", "<<=", ">>=", ">>>", "&&=", "||=", "??=", "=>", "==", "!=",
  "<=", ">=", "&&", "||", "??", "++", "--", "+=", "-=", "*=", "/=", "%=", "&=", "|=", "^=", "<<",
  ">>", "**"]

/-- Hexadecimal digits up to a closing brace. -/
def bracedUnit? (s : List Char) : Option (Nat × List Char) :=
  match s.span fun c => (Json.hexValue? c).isSome with
  | (digits@(_ :: _), '\x7d' :: rest) =>
    let n := digits.foldl (fun n c => 16 * n + (Json.hexValue? c).getD 0) 0
    if n ≤ 0x10FFFF then some (n, rest) else none
  | _ => none

/-- The escape behind a backslash: its character, if it has one, and what follows. -/
def escape? : List Char → Option (Option Char × List Char)
  | 'n' :: rest => some (some '\n', rest)
  | 't' :: rest => some (some '\t', rest)
  | 'r' :: rest => some (some '\r', rest)
  | 'b' :: rest => some (some (Char.ofNat 8), rest)
  | 'f' :: rest => some (some (Char.ofNat 12), rest)
  | 'v' :: rest => some (some (Char.ofNat 11), rest)
  | 'x' :: a :: b :: rest => do
    let high ← Json.hexValue? a
    let low ← Json.hexValue? b
    some (some (Char.ofNat (16 * high + low)), rest)
  | 'x' :: _ => none
  | 'u' :: '\x7b' :: rest => (bracedUnit? rest).map fun (n, rest) => (some (Char.ofNat n), rest)
  | 'u' :: rest =>
    (Json.readUnit rest).map fun (unit, rest) =>
      let (c, rest) := Json.unitChar unit rest
      (some c, rest)
  | '\r' :: '\n' :: rest => some (none, rest)
  | c :: rest =>
    if isLineEnd c then some (none, rest)
    else if '0' ≤ c ∧ c ≤ '7' then
      let digits := (c :: rest.take (if c ≤ '3' then 2 else 1)).takeWhile fun d => '0' ≤ d ∧ d ≤ '7'
      let n := digits.foldl (fun n d => 8 * n + (d.toNat - 48)) 0
      some (some (Char.ofNat n), (c :: rest).drop digits.length)
    else some (some c, rest)
  | [] => none

/-- The quote of templates. -/
def backquote : Char := Char.ofNat 96

/-- Reads a text up to its closing quote. The text read so far is held in reverse; the first
argument bounds the steps. -/
def textWithin (quote : Char) : Nat → List Char → List Char → Reading String
  | 0, _, _ => .error .textEnd
  | _ + 1, _, [] => .error .textEnd
  | fuel + 1, acc, c :: rest =>
    if c = quote then .ok (String.ofList acc.reverse, rest)
    else if c = '\\' then
      match rest, escape? rest with
      | [], _ => .error .textEnd
      | _, none => .error .escape
      | _, some (x, rest) => textWithin quote fuel (x.toList ++ acc) rest
    else if c = '\n' ∨ c = '\r' then .error .textEnd
    else textWithin quote fuel (c :: acc) rest

/-- Reads a part of a template up to its closing quote or to a part that is computed, which the flag
tells. The text read so far is held in reverse; the first argument bounds the steps. -/
def templateWithin : Nat → List Char → List Char → Reading (String × Bool)
  | 0, _, _ => .error .textEnd
  | _ + 1, _, [] => .error .textEnd
  | fuel + 1, acc, c :: rest =>
    if c = backquote then .ok ((String.ofList acc.reverse, false), rest)
    else if c = '$' ∧ rest.head? = some '\x7b' then
      .ok ((String.ofList acc.reverse, true), rest.drop 1)
    else if c = '\\' then
      match rest, escape? rest with
      | [], _ => .error .textEnd
      | _, none => .error .escape
      | _, some (x, rest) => templateWithin fuel (x.toList ++ acc) rest
    else if c = '\r' then
      templateWithin fuel ('\n' :: acc) (if rest.head? = some '\n' then rest.drop 1 else rest)
    else templateWithin fuel (c :: acc) rest

/-- Reads a part of a template. -/
def templatePart (s : List Char) : Reading (String × Bool) := templateWithin (s.length + 1) [] s

/-- How many characters there are up to a closing quote. -/
def extent (quote : Char) : List Char → Nat
  | '\\' :: _ :: rest => extent quote rest + 2
  | c :: rest => if c = quote then 1 else extent quote rest + 1
  | [] => 0

/-- Reads a text up to its closing quote. -/
def readText (quote : Char) (s : List Char) : Reading String :=
  textWithin quote (extent quote s + 1) [] s

/-- Reads a numeral. No name may follow at once. -/
def readNumeral (s : List Char) : Reading Token :=
  match Numeral.read? s with
  | some (n, rest) =>
    if rest.head?.any isNamePart then .error .numeral else .ok (.numeral n, rest)
  | none => .error .numeral

/-- A character of a name, as it stands or behind an escape, which the flag tells. -/
def nameChar? : List Char → Option (Char × Bool × List Char)
  | '\\' :: 'u' :: rest =>
    match escape? ('u' :: rest) with
    | some (some c, rest) => some (c, true, rest)
    | _ => none
  | c :: rest => some (c, false, rest)
  | [] => none

/-- Takes the rest of a name; the flag tells whether there is an escape in it. The first argument
bounds the steps. -/
def nameRest : Nat → List Char → (List Char × Bool) × List Char
  | 0, s => (([], false), s)
  | fuel + 1, s =>
    match nameChar? s with
    | some (c, escaped, rest) =>
      if isNamePart c then
        let ((tail, more), rest) := nameRest fuel rest
        ((c :: tail, escaped || more), rest)
      else (([], false), s)
    | none => (([], false), s)

/-- Takes a name, if one comes next. -/
def name? (s : List Char) : Option ((String × Bool) × List Char) :=
  match nameChar? s with
  | some (c, escaped, rest) =>
    if isNameStart c then
      let ((tail, more), rest) := nameRest (rest.length + 1) rest
      some ((String.ofList (c :: tail), escaped || more), rest)
    else none
  | none => none

/-- Reads a mark. -/
def readMark (c : Char) (rest : List Char) : Reading Token :=
  if c = '#' then
    match name? rest with
    | some ((s, _), rest) => .ok (.mark ("#" ++ s), rest)
    | none => .error .privateName
  else
    match longMarks.find? fun m => m.toList.isPrefixOf (c :: rest) with
    | some m =>
      if m = "?." ∧ (rest.drop 1).head?.any Char.isDigit then .ok (.mark "?", rest)
      else .ok (.mark m, (c :: rest).drop m.length)
    | none =>
      if 128 ≤ c.toNat then .error .character else .ok (.mark (String.singleton c), rest)

/-- Reads the token at the start of a text that starts with no blank. The quote of templates is a
mark of its own. -/
def readHere : List Char → Reading Token
  | [] => .ok (.stop, [])
  | c :: rest =>
    if c = '"' ∨ c = '\'' then (readText c rest).map fun (s, rest) => (.text s, rest)
    else if c.isDigit ∨ (c = '.' ∧ rest.head?.any Char.isDigit) then readNumeral (c :: rest)
    else
      match name? (c :: rest) with
      | some ((s, escaped), rest) =>
        .ok (if !reserved.contains s then .name s
          else if escaped then .disguised s
          else .word s, rest)
      | none => readMark c rest

/-- Reads a token after blanks and comments. -/
def read (s : List Char) : Reading Token := (skip s).bind readHere

/-- The token at the start of a source as it is written. -/
def written (s : List Char) : Except SourceFault String := do
  let s ← skip s
  let (_, rest) ← readHere s
  return String.ofList (s.take (s.length - rest.length))

/-- The fault of a token where an expression should be. -/
def unexpected {α : Type} (s : List Char) : Except SourceFault α := do
  throw (.unexpected (← written s))

/-- Takes a mark that has to come next. -/
def expect (mark : String) (s : List Char) : Except SourceFault (List Char) := do
  match ← read s with
  | (.mark m, rest) => if m = mark then return rest else throw (.expecting mark)
  | _ => throw (.expecting mark)

end Token

end DocExamples.Script
