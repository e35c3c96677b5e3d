import DocExamples.Yaml.BlockText
import DocExamples.Yaml.Names
import DocExamples.Yaml.Plain

/-!
From a text to its tokens.

A key is known as one only by the colon behind it, so every place where a key may start is kept in
mind until the line ends or the key gets too long; when the colon comes, the tokens for the key are
put in at that place. A token is known for good once no key can start at or before it; a failure
further on leaves only those to whoever reads the tokens one by one.
-/

namespace DocExamples.Yaml

/-- A place where a key may have started. -/
structure KeyPlace where
  /-- How many tokens stand in front of it. -/
  tokens : Nat
  /-- Whether the block requires a key here. -/
  required : Bool
  index : Nat
  line : Nat
  column : Nat
  deriving Repr

/-- The tokens of a text, up to a failure where there is one. -/
structure Tokens where
  list : List Token
  /-- Why no more tokens are known. -/
  stop : Option Fault := none
  deriving DecidableEq, Repr

/-- What has been read of a text. -/
structure Scan where
  cursor : Cursor
  /-- The tokens so far, the newest first. -/
  tokens : List Token := []
  /-- The column of the innermost block, and of those around it; -1 outside all blocks. -/
  indent : Int := -1
  outer : List Int := []
  /-- How many brackets are open. -/
  brackets : Nat := 0
  /-- Whether a key may start here. -/
  keyAllowed : Bool := true
  /-- The places where keys may have started, by the number of brackets open there. -/
  keys : List (Nat × KeyPlace) := []

namespace Scan

/-- Adds a token. -/
def emit (s : Scan) (t : Token) : Scan := { s with tokens := t :: s.tokens }

/-- Holds inside brackets. -/
def inFlow (s : Scan) : Bool := s.brackets != 0

/-- Puts tokens in behind a given number of tokens. -/
def insertAfter (s : Scan) (count : Nat) (added : List Token) : Scan :=
  let later := s.tokens.length - count
  { s with tokens := s.tokens.take later ++ added.reverse ++ s.tokens.drop later }

/-- How long a key may be. -/
def longestKey : Nat := 1024

/-- Holds of a place that a key can no longer start from. -/
def isStale (s : Scan) (k : KeyPlace) : Bool :=
  k.line != s.cursor.line || s.cursor.index - k.index > longestKey

/-- Forgets the places that keys can no longer start from. -/
def forgetStale (s : Scan) : Except Fault Scan :=
  if s.keys.any fun k => s.isStale k.2 && k.2.required then .error .malformed
  else .ok { s with keys := s.keys.filter fun k => !s.isStale k.2 }

/-- Forgets the place at the present number of brackets. -/
def forgetKey (s : Scan) : Except Fault Scan :=
  if (s.keys.lookup s.brackets).any (·.required) then .error .malformed
  else .ok { s with keys := s.keys.filter fun k => k.1 != s.brackets }

/-- Keeps this place in mind if a key may start here. -/
def keepKey (s : Scan) : Except Fault Scan :=
  if s.keyAllowed then do
    let place : KeyPlace :=
      ⟨s.tokens.length, !s.inFlow && s.indent == (s.cursor.column : Int), s.cursor.index,
        s.cursor.line, s.cursor.column⟩
    let s ← s.forgetKey
    return { s with keys := (s.brackets, place) :: s.keys }
  else .ok s

/-- Ends the blocks that are indented further than a column. The number of blocks bounds the
steps. -/
def unwindTo (column : Int) (fuel : Nat) (s : Scan) : Scan :=
  match fuel with
  | 0 => s
  | fuel + 1 =>
    if !s.inFlow && s.indent > column then
      unwindTo column fuel
        { s.emit .blockEnd with indent := s.outer.headD (-1), outer := s.outer.drop 1 }
    else s

/-- Ends the blocks that are indented further than a column. -/
def unwind (s : Scan) (column : Int) : Scan := unwindTo column (s.outer.length + 1) s

/-- Begins a block at a column if it is further in than the present one; tells whether it did. -/
def indentTo (s : Scan) (column : Nat) : Bool × Scan :=
  if s.indent < (column : Int) then
    (true, { s with indent := column, outer := s.indent :: s.outer })
  else (false, s)

/-- Moves on. -/
def move (s : Scan) (n : Nat) : Scan := { s with cursor := s.cursor.advance n }

/-- Skips blanks, comments and line ends. Outside brackets a key may start on a new line. The number
of characters left bounds the steps. -/
def skipFrom (fuel : Nat) (s : Scan) : Scan :=
  let c := s.cursor.skipBlanks
  let c := if c.peek == some '#' then c.toLineEnd else c
  match fuel, c.lineBreak with
  | 0, _ | _, ([], _) => { s with cursor := c }
  | fuel + 1, (_, c) =>
    skipFrom fuel { s with cursor := c, keyAllowed := s.keyAllowed || !s.inFlow }

/-- Skips what stands between tokens, and a mark in front of the text. -/
def skip (s : Scan) : Scan :=
  let s := if s.cursor.index == 0 && s.cursor.peek == some byteOrderMark then s.move 1 else s
  skipFrom s.cursor.rest.length s

/-- Reads a directive. -/
def directive (s : Scan) : Except Fault Scan := do
  let s ← (s.unwind (-1)).forgetKey
  let (d, c) ← readDirective (s.cursor.advance 1)
  return { s with cursor := c, keyAllowed := false }.emit (.directive d)

/-- Reads a mark between documents. -/
def documentMark (s : Scan) (t : Token) : Except Fault Scan := do
  let s ← (s.unwind (-1)).forgetKey
  return ({ s with keyAllowed := false }.move 3).emit t

/-- Reads an opening bracket. -/
def openBracket (s : Scan) (t : Token) : Except Fault Scan := do
  let s ← s.keepKey
  return ({ s with brackets := s.brackets + 1, keyAllowed := true }.move 1).emit t

/-- Reads a closing bracket. -/
def closeBracket (s : Scan) (t : Token) : Except Fault Scan := do
  if s.brackets == 0 then throw .malformed
  let s ← s.forgetKey
  return ({ s with brackets := s.brackets - 1, keyAllowed := false }.move 1).emit t

/-- Reads a comma between items. -/
def comma (s : Scan) : Except Fault Scan := do
  let s ← { s with keyAllowed := true }.forgetKey
  return (s.move 1).emit .flowEntry

/-- Begins a block with a given token if it is further in; outside brackets a key has to be allowed
here. -/
def beginBlock (s : Scan) (t : Token) : Except Fault Scan :=
  if s.inFlow then .ok s
  else if s.keyAllowed then
    let (began, s) := s.indentTo s.cursor.column
    .ok (if began then s.emit t else s)
  else .error .malformed

/-- Reads the dash in front of an item. -/
def dash (s : Scan) : Except Fault Scan := do
  let s ← s.beginBlock .blockSequenceStart
  let s ← { s with keyAllowed := true }.forgetKey
  return (s.move 1).emit .blockEntry

/-- Reads the question mark in front of a key. -/
def questionMark (s : Scan) : Except Fault Scan := do
  let s ← s.beginBlock .blockMappingStart
  let s ← { s with keyAllowed := !s.inFlow }.forgetKey
  return (s.move 1).emit .key

/-- Reads the colon behind a key. -/
def colon (s : Scan) : Except Fault Scan := do
  match s.keys.lookup s.brackets with
  | some place =>
    let s := { s with keys := s.keys.filter fun k => k.1 != s.brackets, keyAllowed := false }
    let (began, s) := if s.inFlow then (false, s) else s.indentTo place.column
    let s := s.insertAfter place.tokens ((if began then [.blockMappingStart] else []) ++ [.key])
    return (s.move 1).emit .value
  | none =>
    let s ← s.beginBlock .blockMappingStart
    let s ← { s with keyAllowed := !s.inFlow }.forgetKey
    return (s.move 1).emit .value

/-- Reads a token behind which no key may start. -/
def word (s : Scan) (readWord : Cursor → Except Fault (Token × Cursor)) : Except Fault Scan := do
  let s ← s.keepKey
  let (t, c) ← readWord s.cursor
  return { s with cursor := c, keyAllowed := false }.emit t

/-- Reads a text in a block of its own. -/
def blockText (s : Scan) (fold : Bool) : Except Fault Scan := do
  let s ← { s with keyAllowed := true }.forgetKey
  let (text, c) ← readBlockText fold s.indent (s.cursor.advance 1)
  return { s with cursor := c }.emit (.scalar (String.ofList text) false)

/-- Reads a text in quotes. -/
def quoted (double : Bool) (c : Cursor) : Except Fault (Token × Cursor) :=
  (readQuoted double c.rest.length (c.advance 1)).map fun (text, c) =>
    (.scalar (String.ofList text) false, c)

/-- Reads a text without quotes. -/
def plain (s : Scan) : Except Fault Scan := do
  let s ← s.keepKey
  let (text, lineEnded, c) :=
    readPlain s.inFlow (s.indent + 1) s.cursor.rest.length [] false s.cursor
  return { s with cursor := c, keyAllowed := lineEnded }.emit (.scalar (String.ofList text) true)

/-- Holds where a text without quotes starts. -/
def startsPlain (s : Scan) (c : Char) : Bool :=
  !(endsWord (some c) || "-?:,[]\x7b\x7d#&*!|>'\"%@\x60".toList.contains c) ||
    (!endsWord (s.cursor.peekAt 1) && (c == '-' || (!s.inFlow && (c == '?' || c == ':'))))

/-- Reads one token that starts with the given character. -/
def step (s : Scan) (c : Char) : Except Fault Scan :=
  let apart := endsWord (s.cursor.peekAt 1)
  let start := s.cursor.column == 0
  if c == '%' && start then s.directive
  else if start && s.cursor.atMark "---" then s.documentMark .documentStart
  else if start && s.cursor.atMark "..." then s.documentMark .documentEnd
  else if c == '[' then s.openBracket .flowSequenceStart
  else if c == '\x7b' then s.openBracket .flowMappingStart
  else if c == ']' then s.closeBracket .flowSequenceEnd
  else if c == '\x7d' then s.closeBracket .flowMappingEnd
  else if c == ',' then s.comma
  else if c == '-' && apart then s.dash
  else if c == '?' && (s.inFlow || apart) then s.questionMark
  else if c == ':' && (s.inFlow || apart) then s.colon
  else if c == '*' then s.word fun c => (readAnchor (c.advance 1)).map fun (n, c) => (.alias n, c)
  else if c == '&' then s.word fun c => (readAnchor (c.advance 1)).map fun (n, c) => (.anchor n, c)
  else if c == '!' then s.word readTag
  else if c == '|' && !s.inFlow then s.blockText false
  else if c == '>' && !s.inFlow then s.blockText true
  else if c == '\'' then s.word (quoted false)
  else if c == '"' then s.word (quoted true)
  else if s.startsPlain c then s.plain
  else .error .malformed

/-- Reads what comes next; nothing at the end. -/
def advance? (s : Scan) : Except Fault (Option Scan) := do
  let s ← s.skip.forgetStale
  let s := s.unwind s.cursor.column
  match s.cursor.rest with
  | [] => return none
  | c :: _ => return some (← s.step c)

/-- The tokens in front of which no key can still be found. -/
def settled (s : Scan) : List Token :=
  let pending := (s.keys.filter fun k => !s.isStale k.2).map fun k => k.2.tokens
  s.tokens.reverse.take (pending.foldl min s.tokens.length)

/-- All tokens at the end of a text. -/
def finish (s : Scan) : Tokens :=
  match s.skip.forgetStale.bind fun s => (s.unwind (-1)).forgetKey with
  | .error e => ⟨s.settled, some e⟩
  | .ok s => { list := s.tokens.reverse }

/-- Reads the tokens up to the end. Every token takes a character, so the length of the text bounds
the steps. -/
def run (fuel : Nat) (s : Scan) : Tokens :=
  match fuel with
  | 0 => ⟨[], some .malformed⟩
  | fuel + 1 =>
    match s.advance? with
    | .error e => ⟨s.settled, some e⟩
    | .ok none => s.finish
    | .ok (some s) => run fuel s

end Scan

/-- The tokens of a text. -/
def tokens (text : List Char) : Tokens :=
  if text.all isPrintable then Scan.run (text.length + 1) { cursor := { rest := text } }
  else ⟨[], some .malformed⟩

end DocExamples.Yaml
