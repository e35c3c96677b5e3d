import DocExamples.Yaml.Cursor

/-!
Texts in a block of their own, behind a bar or an angle bracket. The bar keeps line ends, the
bracket folds them; a sign behind it says whether line ends at the end are kept, and a digit how
far the block is indented.
-/

namespace DocExamples.Yaml

/-- What is said at the head of a block. -/
structure BlockHead where
  /-- Whether line ends at the end are all kept, or all dropped. -/
  keep : Option Bool := none
  indent : Option Nat := none
  deriving DecidableEq, Repr

/-- The value of a decimal digit. -/
def digit? (c : Char) : Option Nat := if c.isDigit then some (c.toNat - 48) else none

/-- Reads the sign at the head of a block. -/
def readKeep (c : Cursor) : Option Bool × Cursor :=
  match c.peek with
  | some '+' => (some true, c.advance 1)
  | some '-' => (some false, c.advance 1)
  | _ => (none, c)

/-- Reads the digit at the head of a block, which is not zero. -/
def readIndent (c : Cursor) : Except Fault (Option Nat × Cursor) :=
  match c.peek.bind digit? with
  | none => .ok (none, c)
  | some 0 => .error .malformed
  | some n => .ok (some n, c.advance 1)

/-- Reads the sign and the digit, in either order. -/
def readSigns (c : Cursor) : Except Fault (BlockHead × Cursor) :=
  match readKeep c with
  | (some keep, c) => (readIndent c).map fun (indent, c) => (⟨some keep, indent⟩, c)
  | (none, c) =>
    match readIndent c with
    | .error e => .error e
    | .ok (none, c) => .ok (⟨none, none⟩, c)
    | .ok (some indent, c) =>
      let (keep, c) := readKeep c
      .ok (⟨keep, some indent⟩, c)

/-- Reads the rest of a line that holds nothing but a comment. -/
def readRestOfLine (c : Cursor) : Except Fault Cursor :=
  let c := c.skipBlanks
  let c := if c.peek == some '#' then c.toLineEnd else c
  if endsLine c.peek then .ok c.lineBreak.2 else .error .malformed

/-- Reads the head of a block. -/
def readBlockHead (c : Cursor) : Except Fault (BlockHead × Cursor) := do
  let (head, c) ← readSigns c
  if endsName c.peek then
    let c ← readRestOfLine c
    return (head, c)
  else throw .malformed

/-- The line ends in front of the first line of a block, and the greatest column reached there. -/
def firstBreaks (fuel widest : Nat) (c : Cursor) : List Char × Nat × Cursor :=
  let c := c.skipBlanks
  let widest := max widest c.column
  match fuel, c.lineBreak with
  | 0, _ | _, ([], _) => ([], widest, c)
  | fuel + 1, (text, c) =>
    let (more, widest, c) := firstBreaks fuel widest c
    (text ++ more, widest, c)

/-- Skips blanks up to a column. -/
def skipTo (column : Nat) (c : Cursor) : Cursor :=
  c.advance ((c.rest.take (column - c.column)).takeWhile (· == ' ')).length

/-- The line ends in front of a further line of a block, whose indentation is skipped. -/
def blockBreaks (fuel indent : Nat) (c : Cursor) : List Char × Cursor :=
  let c := skipTo indent c
  match fuel, c.lineBreak with
  | 0, _ | _, ([], _) => ([], c)
  | fuel + 1, (text, c) =>
    let (more, c) := blockBreaks fuel indent c
    (text ++ more, c)

/-- Holds where a line starts that folding leaves alone. -/
def startsBlank (c : Cursor) : Bool := c.peek == some ' ' || c.peek == some '\t'

/-- What stands between two lines of a block. -/
def between (fold : Bool) (first next : Bool) (lineEnd breaks : List Char) : List Char :=
  if fold && lineEnd == ['\n'] && !first && !next then
    (if breaks.isEmpty then [' '] else []) ++ breaks
  else lineEnd ++ breaks

/-- Reads the lines of a block: their text, the line end behind the last of them, and the further
line ends behind that. -/
def readLines (fold : Bool) (indent fuel : Nat) (c : Cursor) :
    List Char × List Char × List Char × Cursor :=
  match fuel with
  | 0 => ([], [], [], c)
  | fuel + 1 =>
    let first := startsBlank c
    let (line, after) := c.span fun x => !isBreak x
    let (lineEnd, after) := after.lineBreak
    let (breaks, after) := blockBreaks after.rest.length indent after
    if after.column == indent && !after.rest.isEmpty then
      let (text, lastEnd, lastBreaks, c) := readLines fold indent fuel after
      (line ++ between fold first (startsBlank after) lineEnd breaks ++ text, lastEnd, lastBreaks,
        c)
    else (line, lineEnd, breaks, after)

/-- The least indentation of a block in a block with the given one. -/
def leastIndent (outer : Int) : Nat := (max 1 (outer + 1)).toNat

/-- Reads a text in a block behind its bar or bracket. `outer` is the indentation around it. -/
def readBlockText (fold : Bool) (outer : Int) (c : Cursor) :
    Except Fault (List Char × Cursor) := do
  let (head, c) ← readBlockHead c
  let (breaks, indent, c) : List Char × Nat × Cursor :=
    match head.indent with
    | none =>
      let (breaks, widest, c) := firstBreaks c.rest.length 0 c
      (breaks, max (leastIndent outer) widest, c)
    | some n =>
      let indent := leastIndent outer + n - 1
      let (breaks, c) := blockBreaks c.rest.length indent c
      (breaks, indent, c)
  if c.column == indent && !c.rest.isEmpty then
    let (text, lineEnd, more, c) := readLines fold indent c.rest.length c
    return (breaks ++ text ++ (if head.keep == some false then [] else lineEnd) ++
      (if head.keep == some true then more else []), c)
  else return (if head.keep == some true then breaks else [], c)

end DocExamples.Yaml
