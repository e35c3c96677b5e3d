import DocExamples.Yaml.Quotes

/-!
Texts without quotes. They end at a colon or a number sign that stands apart, inside brackets also
at a comma or a bracket, and where a following line is not indented further than the block.
-/

namespace DocExamples.Yaml

/-- Holds of the characters that mean something inside brackets. -/
def isFlowMark (c : Char) : Bool := [',', '[', ']', '\x7b', '\x7d'].contains c

/-- Holds where a text without quotes ends. -/
def endsPlain (inFlow : Bool) (c : Char) (next : Option Char) : Bool :=
  endsWord (some c) ||
    (c == ':' && (endsWord next || (inFlow && next.any isFlowMark))) ||
    (inFlow && (c == '?' || isFlowMark c))

/-- The piece of a text without quotes that stands at the front. -/
def plainPiece (inFlow : Bool) : List Char → List Char
  | [] => []
  | c :: rest => if endsPlain inFlow c rest.head? then [] else c :: plainPiece inFlow rest

/-- The line ends behind a line end; `none` at a mark between documents. The number of characters
left bounds the steps. -/
def plainBreaks (fuel : Nat) (c : Cursor) : Option (List Char) × Cursor :=
  let c := c.skipBlanks
  match fuel, c.lineBreak with
  | 0, _ | _, ([], _) => (some [], c)
  | fuel + 1, (text, c) =>
    if c.atDocumentMark then (none, c)
    else
      let (more, c) := plainBreaks fuel c
      (more.map (text ++ ·), c)

/-- The blanks or line ends behind a piece: what they stand for, whether a line ended, and the
place behind them. Nothing stands for the end of the text. -/
def plainSpaces (c : Cursor) : List Char × Bool × Cursor :=
  let (blanks, c) := c.span (· == ' ')
  match c.lineBreak with
  | ([], c) => (blanks, false, c)
  | (first, c) =>
    if c.atDocumentMark then ([], true, c)
    else
      let (more, c) := plainBreaks c.rest.length c
      match more with
      | none => ([], true, c)
      | some more => (folded first more, true, c)

/-- Reads a text without quotes: the text, whether a line ended behind it, and the place there.
`indent` is the least column of its further lines. -/
def readPlain (inFlow : Bool) (indent : Int) (fuel : Nat) (spaces : List Char) (lineEnded : Bool)
    (c : Cursor) : List Char × Bool × Cursor :=
  match fuel with
  | 0 => ([], lineEnded, c)
  | fuel + 1 =>
    if c.peek == some '#' then ([], lineEnded, c)
    else
      let piece := plainPiece inFlow c.rest
      if piece.isEmpty then ([], lineEnded, c)
      else
        let (next, ended, after) := plainSpaces (c.advance piece.length)
        if next.isEmpty || after.peek == some '#' ||
            (!inFlow && (after.column : Int) < indent) then
          (spaces ++ piece, ended, after)
        else
          let (more, ended, after) := readPlain inFlow indent fuel next ended after
          (spaces ++ piece ++ more, ended, after)

end DocExamples.Yaml
