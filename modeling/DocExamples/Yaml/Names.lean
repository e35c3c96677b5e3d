import DocExamples.Number.Limit
import DocExamples.Text.Utf8
import DocExamples.Yaml.Quotes
import DocExamples.Yaml.Token

/-!
Names in the settings language: anchors, tags with their handles, and directives.
-/

namespace DocExamples.Yaml

/-- Holds of the characters of names. -/
def isNameChar (c : Char) : Bool := c.isAlphanum || c == '-' || c == '_'

/-- Holds of the characters that tags may hold besides. -/
def isTagChar (c : Char) : Bool := isNameChar c || ";/?:@&=+$,_.!~*'()[]%".toList.contains c

/-- Reads the name of an anchor behind its mark. -/
def readAnchor (c : Cursor) : Except Fault (String × Cursor) :=
  let (name, c) := c.span isNameChar
  let ended := endsWord c.peek || c.peek.any "?:,]\x7d%@\x60".toList.contains
  if name.isEmpty || !ended then .error .malformed else .ok (String.ofList name, c)

/-- Reads the bytes of escapes with percent signs. -/
def readPercents (fuel : Nat) (c : Cursor) : Except Fault (List UInt8 × Cursor) :=
  match fuel, c.rest with
  | fuel + 1, '%' :: a :: b :: _ =>
    match hexNumber? [a, b] with
    | none => .error .malformed
    | some n => (readPercents fuel (c.advance 3)).map fun (more, c) => (n.toUInt8 :: more, c)
  | _, '%' :: _ => .error .malformed
  | _, _ => .ok ([], c)

/-- Reads the pieces of a tag. -/
def readTagPieces (fuel : Nat) (c : Cursor) : Except Fault (List Char × Cursor) :=
  match fuel, c.peek with
  | fuel + 1, some x =>
    if x == '%' then
      match readPercents c.rest.length c with
      | .error e => .error e
      | .ok (bytes, c) =>
        match Utf8.decode bytes with
        | .error _ => .error .malformed
        | .ok text => (readTagPieces fuel c).map fun (more, c) => (text ++ more, c)
    else if isTagChar x then
      let (text, c) := c.span fun y => isTagChar y && y != '%'
      (readTagPieces fuel c).map fun (more, c) => (text ++ more, c)
    else .ok ([], c)
  | _, _ => .ok ([], c)

/-- Reads the text of a tag, which is not empty. -/
def readTagText (c : Cursor) : Except Fault (String × Cursor) := do
  let (text, c) ← readTagPieces c.rest.length c
  if text.isEmpty then throw .malformed else return (String.ofList text, c)

/-- Reads the handle of a tag: an exclamation mark, or a name between two. -/
def readHandle (c : Cursor) : Except Fault (String × Cursor) :=
  match c.rest with
  | '!' :: ' ' :: _ => .ok ("!", c.advance 1)
  | '!' :: _ =>
    let (name, c) := (c.advance 1).span isNameChar
    if c.peek == some '!' then .ok (String.ofList ('!' :: (name ++ ['!'])), c.advance 1)
    else .error .malformed
  | _ => .error .malformed

/-- Holds when a tag has a handle with a second exclamation mark. -/
def hasHandle (s : List Char) : Bool :=
  (s.takeWhile fun c => !endsName (some c)).contains '!'

/-- Reads a tag from its exclamation mark on. -/
def readTag (c : Cursor) : Except Fault (Token × Cursor) := do
  let inside := c.advance 1
  let (token, c) : Token × Cursor ←
    if inside.peek == some '<' then do
      let (text, c) ← readTagText (inside.advance 1)
      if c.peek == some '>' then pure (.tag none text, c.advance 1) else throw .malformed
    else if endsWord inside.peek then pure (.tag none "!", inside)
    else if hasHandle inside.rest then do
      let (handle, c) ← readHandle c
      let (text, c) ← readTagText c
      pure (.tag (some handle) text, c)
    else do
      let (text, c) ← readTagText inside
      pure (.tag (some "!") text, c)
  if endsName c.peek then return (token, c) else throw .malformed

/-- Reads a number of a version. -/
def readVersionPart (c : Cursor) : Except Fault (Nat × Cursor) :=
  let (digits, c) := c.span Char.isDigit
  if digits.isEmpty then .error .malformed
  else
    match Number.ofDigits digits with
    | .ok n => .ok (n, c)
    | .error t => .error (.failed t.failure)

/-- Reads a version. -/
def readVersion (c : Cursor) : Except Fault (Directive × Cursor) := do
  let (major, c) ← readVersionPart c.skipBlanks
  if c.peek != some '.' then throw .malformed
  let (minor, c) ← readVersionPart (c.advance 1)
  if endsName c.peek then return (.version major minor, c) else throw .malformed

/-- Reads a handle and what it stands for. -/
def readHandleDirective (c : Cursor) : Except Fault (Directive × Cursor) := do
  let (handle, c) ← readHandle c.skipBlanks
  if c.peek != some ' ' then throw .malformed
  let (text, c) ← readTagText c.skipBlanks
  if endsName c.peek then return (.handle handle text, c) else throw .malformed

/-- Reads a directive behind its percent sign, to the end of its line. -/
def readDirective (c : Cursor) : Except Fault (Directive × Cursor) := do
  let (name, c) := c.span isNameChar
  if name.isEmpty || !endsName c.peek then throw .malformed
  let (directive, c) : Directive × Cursor ←
    if name == "YAML".toList then readVersion c
    else if name == "TAG".toList then readHandleDirective c
    else pure (.unknown, c.toLineEnd)
  let c := c.skipBlanks
  let c := if c.peek == some '#' then c.toLineEnd else c
  if endsLine c.peek then return (directive, c.lineBreak.2) else throw .malformed

end DocExamples.Yaml
