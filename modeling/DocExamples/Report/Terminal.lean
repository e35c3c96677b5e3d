import DocExamples.Report.Markup
import DocExamples.Text.Columns
import DocExamples.Text.Lines

/-!
A plain terminal: a terminal library that shows lines without colours.

Controls that move the cursor do not appear, and a tab goes on to the next column that is a
multiple of eight. Lines may have any width, and the names of signs between colons stay as they are.
-/

namespace DocExamples.Terminal

/-- Holds of the controls that are left out. -/
def isDropped (c : Char) : Bool :=
  let n := c.toNat
  n == 7 || n == 8 || n == 11 || n == 12 || n == 13

/-- How far columns with tabs stand apart. -/
def tabSize : Nat := 8

/-- Puts the parts of a line between its tabs together again, from the given column on. A tab is a
blank, and as many more as lead to the next column for tabs. -/
def joinTabbed (column : Nat) : List (List Char) → List Char
  | [] => []
  | [part] => part
  | part :: more =>
    let here := column + Text.columns (part ++ [' '])
    let added := (tabSize - here % tabSize) % tabSize
    part ++ ' ' :: (List.replicate added ' ' ++ joinTabbed (here + added) more)

/-- Replaces the tabs of a line. -/
def expandTabs (line : List Char) : List Char := joinTabbed 0 (Text.splitAt '\t' line)

/-- A text as it appears. -/
def shown (s : List Char) : List Char :=
  Text.joinWith ['\n'] ((Text.splitLines (s.filter fun c => !isDropped c)).map expandTabs)

/-! ## Tags -/

/-- Holds of what the name in a tag starts with. -/
def startsTag (c : Char) : Bool := ('a' ≤ c && c ≤ 'z') || c == '#' || c == '/' || c == '@'

/-- Holds when a tag starts behind a bracket. -/
def isTag : List Char → Bool
  | [] => false
  | c :: rest => startsTag c && (rest.dropWhile fun c => c != '[' && c != ']').head? == some ']'

/-- Backslashes in a row. -/
def backslashes (n : Nat) : List Char := List.replicate n '\\'

/-- Escapes the tags of a text, given how many backslashes stand in front of it: they are doubled
where a tag follows, which gets one more. -/
def escapeTags (before : Nat) : List Char → List Char
  | [] => backslashes before
  | c :: rest =>
    if c = '\\' then escapeTags (before + 1) rest
    else if c = '[' && isTag rest then backslashes (2 * before + 1) ++ '[' :: escapeTags 0 rest
    else backslashes before ++ c :: escapeTags 0 rest

/-- Markup that stands for a text. A lone backslash at its end, which could escape what follows, is
doubled as well. -/
def escape (s : List Char) : List Char :=
  let escaped := escapeTags 0 s
  match escaped.reverse with
  | '\\' :: '\\' :: _ => escaped
  | '\\' :: _ => escaped ++ ['\\']
  | _ => escaped

/-- Takes the tags out of markup, given how many backslashes stand in front of it and whether it
starts inside a tag. Two backslashes in front of a tag stand for one, and one that is left over
makes it no tag; a bracket that starts no tag may have one in front of it, too. -/
def dropTags (inTag : Bool) (before : Nat) : List Char → List Char
  | [] => backslashes before
  | c :: rest =>
    if inTag then dropTags (c != ']') 0 rest
    else if c = '\\' then dropTags false (before + 1) rest
    else if c = '[' then
      if isTag rest then
        if before % 2 = 0 then backslashes (before / 2) ++ dropTags true 0 rest
        else backslashes (before / 2) ++ '[' :: dropTags false 0 rest
      else backslashes (before - 1) ++ '[' :: dropTags false 0 rest
    else backslashes before ++ c :: dropTags false 0 rest

/-! ## Log records -/

/-- The name of a level in a column of its own. -/
def levelColumn (l : Log.Level) : List Char :=
  l.name.toList ++ List.replicate (9 - l.name.length) ' '

/-- A log record: the lines of the message stand in a column beside the level. -/
def recordText (r : Log.Record) : List Char :=
  let lines := Text.splitLines (shown r.message.toList)
  let margin := levelColumn r.level :: List.replicate (lines.length - 1) (List.replicate 9 ' ')
  (List.zipWith (· ++ ·) margin lines).flatMap (· ++ ['\n'])

/-- The plain terminal. -/
def library : TerminalLibrary where
  escape := escape
  shown := fun line => shown (dropTags false 0 line.markup) ++ line.ending
  logged := recordText

end DocExamples.Terminal
