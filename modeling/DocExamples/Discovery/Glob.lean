import DocExamples.Files.Tree
import DocExamples.Text.Blank

/-!
Globs, which are patterns of file names, and the ignore rules that are made of them.

A star stands for any text, a question mark for any character, brackets for one character of a set
or, after an exclamation mark, for one outside it. Everything stands for slashes too. A bracket
without its partner stands for itself.
-/

namespace DocExamples.Glob

/-- One character of a set, or a range. -/
inductive Item where
  | one (c : Char)
  | range (first last : Char)
  deriving DecidableEq, Repr

/-- A part of a glob. -/
inductive Part where
  | char (c : Char)
  | any
  | set (negated : Bool) (items : List Item)
  | star
  deriving DecidableEq, Repr

/-- The chunks of a set between the hyphens that can stand in a range. The first `skip` characters
are no such hyphens; nor are the two characters behind one. -/
def chunksFrom (skip : Nat) (chunk : List Char) : List Char → List (List Char)
  | [] => [chunk.reverse]
  | c :: rest =>
    if c = '-' ∧ skip = 0 then chunk.reverse :: chunksFrom 2 [] rest
    else chunksFrom (skip - 1) (c :: chunk) rest

/-- A hyphen at the very end of a set belongs to the chunk before it. -/
def closeChunks : List (List Char) → List (List Char)
  | [] => []
  | [chunk, []] => [chunk ++ ['-']]
  | chunk :: more => chunk :: closeChunks more

/-- Joins chunks where the range between them would be empty; its two ends are dropped. -/
def dropEmptyRanges : List (List Char) → List (List Char)
  | [] => []
  | chunk :: more =>
    match dropEmptyRanges more with
    | [] => [chunk]
    | next :: others =>
      match chunk.getLast?, next with
      | some last, first :: rest =>
        if first < last then (chunk.dropLast ++ rest) :: others else chunk :: next :: others
      | _, _ => chunk :: next :: others

/-- The items of chunks: a range between each two neighbours, and every other character. The first
character of the first chunk is left out when it already ends a range. A hyphen with nothing in
front of it opens no range and stands for itself. -/
def itemsFrom (ended : Bool) : List (List Char) → List Item
  | [] => []
  | [] :: more => if more.isEmpty then [] else .one '-' :: itemsFrom false more
  | chunk :: more =>
    let own := if ended then chunk.drop 1 else chunk
    match chunk.getLast?, more.head?.bind (·.head?) with
    | some last, some first => own.dropLast.map .one ++ .range last first :: itemsFrom true more
    | _, _ => own.map .one ++ itemsFrom false more

/-- The chunks of the inside of brackets, without empty ranges. -/
def chunksOf (inside : List Char) : List (List Char) :=
  let skip := match inside with
    | '!' :: _ => 2
    | _ => 1
  dropEmptyRanges (closeChunks (chunksFrom skip [] inside))

/-- The part for the inside of brackets. What is left without items matches nothing, or with an
exclamation mark anything. -/
def setPart (inside : List Char) : Part :=
  match chunksOf inside with
  | ('!' :: chunk) :: more => .set true (itemsFrom false (chunk :: more))
  | chunks => .set false (itemsFrom false chunks)

/-- The inside of brackets after the opening one, and what follows. A closing bracket that comes
first, or right after the exclamation mark, belongs to the inside. -/
def brackets? (s : List Char) : Option (List Char × List Char) :=
  let (mark, s) := match s with
    | '!' :: rest => (['!'], rest)
    | s => ([], s)
  let (first, s) := match s with
    | ']' :: rest => ([']'], rest)
    | s => ([], s)
  match s.span (· ≠ ']') with
  | (inside, _ :: rest) => some (mark ++ first ++ inside, rest)
  | (_, []) => none

/-- Reads a glob; each step uses up a character. -/
def partsFrom (fuel : Nat) (s : List Char) : List Part :=
  match fuel, s with
  | 0, _ => []
  | _ + 1, [] => []
  | fuel + 1, c :: rest =>
    if c = '*' then .star :: partsFrom fuel rest
    else if c = '?' then .any :: partsFrom fuel rest
    else if c = '[' then
      match brackets? rest with
      | some (inside, rest) => setPart inside :: partsFrom fuel rest
      | none => .char '[' :: partsFrom fuel rest
    else .char c :: partsFrom fuel rest

/-- Reads a glob. -/
def parts (glob : List Char) : List Part := partsFrom glob.length glob

/-- Holds when an item contains a character. -/
def Item.holds (c : Char) : Item → Bool
  | .one d => c == d
  | .range first last => first ≤ c && c ≤ last

/-- Holds when a part other than a star stands for a character. -/
def Part.holds (c : Char) : Part → Bool
  | .char d => c == d
  | .any => true
  | .set negated items => items.any (·.holds c) != negated
  | .star => false

/-- Holds when some rest of a text satisfies a test. -/
def anyRest (test : List Char → Bool) : List Char → Bool
  | [] => test []
  | c :: rest => test (c :: rest) || anyRest test rest

/-- Holds when parts stand for a whole text. -/
def matchParts : List Part → List Char → Bool
  | [], s => s.isEmpty
  | .star :: more, s => anyRest (matchParts more) s
  | part :: more, s =>
    match s with
    | c :: rest => part.holds c && matchParts more rest
    | [] => false

/-- Holds when a glob stands for a text. -/
def holds (glob text : List Char) : Bool := matchParts (parts glob) text

end DocExamples.Glob

/-!
## Ignore rules

Ignore rules are the lines of an ignore file, and the entries of a configuration that read like
them.

A rule without a slash, other than one at its end, is about single names anywhere on a path; every
other rule is about whole paths below the directory that is searched. The last rule that applies
decides, and a rule behind an exclamation mark decides against ignoring.
-/

namespace DocExamples

/-- One ignore rule. -/
structure IgnoreRule where
  glob : List Char
  /-- Whether the rule is about whole paths. -/
  anchored : Bool
  negated : Bool
  dirsOnly : Bool
  deriving DecidableEq, Repr

namespace IgnoreRule

/-- Drops the slashes a text ends with. -/
def dropSlashes (s : List Char) : List Char := Text.dropTrailing (· == '/') s

/-- Reads a line; blank lines and comments hold no rule. -/
def parse (line : List Char) : Option IgnoreRule :=
  let stripped := Text.strip line
  if stripped.isEmpty || "#".toList.isPrefixOf stripped then none
  else
    let body := stripped.dropWhile (· == '!')
    let glob := dropSlashes (body.dropWhile (· == '/'))
    if glob.isEmpty then none
    else some {
      glob := glob
      anchored := (dropSlashes body).contains '/'
      negated := "!".toList.isPrefixOf stripped
      dirsOnly := "/".toList.isSuffixOf body }

/-- Holds when a rule applies to a path below the searched directory. -/
def applies (r : IgnoreRule) (path : List Char) (isDirectory : Bool) : Bool :=
  if r.dirsOnly && !isDirectory then false
  else if r.anchored then Glob.holds r.glob path || (r.glob ++ ['/']).isPrefixOf path
  else (Text.splitAt '/' path).any (Glob.holds r.glob)

end IgnoreRule

namespace IgnoreRules

/-- The rules that lines hold. -/
def ofLines (lines : List (List Char)) : List IgnoreRule := lines.filterMap IgnoreRule.parse

/-- The rules of the text of an ignore file. -/
def ofText (text : String) : List IgnoreRule := ofLines (Text.breakLines text.toList)

/-- Holds when the last rule that applies ignores a path. -/
def ignores (rules : List IgnoreRule) (path : List Char) (isDirectory : Bool) : Bool :=
  match rules.reverse.find? (·.applies path isDirectory) with
  | some rule => !rule.negated
  | none => false

end IgnoreRules

end DocExamples
