import DocExamples.Pattern.Basic
import DocExamples.Text.Blank
import DocExamples.Text.Case
import DocExamples.Text.Digit
import DocExamples.Text.Word

/-!
Finding a pattern in a text.

Matching tries the possibilities of each part in their order and goes back to the latest choice
when what follows fails. What follows a part is a function, so a part is matched by trying that
function at each of its ends in turn. The first argument of the functions below bounds the calls;
`fuelFor` computes from the pattern and the text how many there can be along one path.
-/

namespace DocExamples.Pattern

/-- A point in the text, and what the groups have captured up to there: first and last position of
the latest capture of each. -/
structure Point where
  index : Nat
  captures : List (Nat × Nat × Nat) := []
  deriving Inhabited

/-- What a group has captured. -/
def Point.capture? (p : Point) (number : Nat) : Option (Nat × Nat) := p.captures.lookup number

/-- Replaces what a group has captured. -/
def Point.setCapture (p : Point) (number first last : Nat) : Point :=
  { p with captures := (number, first, last) :: p.captures.filter (·.1 != number) }

/-- Holds of the members of a class. -/
def CharClass.holds (cls : CharClass) (ascii : Bool) (c : Char) : Bool :=
  (!ascii || c.toNat < 128) &&
    match cls with
    | .digit => Text.isDigit c
    | .blank => Text.isBlank c && !(ascii && 28 ≤ c.toNat && c.toNat ≤ 31)
    | .word => Text.isWord c || c == '_'

/-- The code points that count as equal to a character under the options. -/
def equals (o : Options) (c : Char) : List Nat :=
  if !o.ignoreCase then [c.toNat]
  else if o.ascii then
    if 'A' ≤ c && c ≤ 'Z' then [c.toNat, c.toNat + 32]
    else if 'a' ≤ c && c ≤ 'z' then [c.toNat, c.toNat - 32]
    else [c.toNat]
  else c.toNat :: Text.sameLetter c

/-- The first code point that takes more than two bytes. -/
def firstAstral : Nat := 0x10000

/-- Holds when a character is a member of a set. Without regard to case, a single code point of more
than two bytes stands for its lower-case form only, and a range of such holds every letter with a
capital in it. -/
def SetItem.holds (o : Options) (c : Char) : SetItem → Bool
  | .code n =>
    if o.ignoreCase && !o.ascii && firstAstral ≤ n then (Text.smallForm c).toNat == n
    else (equals o c).contains n
  | .range first last =>
    let inside (n : Nat) := first ≤ n && n ≤ last
    (equals o c).any inside ||
      (o.ignoreCase && firstAstral ≤ last && (Text.capitalsOf c.toNat).any inside)
  | .cls kind negated => kind.holds o.ascii c != negated

/-- Holds when a character is in a set. A set of one code point is that code point. -/
def setHolds (o : Options) (c : Char) : List SetItem → Bool
  | [.code n] => (equals o c).contains n
  | items => items.any (·.holds o c)

/-- The text that is searched. -/
abbrev Subject := Array Char

namespace Subject

/-- Holds when a word character stands at a position. -/
def isWordAt (s : Subject) (ascii : Bool) (i : Nat) : Bool :=
  match s[i]? with
  | some c => CharClass.word.holds ascii c
  | none => false

/-- Holds when a word begins or ends at a position. -/
def isBorder (s : Subject) (ascii : Bool) (i : Nat) : Bool :=
  !s.isEmpty && (i != 0 && isWordAt s ascii (i - 1)) != isWordAt s ascii i

/-- Holds when a position satisfies an anchor. -/
def meets (s : Subject) (o : Options) (i : Nat) : Anchor → Bool
  | .textStart => i == 0
  | .textEnd => i == s.size
  | .lineStart => i == 0 || (o.multiline && s[i - 1]? == some '\n')
  | .lineEnd =>
    i == s.size || (s[i]? == some '\n' && (o.multiline || i + 1 == s.size))
  | .wordBorder => isBorder s o.ascii i
  | .noWordBorder => !s.isEmpty && !isBorder s o.ascii i

/-- Holds when the character at a position, if there is one, satisfies a test. -/
def test (s : Subject) (i : Nat) (p : Char → Bool) : Bool :=
  match s[i]? with
  | some c => p c
  | none => false

/-- Holds when two characters are equal under the options of a repeated capture. -/
def sameChar (o : Options) (c d : Char) : Bool :=
  if o.ignoreCase then
    if o.ascii then (equals o c).contains d.toNat else Text.smallForm c == Text.smallForm d
  else c == d

/-- Holds when the `n` characters from one position on are those from another. -/
def repeats (s : Subject) (o : Options) (first i : Nat) : Nat → Bool
  | 0 => true
  | n + 1 =>
    match s[first]?, s[i]? with
    | some c, some d => sameChar o c d && repeats s o (first + 1) (i + 1) n
    | _, _ => false

end Subject

mutual

/-- A bound for the calls along one path through a part, in a text of the given length. -/
def Node.fuelFor (length : Nat) : Node → Nat
  | .code _ | .any | .set .. | .anchor _ | .again _ => 1
  | .group _ _ _ body | .look _ _ body | .atomic body => fuelForAll length body + 2
  | .either choices => fuelForChoices length choices + 2
  | .many least _ _ body => length + least + fuelForAll length body + 4
  | .ifGroup _ yes no => fuelForAll length yes + fuelForAll length no + 2

/-- A bound for a sequence. -/
def fuelForAll (length : Nat) : List Node → Nat
  | [] => 1
  | node :: more => node.fuelFor length + fuelForAll length more + 1

/-- A bound for a choice. -/
def fuelForChoices (length : Nat) : List (List Node) → Nat
  | [] => 1
  | choice :: more => fuelForAll length choice + fuelForChoices length more + 1

end

/-- What is to follow a part: it is tried at an end of the part. -/
abbrev Following := Point → Option Point

mutual

/-- Matches one part at a point, and then what follows. -/
def matchNode (s : Subject) (fuel : Nat) (o : Options) (node : Node) (p : Point) (k : Following) :
    Option Point :=
  match fuel with
  | 0 => none
  | fuel + 1 =>
    match node with
    | .code n => if s.test p.index fun c => (equals o c).contains n then k { p with index := p.index + 1 } else none
    | .any => if s.test p.index fun c => o.dotAll || c != '\n' then k { p with index := p.index + 1 } else none
    | .set negated items =>
      if s.test p.index fun c => setHolds o c items != negated then
        k { p with index := p.index + 1 }
      else none
    | .anchor a => if s.meets o p.index a then k p else none
    | .group number on off body =>
      matchAll s fuel (o.inGroup on off) body p fun q =>
        match number with
        | some n => k (q.setCapture n p.index q.index)
        | none => k q
    | .either choices => matchChoices s fuel o choices p k
    | .many least most greed body =>
      match greed with
      | .greedy => matchGreedy s fuel o least most body 0 none p k
      | .lazy => matchLazy s fuel o least most body 0 none p k
      | .possessive => (matchPossessive s fuel o least most body 0 none p).bind k
    | .look behind negated body =>
      let width := behind.getD 0
      let found :=
        if p.index < width then none
        else matchAll s fuel o body { p with index := p.index - width } some
      match found, negated with
      | some q, false => k { q with index := p.index }
      | none, true => k p
      | _, _ => none
    | .again number =>
      match p.capture? number with
      | none => none
      | some (first, last) =>
        if s.repeats o first p.index (last - first) then
          k { p with index := p.index + (last - first) }
        else none
    | .ifGroup number yes no =>
      if (p.capture? number).isSome then matchAll s fuel o yes p k else matchAll s fuel o no p k
    | .atomic body => (matchAll s fuel o body p some).bind k

/-- Matches a sequence. -/
def matchAll (s : Subject) (fuel : Nat) (o : Options) (nodes : List Node) (p : Point)
    (k : Following) : Option Point :=
  match fuel with
  | 0 => none
  | fuel + 1 =>
    match nodes with
    | [] => k p
    | node :: more => matchNode s fuel o node p fun q => matchAll s fuel o more q k

/-- Matches one of several sequences, trying them in order. -/
def matchChoices (s : Subject) (fuel : Nat) (o : Options) (choices : List (List Node)) (p : Point)
    (k : Following) : Option Point :=
  match fuel with
  | 0 => none
  | fuel + 1 =>
    match choices with
    | [] => none
    | choice :: more =>
      match matchAll s fuel o choice p k with
      | some q => some q
      | none => matchChoices s fuel o more p k

/-- Matches a repetition, more rounds first. `last` is where the latest round beyond the least
number began; a round that would begin there again is not tried, since it would change nothing. -/
def matchGreedy (s : Subject) (fuel : Nat) (o : Options) (least : Nat) (most : Option Nat)
    (body : List Node) (count : Nat) (last : Option Nat) (p : Point) (k : Following) :
    Option Point :=
  match fuel with
  | 0 => none
  | fuel + 1 =>
    if count < least then
      matchAll s fuel o body p fun q =>
        matchGreedy s fuel o least most body (count + 1) last q k
    else if most.all (count < ·) && last != some p.index then
      match matchAll s fuel o body p fun q =>
          matchGreedy s fuel o least most body (count + 1) (some p.index) q k with
      | some q => some q
      | none => k p
    else k p

/-- Matches a repetition, fewer rounds first. -/
def matchLazy (s : Subject) (fuel : Nat) (o : Options) (least : Nat) (most : Option Nat)
    (body : List Node) (count : Nat) (last : Option Nat) (p : Point) (k : Following) :
    Option Point :=
  match fuel with
  | 0 => none
  | fuel + 1 =>
    if count < least then
      matchAll s fuel o body p fun q => matchLazy s fuel o least most body (count + 1) last q k
    else
      match k p with
      | some q => some q
      | none =>
        if most.all (count < ·) && last != some p.index then
          matchAll s fuel o body p fun q =>
            matchLazy s fuel o least most body (count + 1) (some p.index) q k
        else none

/-- Matches as many rounds as there are, each in its first way. -/
def matchPossessive (s : Subject) (fuel : Nat) (o : Options) (least : Nat) (most : Option Nat)
    (body : List Node) (count : Nat) (last : Option Nat) (p : Point) : Option Point :=
  match fuel with
  | 0 => none
  | fuel + 1 =>
    if count < least then
      (matchAll s fuel o body p some).bind fun q =>
        matchPossessive s fuel o least most body (count + 1) last q
    else if most.all (count < ·) && last != some p.index then
      match matchAll s fuel o body p some with
      | some q => matchPossessive s fuel o least most body (count + 1) (some p.index) q
      | none => some p
    else some p

end

/-- What a search finds: the text that matched, and the text of each group that took part. -/
structure Found where
  whole : List Char
  groups : List (Option (List Char))
  deriving DecidableEq, Repr

/-- The characters from one position up to another. -/
def Subject.slice (s : Subject) (first last : Nat) : List Char := (s.extract first last).toList

/-- Matches a pattern at one position. -/
def matchAt (pattern : Pattern) (s : Subject) (index : Nat) : Option Found :=
  (matchAll s (fuelForAll s.size pattern.body) pattern.options pattern.body ⟨index, []⟩ some).map
    fun p =>
      ⟨s.slice index p.index,
        (List.range pattern.groups).map fun i =>
          (p.capture? (i + 1)).map fun (first, last) => s.slice first last⟩

/-- Tries the positions from `index` on. -/
def searchFrom (pattern : Pattern) (s : Subject) (index : Nat) : Nat → Option Found
  | 0 => none
  | n + 1 => matchAt pattern s index <|> searchFrom pattern s (index + 1) n

end DocExamples.Pattern

namespace DocExamples

/-- The first place in a text at which a pattern matches. -/
def Pattern.search (pattern : Pattern) (text : List Char) : Option Pattern.Found :=
  Pattern.searchFrom pattern text.toArray 0 (text.length + 1)

end DocExamples
