/-!
Patterns: the regular expressions that name families of modules.

A pattern is a tree over code points. What a leaf matches can depend on options (case, lines, the
width of the character classes); groups may turn options on and off for their own contents, so the
options are no part of the leaves and are handed down while matching.
-/

namespace DocExamples

namespace Pattern

/-- Options of a pattern or of a part of it. -/
structure Options where
  ignoreCase : Bool := false
  multiline : Bool := false
  dotAll : Bool := false
  verbose : Bool := false
  /-- Character classes hold ASCII characters only. -/
  ascii : Bool := false
  /-- Character classes hold characters of every script, which is the default. -/
  unicode : Bool := false
  template : Bool := false
  deriving DecidableEq, Repr, Inhabited

namespace Options

/-- Options that either side turns on. -/
def union (a b : Options) : Options :=
  ⟨a.ignoreCase || b.ignoreCase, a.multiline || b.multiline, a.dotAll || b.dotAll,
    a.verbose || b.verbose, a.ascii || b.ascii, a.unicode || b.unicode, a.template || b.template⟩

/-- Options of `a` that `b` does not name. -/
def without (a b : Options) : Options :=
  ⟨a.ignoreCase && !b.ignoreCase, a.multiline && !b.multiline, a.dotAll && !b.dotAll,
    a.verbose && !b.verbose, a.ascii && !b.ascii, a.unicode && !b.unicode,
    a.template && !b.template⟩

/-- Options that both sides turn on. -/
def common (a b : Options) : Options := a.without (a.without b)

/-- Holds when no option is on. -/
def isNone (a : Options) : Bool := a = {}

/-- The options inside a group that turns some on and some off. A group that chooses the width of
the character classes replaces the choice made outside. -/
def inGroup (outer on off : Options) : Options :=
  let outer := if on.ascii || on.unicode then { outer with ascii := false, unicode := false }
    else outer
  (outer.union on).without off

end Options

/-- The named classes of characters. -/
inductive CharClass where
  | digit
  | blank
  | word
  deriving DecidableEq, Repr

/-- One member of a character set. -/
inductive SetItem where
  | code (n : Nat)
  | range (first last : Nat)
  | cls (c : CharClass) (negated : Bool)
  deriving DecidableEq, Repr

/-- A position that a pattern can require. -/
inductive Anchor where
  | lineStart
  | lineEnd
  | textStart
  | textEnd
  | wordBorder
  | noWordBorder
  deriving DecidableEq, Repr

/-- In which order a repetition tries its counts. -/
inductive Greed where
  /-- As many as possible first. -/
  | greedy
  /-- As few as possible first. -/
  | lazy
  /-- As many as possible, and no other count. -/
  | possessive
  deriving DecidableEq, Repr

/-- A pattern, or a part of one. -/
inductive Node where
  | code (n : Nat)
  | any
  | set (negated : Bool) (items : List SetItem)
  | anchor (a : Anchor)
  /-- A group, numbered when it captures. -/
  | group (number : Option Nat) (on off : Options) (body : List Node)
  | either (choices : List (List Node))
  | many (least : Nat) (most : Option Nat) (greed : Greed) (body : List Node)
  /-- What follows a point, or with a width the text of that width before it. -/
  | look (behind : Option Nat) (negated : Bool) (body : List Node)
  /-- The text that a group has captured, once more. -/
  | again (number : Nat)
  /-- A choice that depends on whether a group has captured. -/
  | ifGroup (number : Nat) (yes no : List Node)
  | atomic (body : List Node)
  deriving Repr, Inhabited

end Pattern

/-- A pattern that can be matched. -/
structure Pattern where
  options : Pattern.Options
  body : List Pattern.Node
  /-- How many groups capture. -/
  groups : Nat
  deriving Inhabited

end DocExamples
