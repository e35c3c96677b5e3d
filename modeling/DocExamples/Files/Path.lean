import DocExamples.Text.Lines

/-!
Paths: names with slashes between them. Repeated slashes and single dots mean nothing and are
dropped; two dots stay, since only the files on the way say what they mean.
-/

namespace DocExamples

/-- A path. One slash in front makes it absolute, and so do two, which stay two. -/
structure Path where
  /-- The slashes in front. -/
  slashes : Nat
  parts : List String
  deriving DecidableEq, Repr, Inhabited

namespace Path

/-- Holds of a path that does not depend on the working directory. -/
def isAbsolute (p : Path) : Bool := p.slashes ≠ 0

/-- How many slashes are kept of those in front of a path. -/
def slashesKept (n : Nat) : Nat := if n ≤ 2 then n else 1

/-- Reads a path. -/
def ofString (s : String) : Path :=
  ⟨slashesKept (s.toList.takeWhile (· = '/')).length,
    ((Text.splitAt '/' s.toList).map String.ofList).filter fun p => p ≠ "" ∧ p ≠ "."⟩

/-- Names with slashes between them. -/
def joinParts (parts : List String) : String :=
  String.ofList (Text.joinWith ['/'] (parts.map String.toList))

/-- The text of a path. -/
def text (p : Path) : String :=
  if p.isAbsolute then String.ofList (List.replicate p.slashes '/') ++ joinParts p.parts
  else if p.parts = [] then "."
  else joinParts p.parts

/-- A path below another one; an absolute path stays as it is. -/
def append (p q : Path) : Path := if q.isAbsolute then q else ⟨p.slashes, p.parts ++ q.parts⟩

/-- The last name of a path. -/
def name (p : Path) : String := p.parts.getLastD ""

/-- Holds of a name with the given ending and something in front of it. -/
def hasSuffix (suffix : String) (name : String) : Bool :=
  suffix.toList.isSuffixOf name.toList && suffix.length < name.length

/-- Holds when the first list of names comes before the second, name by name. -/
def precedes : List String → List String → Bool
  | [], _ :: _ => true
  | _, [] => false
  | a :: as, b :: bs => a < b || (a == b && precedes as bs)

end Path

end DocExamples
