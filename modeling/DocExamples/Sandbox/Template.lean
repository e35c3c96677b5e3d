import DocExamples.Json.Literal
import DocExamples.Number.Layout
import DocExamples.Number.Limit
import DocExamples.Text.Quoted

/-!
Templates of module expressions.

A dollar sign with digits behind it is a hole: `$0` stands for the name that was asked for as far
as a pattern matched it, `$1` and so on for the groups of the pattern. All holes are filled at
once, each by a string literal (or by `null` for a group that took no part), so nothing that a
name contains can be read as a hole or as script.
-/

namespace DocExamples.Template

/-- A part of a template. -/
inductive Piece where
  | plain (c : Char)
  | hole (digits : List Char)
  deriving DecidableEq, Repr

/-- Cuts a template at its holes; a hole takes as many digits as there are. -/
def pieces : List Char → List Piece
  | [] => []
  | c :: rest =>
    if c = '$' ∧ rest.takeWhile Text.isDigit ≠ [] then
      .hole (rest.takeWhile Text.isDigit) :: pieces (rest.dropWhile Text.isDigit)
    else .plain c :: pieces rest
termination_by s => s.length
decreasing_by
  · have := (List.dropWhile_suffix (l := rest) Text.isDigit).length_le
    simp only [List.length_cons]
    omega
  · simp

/-- Why a hole cannot be filled. -/
inductive HoleFault where
  /-- There is no group with the number. -/
  | missing (index : Nat)
  | tooLong (t : Number.TooLong)
  deriving DecidableEq, Repr

/-- A template that cannot be filled, as a failure. -/
def HoleFault.failure (template : List Char) : HoleFault → Failure
  | missing index =>
    ⟨"ConfigError", String.ofList ("Template ".toList ++ Text.quoted template ++
      " refers to missing group $".toList ++ Number.natText index)⟩
  | tooLong t => t.failure

/-- What stands in a hole. -/
def literal : Option String → List Char
  | none => "null".toList
  | some s => Json.quoteAscii s.toList

/-- What fills a hole. -/
def filling (groups : List (Option String)) (digits : List Char) : Except HoleFault (List Char) :=
  match Number.ofDigits digits with
  | .error t => .error (.tooLong t)
  | .ok index =>
    match groups[index]? with
    | none => .error (.missing index)
    | some group => .ok (literal group)

/-- Fills the holes; the first that cannot be filled is the fault. -/
def fillPieces (groups : List (Option String)) : List Piece → Except HoleFault (List Char)
  | [] => .ok []
  | .plain c :: more => (fillPieces groups more).map (c :: ·)
  | .hole digits :: more =>
    match filling groups digits with
    | .error fault => .error fault
    | .ok text => (fillPieces groups more).map (text ++ ·)

/-- The expression of a template for the given groups. -/
def fill (template : List Char) (groups : List (Option String)) :
    Except HoleFault (List Char) :=
  fillPieces groups (pieces template)

end DocExamples.Template
