import DocExamples.Number.Double

/-!
JSON values. Whole numbers and doubles are told apart by how they are written, members of an
object keep their order, and a name may occur twice.
-/

namespace DocExamples

/-- A JSON value. -/
inductive Json where
  | null
  | bool (b : Bool)
  | int (n : Int)
  | float (x : Number.Double)
  | str (s : String)
  | arr (items : List Json)
  | obj (members : List (String × Json))
  deriving Inhabited

namespace Json

/-- The last member with a name, which is the one that counts when a name is repeated. -/
def lookup (name : String) : List (String × Json) → Option Json
  | [] => none
  | (key, value) :: more =>
    match lookup name more with
    | some found => some found
    | none => if key = name then some value else none

/-- A member of an object; `none` for other values and for missing names. -/
def get? (name : String) : Json → Option Json
  | .obj members => lookup name members
  | _ => none

/-- Joins members so that each name occurs once, at its first place and with its last value. -/
def mergeMembers (members : List (String × Json)) : List (String × Json) :=
  members.foldl insert []
where
  /-- Replaces the value of a known name, or adds the member at the end. -/
  insert (known : List (String × Json)) (member : String × Json) : List (String × Json) :=
    if known.any (·.1 = member.1) then
      known.map fun old => if old.1 = member.1 then (old.1, member.2) else old
    else known ++ [member]

mutual

/-- Holds of a value whose numbers are all finite. -/
def isFinite : Json → Bool
  | float x => x.isFinite
  | arr items => areFinite items
  | obj members => membersFinite members
  | _ => true

/-- Holds when the numbers of all items are finite. -/
def areFinite : List Json → Bool
  | [] => true
  | item :: more => item.isFinite && areFinite more

/-- Holds when the numbers of all members are finite. -/
def membersFinite : List (String × Json) → Bool
  | [] => true
  | (_, value) :: more => value.isFinite && membersFinite more

end

end Json

end DocExamples
