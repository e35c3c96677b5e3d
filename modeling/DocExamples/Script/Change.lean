import DocExamples.Script.Holder

/-!
Changes of objects.

A value is a tree, so an object that changes is replaced wherever it stands, which its number tells.
-/

namespace DocExamples.Script

namespace Value

mutual

/-- A value in which another stands in place of the object with a number. -/
def replace (id : Nat) (new : Value) : Value → Value
  | array i items => if i = id then new else array i (replaceItems id new items)
  | object i ancestry members =>
    if i = id then new else object i ancestry (replaceMembers id new members)
  | set i items => if i = id then new else set i (replaceAll id new items)
  | map i entries => if i = id then new else map i (replaceEntries id new entries)
  | error i maker message members =>
    if i = id then new else error i maker message (replaceMembers id new members)
  | v => if v.id? = some id then new else v

/-- Values with another in place of the object with a number. -/
def replaceAll (id : Nat) (new : Value) : List Value → List Value
  | [] => []
  | v :: more => replace id new v :: replaceAll id new more

/-- The items of an array with another value in place of the object with a number. -/
def replaceItems (id : Nat) (new : Value) : List (Option Value) → List (Option Value)
  | [] => []
  | none :: more => none :: replaceItems id new more
  | some v :: more => some (replace id new v) :: replaceItems id new more

/-- The members of an object with another value in place of the object with a number. -/
def replaceMembers (id : Nat) (new : Value) :
    List (String × Option Value) → List (String × Option Value)
  | [] => []
  | (name, none) :: more => (name, none) :: replaceMembers id new more
  | (name, some v) :: more => (name, some (replace id new v)) :: replaceMembers id new more

/-- The entries of a map with another value in place of the object with a number. -/
def replaceEntries (id : Nat) (new : Value) : List (Value × Value) → List (Value × Value)
  | [] => []
  | (k, v) :: more => (replace id new k, replace id new v) :: replaceEntries id new more

end

/-- A list with an item at a position, and with holes up to it. -/
def setItem (items : List (Option Value)) (n : Nat) (v : Option Value) : List (Option Value) :=
  let items := items ++ List.replicate (n + 1 - items.length) none
  items.set n v

/-- A list of a length. -/
def resize (items : List (Option Value)) (n : Nat) : List (Option Value) :=
  items.take n ++ List.replicate (n - items.length) none

/-- How many items an array may get by one change: more of them are not covered. -/
def longest : Nat := 1000000

/-- Members with one of them set; nothing where a function gives the member. -/
def setNamed? (members : List (String × Option Value)) (name : String) (new : Option Value) :
    Option (List (String × Option Value)) :=
  match members.lookup name with
  | some (some (computed _)) => none
  | _ => some (Members.listed (members ++ [(name, new)]))

/-- A value with a member set; nothing for a value that takes no members. -/
def withMember? (v : Value) (name : String) (new : Value) : Option Value :=
  let kept := if new.id?.isSome && new.id? == v.id? then none else some new
  match v with
  | array id items =>
    match name, new with
    | "length", number x =>
      match x.toInt? with
      | some n => if 0 ≤ n ∧ n ≤ longest then some (array id (resize items n.toNat)) else none
      | none => none
    | name, _ =>
      match Members.position? name with
      | some n => if n ≤ longest then some (array id (setItem items n (some new))) else none
      | none => none
  | object id ancestry members => (setNamed? members name kept).map (object id ancestry)
  | error id maker message members =>
    match message, name, new with
    | some _, "message", text s => some (error id maker (some s) members)
    | some _, "message", _ => none
    | message, name, _ => (setNamed? members name kept).map (error id maker message)
  | _ => none

/-- A value without a member. -/
def withoutMember (v : Value) (name : String) : Value :=
  match v with
  | array id items =>
    match Members.position? name with
    | some n => if n < items.length then array id (items.set n none) else v
    | none => v
  | object id ancestry members => object id ancestry (members.filter fun m => m.1 != name)
  | error id maker message members =>
    error id maker (if name = "message" then none else message)
      (members.filter fun m => m.1 != name)
  | v => v

theorem id?_replace {id : Nat} {new : Value} (hnew : new.id? = some id) (v : Value) :
    (replace id new v).id? = v.id? := by
  cases v <;> unfold replace <;> first
    | rfl
    | (split
       next heq => exact hnew.trans (by first | exact congrArg some heq.symm | exact heq.symm)
       next => rfl)

end Value

namespace Holder

/-- An object with another value in place of the object with a number. -/
def replace (h : Holder) (id : Nat) (new : Value) : Holder :=
  { own := h.own.map fun m => (m.1, Value.replace id new m.2),
    ancestor := h.ancestor.map fun v => Value.replace id new v }

/-- An object without a member. -/
def remove (h : Holder) (name : String) : Holder :=
  { h with own := h.own.filter fun m => m.1 != name }

theorem find?_replace (h : Holder) (id : Nat) (new : Value) (name : String) :
    (h.replace id new).find? name = (h.find? name).map (Value.replace id new) := by
  show (h.own.map fun m => (m.1, Value.replace id new m.2)).lookup name = _
  rw [find?]
  induction h.own with
  | nil => rfl
  | cons m more ih =>
      rw [List.map_cons, List.lookup_cons, List.lookup_cons, ih]
      split <;> rfl

end Holder

end DocExamples.Script
