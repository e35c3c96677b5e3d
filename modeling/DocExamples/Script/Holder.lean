import DocExamples.Number.Whole
import DocExamples.Script.Value

/-!
Objects that hold values under names for a session: its variables, and the modules it has loaded.

Such an object begins empty. One name is special: it does not name a member but what the object
inherits from, as long as the object inherits from the common ancestor at all.
-/

namespace DocExamples.Script.Members

/-!
## Members

Values stand under names, in the order in which they are listed. A member that is set again keeps
its place. Names that are positions are listed first and by size, the others as they were set.
-/

/-- Sets one member. -/
def set {α : Type} (members : List (String × α)) (name : String) (v : α) : List (String × α) :=
  if members.any (·.1 == name) then members.map fun m => if m.1 == name then (name, v) else m
  else members ++ [(name, v)]

/-- Sets members one after the other. -/
def settle {α : Type} (members : List (String × α)) : List (String × α) :=
  members.foldl (fun known m => set known m.1 m.2) []

/-- The position that the name of a member stands for, if it is a whole number below the greatest
of 32 bits in plain digits. -/
def position? (name : String) : Option Nat :=
  let digits := name.toList
  if digits.isEmpty || !digits.all (fun c => '0' ≤ c && c ≤ '9') ||
      (digits.head? == some '0' && digits.length != 1) then none
  else
    let n := digits.foldl (fun n c => 10 * n + (c.toNat - 48)) 0
    if n < 2 ^ 32 - 1 then some n else none

/-- Holds when the first of two members need not be listed after the second. -/
def isBefore {α : Type} (a b : String × α) : Bool :=
  match position? a.1, position? b.1 with
  | some i, some j => i ≤ j
  | some _, none => true
  | none, some _ => false
  | none, none => true

/-- Sets members one after the other and puts them into the order in which they are listed. -/
def listed {α : Type} (members : List (String × α)) : List (String × α) :=
  (settle members).mergeSort isBefore

theorem lookup_set {α : Type} (members : List (String × α)) (name : String) (v : α) :
    (set members name v).lookup name = some v := by
  unfold set
  split
  · rename_i known
    induction members with
    | nil => simp at known
    | cons m more ih =>
      obtain ⟨key, value⟩ := m
      by_cases h : key = name
      · simp [h]
      · have other : (name == key) = false := by simpa using fun e : name = key => h e.symm
        have rest : more.any (·.1 == name) = true := by simpa [h] using known
        simpa [h, List.lookup_cons, other] using ih rest
  · rename_i absent
    induction members with
    | nil => simp
    | cons m more ih =>
      obtain ⟨key, value⟩ := m
      have h : ¬key = name := fun e => absent (by simp [e])
      have other : (name == key) = false := by simpa using fun e : name = key => h e.symm
      have rest : ¬more.any (·.1 == name) = true := fun e => absent (by simp [e])
      simpa [List.lookup_cons, other] using ih rest

theorem lookup_set_of_ne {α : Type} (members : List (String × α)) {name other : String}
    (hne : other ≠ name) (v : α) : (set members name v).lookup other = members.lookup other := by
  have hother : (other == name) = false := beq_eq_false_iff_ne.2 hne
  have hmapped : ∀ more : List (String × α),
      (more.map fun m => if m.1 == name then (name, v) else m).lookup other = more.lookup other := by
    intro more
    induction more with
    | nil => rfl
    | cons m more ih =>
        obtain ⟨key, old⟩ := m
        rw [List.map_cons, List.lookup_cons, List.lookup_cons, ih]
        by_cases hkey : key = name
        · subst hkey
          simp [hother]
        · simp [hkey]
  unfold set
  split
  · exact hmapped members
  · simp [List.lookup_append, List.lookup_cons, hother]

end DocExamples.Script.Members

/-! ## Holders -/

namespace DocExamples.Script

/-- Values by name. -/
structure Holder where
  /-- The members of the object. -/
  own : List (String × Value) := []
  /-- What the object inherits from. -/
  ancestor : Option Value := some (.object 0 .topmost [])
  deriving Inhabited

namespace Holder

/-- The name that stands for what an object inherits from. -/
def ancestorName : String := "__proto__"

/-- The member with a name. -/
def find? (h : Holder) (name : String) : Option Value := h.own.lookup name

/-- Holds of what an object can inherit the special name from. -/
def handsDown : Option Value → Bool
  | none | some (.object _ .nothing _) => false
  | some _ => true

/-- Holds of what an object can inherit from. -/
def isAncestor (v : Value) : Bool := !v.isPrimitive

/-- Keeps a value under a name. -/
def keep (h : Holder) (name : String) (v : Value) : Holder :=
  if name = ancestorName ∧ handsDown h.ancestor then
    match v with
    | .null => { h with ancestor := none }
    | v => if isAncestor v then { h with ancestor := some v } else h
  else { h with own := Members.set h.own name v }

/-- What the object has under the special name. -/
def special? (h : Holder) : Option Value := if handsDown h.ancestor then h.ancestor else none

/-- What the object holds under a name after a value was kept there. -/
def kept (h : Holder) (name : String) : Value :=
  ((if name = ancestorName then h.special? else none).or (h.find? name)).getD .undefined

theorem find?_keep {h : Holder} {name : String} {v : Value} (ordinary : name ≠ ancestorName) :
    (h.keep name v).find? name = some v := by
  simp [keep, ordinary, find?, Members.lookup_set]

theorem find?_keep_of_ne (h : Holder) {name other : String} (hne : other ≠ name) (v : Value) :
    (h.keep name v).find? other = h.find? other := by
  unfold keep
  split
  · cases v <;> rfl
  · exact Members.lookup_set_of_ne h.own hne v

end Holder

end DocExamples.Script
