import DocExamples.Proofs.Script.Output
import Mathlib.Data.List.Pairwise

/-!
# What a comparison of two values decides

A comparison looks at the first value: it goes over what is kept in it and looks each of
these parts up in the second, where it only counts. So the parts of the second are never
looked for in the first, and `counted_iff` says why they are there all the same: where the
parts of each value are told apart by where they are kept, as many parts on both sides
leave none over.

`Matches` says when two values are equal in that sense, and `decides_equalWithin` that a
comparison comes to a verdict and that the verdict is just this. It is a statement about
values that call nothing while they are compared, and about a session in which the names
of the kinds stand for what they stood for at its start.

Not all that tells two values apart is a part of them. `Alike` is where the rest is
compared, and it is stated twice: as it is compared, and as it would have to be if no
difference between two values were ever passed over.
-/

namespace DocExamples.Script.Value

/-! ## One and the same value -/

theorem same_of_ids {a b : Value} {i j : Nat} (ha : a.id? = some i) (hb : b.id? = some j) :
    a.same b = (i == j) := by
  unfold same
  rw [ha, hb]

theorem same_of_no_id {a b : Value} (ha : a.id? = none) (hb : b.id? = none) :
    a.same b = true ↔ a = b ∧ ∀ f, a ≠ .computed f := by
  cases a <;> first
    | (cases ha; done)
    | cases b <;> first
      | (cases hb; done)
      | simp [same, id?]

theorem same_iff {a b : Value} :
    a.same b = true ↔ (a.id?.isSome ∧ a.id? = b.id?) ∨
      (a.id? = none ∧ a = b ∧ ∀ f, a ≠ .computed f) := by
  cases ha : a.id? with
  | some i =>
      cases hb : b.id? with
      | some j => simp [same_of_ids ha hb]
      | none => unfold same; simp [ha, hb]
  | none =>
      cases hb : b.id? with
      | some j =>
          refine iff_of_false (by unfold same; rw [ha, hb]; exact Bool.false_ne_true) ?_
          rintro (⟨h, -⟩ | ⟨-, rfl, -⟩)
          · exact nomatch h
          · exact nomatch ha.symm.trans hb
      | none => simp [same_of_no_id ha hb]

theorem same_symm {a b : Value} (h : a.same b = true) : b.same a = true := by
  rw [same_iff] at h ⊢
  rcases h with ⟨hsome, heq⟩ | ⟨hnone, rfl, hcomputed⟩
  · exact .inl ⟨heq ▸ hsome, heq.symm⟩
  · exact .inr ⟨hnone, rfl, hcomputed⟩

theorem same_trans {a b c : Value} (hab : a.same b = true) (hbc : b.same c = true) :
    a.same c = true := by
  rw [same_iff] at hab hbc ⊢
  rcases hab with ⟨hsome, heq⟩ | ⟨hnone, rfl, hcomputed⟩
  · rcases hbc with ⟨-, heq'⟩ | ⟨hnone, -⟩
    · exact .inl ⟨hsome, heq.trans heq'⟩
    · rw [heq, hnone] at hsome
      cases hsome
  · exact hbc

theorem sameKey_symm {a b : Value} (h : a.sameKey b = true) : b.sameKey a = true := same_symm h

theorem sameKey_trans {a b c : Value} (hab : a.sameKey b = true) (hbc : b.sameKey c = true) :
    a.sameKey c = true := same_trans hab hbc

/-! ## The parts of a value -/

/-- Where a part of a value is kept. -/
inductive Slot where
  | position (n : Nat)
  | name (s : String)
  | key (k : Value)

/-- Holds of what is one slot, in one value or in two. -/
def Slot.Same : Slot → Slot → Prop
  | position m, position n => m = n
  | name s, name t => s = t
  | key k, key l => k.sameKey l = true
  | _, _ => False

theorem Slot.Same.symm {p q : Slot} (h : p.Same q) : q.Same p := by
  cases p <;> cases q <;> first | exact h.elim | skip
  · exact Eq.symm h
  · exact Eq.symm h
  · exact sameKey_symm h

theorem Slot.Same.trans {p q r : Slot} (hpq : p.Same q) (hqr : q.Same r) : p.Same r := by
  cases p <;> cases q <;> first | exact hpq.elim | skip
  all_goals cases r <;> first | exact hqr.elim | skip
  · exact Eq.trans hpq hqr
  · exact Eq.trans hpq hqr
  · exact sameKey_trans hpq hqr

/-- Values with the slots that they are kept in. -/
def inSlots {κ : Type} (slot : κ → Slot) (xs : List (κ × Value)) : List (Slot × Value) :=
  xs.map fun x => (slot x.1, x.2)

/-- What is kept in a value and where. A set keeps nothing under its members. -/
def parts : Value → List (Slot × Value)
  | array _ items => inSlots .position (present 0 items)
  | object _ _ members | error _ _ _ members =>
    inSlots .name (members.filterMap fun m => m.2.map fun v => (m.1, v))
  | set _ items => inSlots .key (items.map fun v => (v, .undefined))
  | map _ entries => inSlots .key entries
  | _ => []

/-- Members that hold values of their own. -/
def held (own : List (String × Value)) : List (String × Option Value) :=
  own.map fun m => (m.1, some m.2)

theorem filterMap_held (own : List (String × Value)) :
    ((held own).filterMap fun m => m.2.map fun v => (m.1, v)) = own := by
  induction own with
  | nil => rfl
  | cons m own ih => exact congrArg (m :: ·) ih

theorem parts_object (id : Nat) (ancestry : Ancestry) (own : List (String × Value)) :
    (object id ancestry (held own)).parts = inSlots .name own := by
  rw [parts, filterMap_held]

theorem parts_error (id : Nat) (maker : String) (message : Option String)
    (own : List (String × Value)) :
    (error id maker message (held own)).parts = inSlots .name own := by
  rw [parts, filterMap_held]

/-- Holds of the parts of two values: in each slot of one there is something exactly if there is
in the other, and what is there is related. -/
structure Paired (P : Value → Value → Prop) (xs ys : List (Slot × Value)) : Prop where
  left : ∀ x ∈ xs, ∃ y ∈ ys, x.1.Same y.1
  right : ∀ y ∈ ys, ∃ x ∈ xs, x.1.Same y.1
  values : ∀ x ∈ xs, ∀ y ∈ ys, x.1.Same y.1 → P x.2 y.2

/-! ## Counting -/

/-- If each element of a list is related to an element of a second list, and no two of them to the
same, the second list is not the shorter one; if it is not the longer one either, none of it is
left over. -/
theorem counted {α β : Type} {R : α → β → Prop} {xs : List α} {ys : List β}
    (hxs : xs.Pairwise fun x x' => ∀ y, R x y → ¬ R x' y) (h : ∀ x ∈ xs, ∃ y ∈ ys, R x y) :
    xs.length ≤ ys.length ∧ (ys.length ≤ xs.length → ∀ y ∈ ys, ∃ x ∈ xs, R x y) := by
  induction xs generalizing ys with
  | nil =>
      refine ⟨Nat.zero_le _, fun hlen y hy => ?_⟩
      rw [List.eq_nil_of_length_eq_zero (Nat.le_zero.1 hlen)] at hy
      exact absurd hy List.not_mem_nil
  | cons x xs ih =>
      obtain ⟨hx, hxs⟩ := List.pairwise_cons.1 hxs
      obtain ⟨y, hy, hxy⟩ := h x List.mem_cons_self
      obtain ⟨front, behind, rfl⟩ := List.append_of_mem hy
      have hsplit : ∀ y' ∈ front ++ y :: behind, y' = y ∨ y' ∈ front ++ behind := fun y' hy' =>
        List.mem_cons.1 (List.perm_middle.mem_iff.1 hy')
      -- What the other elements are related to is not what `x` is related to.
      have hother : ∀ x' ∈ xs, ∃ y' ∈ front ++ behind, R x' y' := by
        intro x' hx'
        obtain ⟨y', hy', hxy'⟩ := h x' (List.mem_cons_of_mem x hx')
        rcases hsplit y' hy' with rfl | hy'
        · exact absurd hxy' (hx x' hx' y' hxy)
        · exact ⟨y', hy', hxy'⟩
      obtain ⟨hle, hall⟩ := ih hxs hother
      simp only [List.length_append, List.length_cons] at hle hall ⊢
      refine ⟨by omega, fun hlen y' hy' => ?_⟩
      rcases hsplit y' hy' with rfl | hy'
      · exact ⟨x, List.mem_cons_self, hxy⟩
      · obtain ⟨x', hx', hxy'⟩ := hall (by omega) y' hy'
        exact ⟨x', List.mem_cons_of_mem x hx', hxy'⟩

/-- Values whose own parts stand in different slots have as many, and each of one in the other, as
soon as this holds both ways. -/
theorem counted_iff {xs ys : List (Slot × Value)} (hxs : xs.Pairwise fun x x' => ¬ x.1.Same x'.1)
    (hys : ys.Pairwise fun y y' => ¬ y.1.Same y'.1) :
    xs.length = ys.length ∧ (∀ x ∈ xs, ∃ y ∈ ys, x.1.Same y.1) ↔
      (∀ x ∈ xs, ∃ y ∈ ys, x.1.Same y.1) ∧ ∀ y ∈ ys, ∃ x ∈ xs, x.1.Same y.1 := by
  have hxs' : xs.Pairwise fun x x' => ∀ y : Slot × Value, x.1.Same y.1 → ¬ x'.1.Same y.1 :=
    hxs.imp fun hapart y hx hx' => hapart (hx.trans hx'.symm)
  have hys' : ys.Pairwise fun y y' => ∀ x : Slot × Value, x.1.Same y.1 → ¬ x.1.Same y'.1 :=
    hys.imp fun hapart x hy hy' => hapart (hy.symm.trans hy')
  constructor
  · rintro ⟨hlen, hleft⟩
    exact ⟨hleft, (counted hxs' hleft).2 (Nat.le_of_eq hlen.symm)⟩
  · rintro ⟨hleft, hright⟩
    exact ⟨Nat.le_antisymm (counted hxs' hleft).1 (counted hys' hright).1, hleft⟩

/-- There is one part in a slot. -/
theorem eq_of_same {xs : List (Slot × Value)} (hxs : xs.Pairwise fun x x' => ¬ x.1.Same x'.1)
    {x x' : Slot × Value} (hx : x ∈ xs) (hx' : x' ∈ xs) (h : x.1.Same x'.1) : x = x' := by
  by_contra hne
  have hsymm : Std.Symm fun x x' : Slot × Value => ¬ x.1.Same x'.1 :=
    ⟨fun x x' hapart hsame => hapart hsame.symm⟩
  exact hxs.forall hx hx' hne h

/-! ## Verdicts -/

/-- Holds of a comparison that comes to a verdict, by what the verdict says. -/
def Decides (r : Except Thrown Bool) (p : Prop) : Prop :=
  ∃ verdict, r = .ok verdict ∧ (verdict = true ↔ p)

theorem Decides.congr {r : Except Thrown Bool} {p q : Prop} (h : Decides r p) (hpq : p ↔ q) :
    Decides r q := by
  obtain ⟨verdict, hr, hverdict⟩ := h
  exact ⟨verdict, hr, hverdict.trans hpq⟩

theorem decides_true {p : Prop} (hp : p) : Decides (.ok true) p := ⟨true, rfl, iff_of_true rfl hp⟩

theorem decides_false {p : Prop} (hp : ¬ p) : Decides (.ok false) p :=
  ⟨false, rfl, iff_of_false Bool.false_ne_true hp⟩

theorem decides_every {α : Type} {test : α → Except Thrown Bool} {p : α → Prop} {xs : List α}
    (h : ∀ x ∈ xs, Decides (test x) (p x)) : Decides (every test xs) (∀ x ∈ xs, p x) := by
  induction xs with
  | nil => exact decides_true fun x hx => absurd hx List.not_mem_nil
  | cons x xs ih =>
      obtain ⟨verdict, hx, hverdict⟩ := h x List.mem_cons_self
      cases verdict with
      | true =>
          have hrest := ih fun x' hx' => h x' (List.mem_cons_of_mem x hx')
          rw [every, hx]
          exact hrest.congr ⟨fun hall => List.forall_mem_cons.2 ⟨hverdict.1 rfl, hall⟩,
            fun hall => (List.forall_mem_cons.1 hall).2⟩
      | false =>
          have hnone : every test (x :: xs) = .ok false := by rw [every, hx]
          rw [hnone]
          exact decides_false fun hall =>
            absurd (hverdict.2 (hall x List.mem_cons_self)) Bool.false_ne_true

theorem every_map {α β : Type} (test : β → Except Thrown Bool) (f : α → β) (xs : List α) :
    every test (xs.map f) = every (fun x => test (f x)) xs := by
  induction xs with
  | nil => rfl
  | cons x xs ih => rw [List.map_cons, every, every, ih]

/-- The comparison of what is kept in two values, where the parts of the first are looked up in the
second. -/
theorem decides_found {κ : Type} (slot : κ → Slot) (find : κ → Option Value)
    {xs ys : List (κ × Value)} {equal : Value → Value → Except Thrown Bool}
    {P : Value → Value → Prop}
    (hfind : ∀ k w, find k = some w → ∃ y ∈ ys, (slot k).Same (slot y.1) ∧ y.2 = w)
    (hmiss : ∀ k, find k = none → ∀ y ∈ ys, ¬ (slot k).Same (slot y.1))
    (hxs : (inSlots slot xs).Pairwise fun x x' => ¬ x.1.Same x'.1)
    (hys : (inSlots slot ys).Pairwise fun y y' => ¬ y.1.Same y'.1)
    (hequal : ∀ x ∈ inSlots slot xs, ∀ y ∈ inSlots slot ys, Decides (equal x.2 y.2) (P x.2 y.2)) :
    Decides (if xs.length ≠ ys.length then .ok false
        else every (fun x => equalFound equal x.2 (find x.1)) xs)
      (Paired P (inSlots slot xs) (inSlots slot ys)) := by
  have hlength : ∀ zs : List (κ × Value), (inSlots slot zs).length = zs.length :=
    fun _ => List.length_map _
  have hmem : ∀ {zs : List (κ × Value)} {z : κ × Value}, z ∈ zs →
      (slot z.1, z.2) ∈ inSlots slot zs := fun hz => List.mem_map_of_mem hz
  have hcounted := counted_iff hxs hys
  rw [hlength, hlength] at hcounted
  split
  · next hne =>
      exact decides_false fun hpaired => hne (hcounted.2 ⟨hpaired.left, hpaired.right⟩).1
  · next heq =>
      have hlen : xs.length = ys.length := not_not.1 heq
      have hall : Decides (every (fun x => equalFound equal x.2 (find x.1)) xs)
          (∀ x ∈ xs, (∃ y ∈ ys, (slot x.1).Same (slot y.1)) ∧
            ∀ y ∈ ys, (slot x.1).Same (slot y.1) → P x.2 y.2) := by
        refine decides_every fun x hx => ?_
        cases hfound : find x.1 with
        | none =>
            exact decides_false fun ⟨⟨y, hy, hsame⟩, _⟩ => hmiss x.1 hfound y hy hsame
        | some w =>
            obtain ⟨y, hy, hsame, rfl⟩ := hfind x.1 w hfound
            refine (hequal _ (hmem hx) _ (hmem hy)).congr ⟨fun hP => ⟨⟨y, hy, hsame⟩, ?_⟩, ?_⟩
            · -- Nothing else of the second value stands in that slot.
              intro y' hy' hsame'
              have heq := eq_of_same hys (hmem hy) (hmem hy') (hsame.symm.trans hsame')
              exact (congrArg Prod.snd heq) ▸ hP
            · exact fun h => h.2 y hy hsame
      refine hall.congr ⟨fun h => ?_, fun h x hx => ?_⟩
      · have hleft : ∀ x ∈ inSlots slot xs, ∃ y ∈ inSlots slot ys, x.1.Same y.1 := by
          refine List.forall_mem_map.2 fun x hx => ?_
          obtain ⟨y, hy, hsame⟩ := (h x hx).1
          exact ⟨_, hmem hy, hsame⟩
        refine ⟨hleft, (hcounted.1 ⟨hlen, hleft⟩).2, List.forall_mem_map.2 fun x hx => ?_⟩
        exact List.forall_mem_map.2 fun y hy => (h x hx).2 y hy
      · obtain ⟨_, hslot, hsame⟩ := h.left _ (hmem hx)
        obtain ⟨y, hy, rfl⟩ := List.mem_map.1 hslot
        exact ⟨⟨y, hy, hsame⟩, fun y' hy' => h.values _ (hmem hx) _ (hmem hy')⟩

/-- The comparison where a part is looked up by the number or the name of its slot. -/
theorem decides_lookup {κ : Type} [BEq κ] [LawfulBEq κ] (slot : κ → Slot)
    (hslot : ∀ k l, (slot k).Same (slot l) ↔ k = l) {xs ys : List (κ × Value)}
    {equal : Value → Value → Except Thrown Bool} {P : Value → Value → Prop}
    (hxs : (inSlots slot xs).Pairwise fun x x' => ¬ x.1.Same x'.1)
    (hys : (inSlots slot ys).Pairwise fun y y' => ¬ y.1.Same y'.1)
    (hequal : ∀ x ∈ inSlots slot xs, ∀ y ∈ inSlots slot ys, Decides (equal x.2 y.2) (P x.2 y.2)) :
    Decides (if xs.length ≠ ys.length then .ok false
        else every (fun x => equalFound equal x.2 (ys.lookup x.1)) xs)
      (Paired P (inSlots slot xs) (inSlots slot ys)) := by
  refine decides_found slot (ys.lookup ·) (fun k w h => ?_) (fun k h y hy hsame => ?_) hxs hys
    hequal
  · obtain ⟨front, behind, heq, -⟩ := List.lookup_eq_some_iff.1 h
    rw [heq]
    exact ⟨_, List.mem_append_right front List.mem_cons_self, (hslot k k).2 rfl, rfl⟩
  · exact absurd ((hslot k y.1).1 hsame) (bne_iff_ne.1 (List.lookup_eq_none_iff.1 h y hy))

/-! ## Values for which nothing is called -/

/-- Holds of members with values of their own, under names of their own, none of which is a
function that gives JSON. -/
def HoldsOwn (members : List (String × Option Value)) : Prop :=
  ∃ own, members = held own ∧ (own.map Prod.fst).Nodup ∧
    ∀ v, ("toJSON", v) ∈ own → v.isFunction = false

/-- Holds of a value for which nothing is called, whatever its parts are. -/
def IsCalm : Value → Prop
  | object _ ancestry members => (∀ heir, ancestry ≠ .other heir) ∧ HoldsOwn members
  | error _ maker _ members => maker ∈ Standard.errorNames ∧ HoldsOwn members
  | set _ items => items.Pairwise fun v w => ¬ v.sameKey w = true
  | map _ entries => entries.Pairwise fun d e => ¬ d.1.sameKey e.1 = true
  | boxed _ inner => inner.isPrimitive = true
  | computed _ => False
  | _ => True

/-- Holds of a finite value for which nothing is called. -/
inductive IsInert : Value → Prop where
  | intro {v : Value} : v.IsCalm → (∀ x ∈ v.parts, IsInert x.2) → IsInert v

theorem IsInert.calm {v : Value} (h : v.IsInert) : v.IsCalm := by
  obtain ⟨hcalm, -⟩ := h
  exact hcalm

theorem IsInert.part {v : Value} (h : v.IsInert) {x : Slot × Value} (hx : x ∈ v.parts) :
    x.2.IsInert := by
  obtain ⟨-, hparts⟩ := h
  exact hparts x hx

/-- A value without parts. -/
theorem IsInert.leaf {v : Value} (hcalm : v.IsCalm) (hparts : v.parts = []) : v.IsInert :=
  .intro hcalm fun _ hx => absurd (hparts ▸ hx) List.not_mem_nil

theorem mem_present {items : List (Option Value)} {first : Nat} {x : Nat × Value} :
    x ∈ present first items ↔ ∃ n, x.1 = first + n ∧ items[n]? = some (some x.2) := by
  induction items generalizing first with
  | nil => simp [present]
  | cons item items ih =>
      have hrest : (∃ n, x.1 = first + 1 + n ∧ items[n]? = some (some x.2)) ↔
          ∃ n, x.1 = first + (n + 1) ∧ (item :: items)[n + 1]? = some (some x.2) := by
        simp only [List.getElem?_cons_succ, Nat.add_assoc, Nat.add_comm 1]
      cases item with
      | none =>
          rw [present, ih, hrest]
          refine ⟨fun ⟨n, h⟩ => ⟨n + 1, h⟩, ?_⟩
          rintro ⟨_ | n, h⟩
          · exact nomatch h.2
          · exact ⟨n, h⟩
      | some v =>
          rw [present, List.mem_cons, ih, hrest]
          constructor
          · rintro (rfl | ⟨n, h⟩)
            · exact ⟨0, rfl, rfl⟩
            · exact ⟨n + 1, h⟩
          · rintro ⟨_ | n, h⟩
            · exact .inl (Prod.ext h.1 (Option.some.inj (Option.some.inj h.2)).symm)
            · exact .inr ⟨n, h⟩

theorem mem_present_zero {items : List (Option Value)} {n : Nat} {v : Value} :
    (n, v) ∈ present 0 items ↔ items[n]? = some (some v) := by
  rw [mem_present]
  simp

theorem mem_parts_array {id : Nat} {items : List (Option Value)} {x : Slot × Value} :
    x ∈ (array id items).parts ↔ ∃ n v, x = (.position n, v) ∧ items[n]? = some (some v) := by
  rw [parts, inSlots, List.mem_map]
  constructor
  · rintro ⟨⟨n, v⟩, hmem, rfl⟩
    exact ⟨n, v, rfl, mem_present_zero.1 hmem⟩
  · rintro ⟨n, v, rfl, hitem⟩
    exact ⟨(n, v), mem_present_zero.2 hitem, rfl⟩

theorem mem_parts_object {id : Nat} {ancestry : Ancestry} {members : List (String × Option Value)}
    {x : Slot × Value} :
    x ∈ (object id ancestry members).parts ↔
      ∃ name v, x = (.name name, v) ∧ (name, some v) ∈ members := by
  rw [parts, inSlots, List.mem_map]
  constructor
  · rintro ⟨_, hmem, rfl⟩
    obtain ⟨⟨name, _ | v⟩, hm, hv⟩ := List.mem_filterMap.1 hmem
    · exact nomatch hv
    · obtain rfl := Option.some.inj hv
      exact ⟨name, v, rfl, hm⟩
  · rintro ⟨name, v, rfl, hm⟩
    exact ⟨(name, v), List.mem_filterMap.2 ⟨_, hm, rfl⟩, rfl⟩

theorem mem_parts_set {id : Nat} {items : List Value} {x : Slot × Value} :
    x ∈ (set id items).parts ↔ ∃ v ∈ items, x = (.key v, undefined) := by
  rw [parts, inSlots, List.map_map, List.mem_map]
  exact exists_congr fun v => and_congr_right fun _ => eq_comm

theorem mem_parts_map {id : Nat} {entries : List (Value × Value)} {x : Slot × Value} :
    x ∈ (map id entries).parts ↔ ∃ e ∈ entries, x = (.key e.1, e.2) := by
  rw [parts, inSlots, List.mem_map]
  exact exists_congr fun v => and_congr_right fun _ => eq_comm

theorem present_pairwise (first : Nat) (items : List (Option Value)) :
    (present first items).Pairwise fun x y => x.1 < y.1 := by
  induction items generalizing first with
  | nil => exact List.Pairwise.nil
  | cons item items ih =>
      cases item with
      | none => exact ih (first + 1)
      | some v =>
          refine List.pairwise_cons.2 ⟨fun y hy => ?_, ih (first + 1)⟩
          obtain ⟨n, hn, -⟩ := mem_present.1 hy
          dsimp only
          omega

theorem pairwise_held {own : List (String × Value)} (h : (own.map Prod.fst).Nodup) :
    (inSlots .name own).Pairwise fun x y => ¬ x.1.Same y.1 :=
  List.pairwise_map.2 (List.pairwise_map.1 h)

/-- The parts of a value stand in different slots. -/
theorem IsCalm.apart {v : Value} (h : v.IsCalm) : v.parts.Pairwise fun x y => ¬ x.1.Same y.1 := by
  cases v with
  | array id items =>
      exact List.pairwise_map.2 ((present_pairwise 0 items).imp fun hlt => Nat.ne_of_lt hlt)
  | object id ancestry members =>
      obtain ⟨-, own, rfl, hnames, -⟩ := h
      rw [parts_object]
      exact pairwise_held hnames
  | error id maker message members =>
      obtain ⟨-, own, rfl, hnames, -⟩ := h
      rw [parts_error]
      exact pairwise_held hnames
  | set id items => exact List.pairwise_map.2 (List.pairwise_map.2 h)
  | map id entries => exact List.pairwise_map.2 h
  | _ => exact List.Pairwise.nil

theorem depth_le_depthOfItems {items : List (Option Value)} {v : Value} (h : some v ∈ items) :
    v.depth ≤ depthOfItems items := by
  induction items with
  | nil => exact absurd h List.not_mem_nil
  | cons item items ih =>
      rcases List.mem_cons.1 h with rfl | hmore
      · exact Nat.le_max_left _ _
      · cases item with
        | none => exact ih hmore
        | some w => exact Nat.le_trans (ih hmore) (Nat.le_max_right _ _)

theorem depth_le_depthOfMembers {members : List (String × Option Value)} {x : Slot × Value}
    (h : x ∈ inSlots .name (members.filterMap fun m => m.2.map fun v => (m.1, v))) :
    x.2.depth ≤ depthOfMembers members := by
  induction members with
  | nil => exact absurd h List.not_mem_nil
  | cons member members ih =>
      obtain ⟨name, _ | v⟩ := member
      · exact ih h
      · rcases List.mem_cons.1 h with rfl | hmore
        · exact Nat.le_max_left _ _
        · exact Nat.le_trans (ih hmore) (Nat.le_max_right _ _)

theorem depth_le_depthOfEntries {entries : List (Value × Value)} {e : Value × Value}
    (h : e ∈ entries) : e.2.depth ≤ depthOfEntries entries := by
  induction entries with
  | nil => exact absurd h List.not_mem_nil
  | cons entry entries ih =>
      rcases List.mem_cons.1 h with rfl | h
      · exact Nat.le_max_left _ _
      · exact Nat.le_trans (ih h) (Nat.le_max_right _ _)

/-- What is kept under a key of a map or under a name nests less deep than the value. -/
theorem depth_lt_of_mem_parts {v : Value} {x : Slot × Value} (hset : ∀ id items, v ≠ .set id items)
    (hx : x ∈ v.parts) : x.2.depth < v.depth := by
  cases v with
  | array id items =>
      obtain ⟨n, v, rfl, hn⟩ := mem_parts_array.1 hx
      exact Nat.lt_succ_of_le (depth_le_depthOfItems (List.mem_of_getElem? hn))
  | object id ancestry members => exact Nat.lt_succ_of_le (depth_le_depthOfMembers hx)
  | error id maker message members => exact Nat.lt_succ_of_le (depth_le_depthOfMembers hx)
  | map id entries =>
      obtain ⟨e, he, rfl⟩ := mem_parts_map.1 hx
      exact Nat.lt_succ_of_le (depth_le_depthOfEntries he)
  | set id items => exact absurd rfl (hset id items)
  | _ => exact absurd hx List.not_mem_nil

theorem itemsCall_eq_false {items : List (Option Value)}
    (h : ∀ v, some v ∈ items → v.calls = false) : itemsCall items = false := by
  induction items with
  | nil => rfl
  | cons item items ih =>
      have hrest := ih fun v hv => h v (List.mem_cons_of_mem item hv)
      cases item with
      | none => exact hrest
      | some v => rw [itemsCall, h v List.mem_cons_self, hrest]; rfl

theorem membersCall_held {own : List (String × Value)}
    (hjson : ∀ v, ("toJSON", v) ∈ own → v.isFunction = false)
    (h : ∀ m ∈ own, m.2.calls = false) : membersCall (held own) = false := by
  induction own with
  | nil => rfl
  | cons m own ih =>
      obtain ⟨name, v⟩ := m
      have hrest : membersCall (held own) = false :=
        ih (fun v hv => hjson v (List.mem_cons_of_mem _ hv))
          fun m hm => h m (List.mem_cons_of_mem _ hm)
      have hgiven : (name == "toJSON" && v.isFunction) = false := by
        by_cases hname : name = "toJSON"
        · rw [hjson v (hname ▸ List.mem_cons_self), Bool.and_false]
        · rw [beq_eq_false_iff_ne.2 hname, Bool.false_and]
      show ((name == "toJSON" && v.isFunction) || calls v || membersCall (held own)) = false
      rw [hgiven, h _ List.mem_cons_self, hrest]
      rfl

/-- Nothing is called for an inert value. -/
theorem IsInert.calls {v : Value} (h : v.IsInert) : v.calls = false := by
  induction h with
  | @intro v hcalm _ ih =>
      have hnamed : ∀ {own : List (String × Value)}, v.parts = inSlots .name own →
          ∀ m ∈ own, m.2.calls = false := fun hparts m hm =>
        ih (.name m.1, m.2) (hparts ▸ List.mem_map_of_mem hm)
      cases v with
      | array id items =>
          refine itemsCall_eq_false fun w hw => ?_
          obtain ⟨n, hn⟩ := List.mem_iff_getElem?.1 hw
          exact ih (.position n, w) (mem_parts_array.2 ⟨n, w, rfl, hn⟩)
      | object id ancestry members =>
          obtain ⟨hancestry, own, rfl, -, hjson⟩ := hcalm
          have hmembers := membersCall_held hjson (hnamed (parts_object id ancestry own))
          cases ancestry with
          | other heir => exact absurd rfl (hancestry heir)
          | _ => exact hmembers
      | error id maker message members =>
          obtain ⟨-, own, rfl, -, hjson⟩ := hcalm
          exact membersCall_held hjson (hnamed (parts_error id maker message own))
      | computed f => exact hcalm.elim
      | _ => rfl

/-! ## Forms of objects -/

/-- The form of objects of a kind. -/
def Kind.form : Kind → Nat
  | .array => 0
  | .plain | .bare | .heir _ => 1
  | .date => 2
  | .pattern => 3
  | .set => 4
  | .map => 5
  | .error _ => 6
  | .boxedText | .boxedNumber | .boxedOther _ => 7

/-- The form of an object, which is the one of its kind. -/
def form? : Value → Option Nat
  | array .. => some 0
  | object .. => some 1
  | date .. => some 2
  | pattern .. => some 3
  | set .. => some 4
  | map .. => some 5
  | error .. => some 6
  | boxed .. => some 7
  | _ => none

theorem form?_eq (v : Value) : v.form? = v.kind?.map Kind.form := by
  cases v with
  | object id ancestry members => cases ancestry <;> rfl
  | boxed id inner => cases inner <;> rfl
  | _ => rfl

/-! ## When two values are equal -/

/-- Holds of two objects of one form that agree in what is compared of them apart from their parts.
Of an array that is nothing, of an error neither, and of an object around a value only a text. What
else would have to agree is required as well if the agreement is to be exact. -/
def Agree (exact : Bool) : Value → Value → Prop
  | array _ xs, array _ ys => exact = true → xs.length = ys.length
  | date _ s, date _ t => s.isSome ∧ s = t
  | pattern _ s f, pattern _ t g => patternText s f = patternText t g
  | error _ maker k xs, error _ other l ys => exact = true →
      textUnder xs "name" maker = textUnder ys "name" other ∧
        textUnder xs "message" (k.getD "") = textUnder ys "message" (l.getD "")
  | boxed _ x, boxed _ y => (exact = true ∨ x.typeName = "string") → x.same y = true
  | _, _ => True

/-- Holds of two objects of one kind that agree apart from their parts. -/
def Alike (exact : Bool) (a b : Value) : Prop :=
  a.kind?.isSome ∧ a.kind? = b.kind? ∧ Agree exact a b

/-- Holds of values that are one and the same, or that agree in themselves and in all parts. -/
inductive Matches (exact : Bool) : Value → Value → Prop where
  | same {a b : Value} : a.same b = true → Matches exact a b
  | inside {a b : Value} : Alike exact a b → (∀ x ∈ a.parts, ∃ y ∈ b.parts, x.1.Same y.1) →
      (∀ y ∈ b.parts, ∃ x ∈ a.parts, x.1.Same y.1) →
      (∀ x ∈ a.parts, ∀ y ∈ b.parts, x.1.Same y.1 → Matches exact x.2 y.2) → Matches exact a b

theorem matches_iff_of_not_same {exact : Bool} {a b : Value} (h : ¬ a.same b = true) :
    Matches exact a b ↔ Alike exact a b ∧ Paired (Matches exact) a.parts b.parts := by
  constructor
  · rintro (hsame | ⟨halike, hleft, hright, hvalues⟩)
    · exact absurd hsame h
    · exact ⟨halike, hleft, hright, hvalues⟩
  · rintro ⟨halike, hleft, hright, hvalues⟩
    exact .inside halike hleft hright hvalues

/-- An array that ends in an item is not the longer one if each of its items has one in the other
array at its position. -/
theorem length_le_of_left {id id' : Nat} {xs ys : List (Option Value)}
    (hlast : ∀ last, xs[xs.length - 1]? = some last → last.isSome)
    (hleft : ∀ x ∈ (array id xs).parts, ∃ y ∈ (array id' ys).parts, x.1.Same y.1) :
    xs.length ≤ ys.length := by
  cases h : xs[xs.length - 1]? with
  | none =>
      have hlen := List.getElem?_eq_none_iff.1 h
      omega
  | some last =>
      obtain ⟨v, rfl⟩ := Option.isSome_iff_exists.1 (hlast last h)
      obtain ⟨_, hy, hsame⟩ := hleft _ (mem_parts_array.2 ⟨_, v, rfl, h⟩)
      obtain ⟨n, w, rfl, hw⟩ := mem_parts_array.1 hy
      have hn : xs.length - 1 = n := hsame
      obtain ⟨hlt, -⟩ := List.getElem?_eq_some_iff.1 hw
      omega

/-! ## The comparison -/

/-- The names that a comparison asks for. -/
def comparedNames : List String := ["Date", "RegExp", "Set", "Map", "Array", "String"]

/-- Holds where the names that a comparison asks for stand for what they stood for at the start. -/
def Untouched (standing : Standing) : Prop := ∀ name ∈ comparedNames, standing name = none

section

variable {standing : Standing} {equal : Value → Value → Except Thrown Bool}
  {P : Value → Value → Prop}

theorem maker?_of_isCalm {a : Value} (ha : a.IsCalm) : a.maker? = none := by
  cases a with
  | object id ancestry members =>
      cases ancestry with
      | other heir => exact absurd rfl (ha.1 heir)
      | _ => rfl
  | _ => rfl

theorem equalInside_eq (hs : Untouched standing) {a : Value} (ha : a.IsCalm) (b : Value) :
    equalInside standing equal a b =
      if a.lineage.contains "Date" then equalDates a b
      else if a.lineage.contains "RegExp" then
        a.toText.bind fun s => b.toText.bind fun t => .ok (s == t)
      else if a.lineage.contains "Set" then equalSets standing a b
      else if a.lineage.contains "Map" then equalMaps standing equal a b
      else equalMembers equal a b := by
  have hisA : ∀ name ∈ comparedNames, isA standing a name = .ok (a.lineage.contains name) := by
    intro name hname
    rw [isA, hs name hname, maker?_of_isCalm ha]
    dsimp only
    rw [Option.none_beq_some, Bool.or_false]
  have htexts : needsTexts standing = .ok () := by rw [needsTexts, hs "String" (by decide)]
  have hpatterns : equalPatterns standing a b =
      a.toText.bind fun s => b.toText.bind fun t => .ok (s == t) := by
    rw [equalPatterns, htexts, maker?_of_isCalm ha]
    rfl
  rw [equalInside, hisA "Date" (by decide), hisA "RegExp" (by decide), hisA "Set" (by decide),
    hisA "Map" (by decide), hpatterns]
  rfl

/-- An object of another kind than these is compared by its members. -/
theorem equalInside_of_plain (hs : Untouched standing) {a : Value} (ha : a.IsCalm)
    (h : ∀ name ∈ comparedNames.take 4, a.lineage.contains name = false) (b : Value) :
    equalInside standing equal a b = equalMembers equal a b := by
  rw [equalInside_eq hs ha, h "Date" (by decide), h "RegExp" (by decide), h "Set" (by decide),
    h "Map" (by decide)]
  rfl

theorem decides_arrays {id id' : Nat} {xs ys : List (Option Value)}
    (hequal : ∀ x ∈ (array id xs).parts, ∀ y ∈ (array id' ys).parts,
      Decides (equal x.2 y.2) (P x.2 y.2)) :
    Decides (equalMembers equal (array id xs) (array id' ys))
      (Paired P (array id xs).parts (array id' ys).parts) := by
  rw [equalMembers]
  exact decides_lookup .position (fun _ _ => Iff.rfl) (IsCalm.apart (v := array id xs) trivial)
    (IsCalm.apart (v := array id' ys) trivial) hequal

/-- The comparison of what two objects hold under names. -/
theorem decides_held {a b : Value} {xs ys : List (String × Value)}
    (hxs : (xs.map Prod.fst).Nodup) (hys : (ys.map Prod.fst).Nodup)
    (hequal : ∀ x ∈ inSlots .name xs, ∀ y ∈ inSlots .name ys, Decides (equal x.2 y.2) (P x.2 y.2)) :
    Decides
      (if (held xs).length ≠ (held ys).length then .ok false
        else every (fun x => equalFound equal (x.2.getD a)
          (((held ys).lookup x.1).map fun own => own.getD b)) (held xs))
      (Paired P (inSlots .name xs) (inSlots .name ys)) := by
  have hlookup : ∀ name, ((held ys).lookup name).map (fun own => own.getD b) = ys.lookup name := by
    intro name
    clear hys hequal
    induction ys with
    | nil => rfl
    | cons y ys ih =>
        rw [held, List.map_cons, List.lookup_cons, List.lookup_cons]
        cases name == y.1
        · exact ih
        · rfl
  simp only [hlookup]
  simp only [held, List.length_map, every_map, Option.getD_some]
  exact decides_lookup .name (fun _ _ => Iff.rfl) (pairwise_held hxs) (pairwise_held hys) hequal

theorem decides_maps (hs : Untouched standing) {id id' : Nat} {xs ys : List (Value × Value)}
    (ha : (map id xs).IsCalm) (hb : (map id' ys).IsCalm)
    (hequal : ∀ x ∈ (map id xs).parts, ∀ y ∈ (map id' ys).parts,
      Decides (equal x.2 y.2) (P x.2 y.2)) :
    Decides (equalMaps standing equal (map id xs) (map id' ys))
      (Paired P (map id xs).parts (map id' ys).parts) := by
  have hfind : ∀ (zs : List (Value × Value)) k w, lookupKey k zs = some w →
      ∃ z ∈ zs, k.sameKey z.1 = true ∧ z.2 = w := by
    intro zs k w h
    induction zs with
    | nil => exact nomatch h
    | cons z zs ih =>
        rw [lookupKey] at h
        split at h
        · next hkey => exact ⟨z, List.mem_cons_self, sameKey_symm hkey, Option.some.inj h⟩
        · obtain ⟨z', hz', hfound⟩ := ih h
          exact ⟨z', List.mem_cons_of_mem z hz', hfound⟩
  have hmiss : ∀ (zs : List (Value × Value)) k, lookupKey k zs = none →
      ∀ z ∈ zs, ¬ k.sameKey z.1 = true := by
    intro zs k h
    induction zs with
    | nil => exact fun z hz => absurd hz List.not_mem_nil
    | cons z zs ih =>
        rw [lookupKey] at h
        split at h
        · exact nomatch h
        · next hkey => exact List.forall_mem_cons.2 ⟨fun hsame => hkey (sameKey_symm hsame), ih h⟩
  have hlists : needsLists standing = .ok () := by rw [needsLists, hs "Array" (by decide)]
  rw [equalMaps, hlists]
  exact decides_found .key (lookupKey · ys) (hfind ys) (hmiss ys) ha.apart hb.apart hequal

theorem decides_sets (hs : Untouched standing) {id id' : Nat} {xs ys : List Value}
    (ha : (set id xs).IsCalm) (hb : (set id' ys).IsCalm) (hP : P undefined undefined) :
    Decides (equalSets standing (set id xs) (set id' ys))
      (Paired P (set id xs).parts (set id' ys).parts) := by
  have hlists : needsLists standing = .ok () := by rw [needsLists, hs "Array" (by decide)]
  have hlength : ∀ id zs, (set id zs).parts.length = zs.length := fun id zs => by
    rw [parts, inSlots, List.length_map, List.length_map]
  have hcounted := counted_iff ha.apart hb.apart
  rw [hlength, hlength] at hcounted
  rw [equalSets, hlists]
  split
  · next hne =>
      exact decides_false fun hpaired => hne (hcounted.2 ⟨hpaired.left, hpaired.right⟩).1
  · next heq =>
      have hall : (xs.all fun x => ys.any (sameKey x)) = true ↔
          ∀ x ∈ (set id xs).parts, ∃ y ∈ (set id' ys).parts, x.1.Same y.1 := by
        simp only [List.all_eq_true, List.any_eq_true, mem_parts_set]
        constructor
        · rintro h _ ⟨v, hv, rfl⟩
          obtain ⟨w, hw, hsame⟩ := h v hv
          exact ⟨_, ⟨w, hw, rfl⟩, hsame⟩
        · intro h v hv
          obtain ⟨_, ⟨w, hw, rfl⟩, hsame⟩ := h _ ⟨v, hv, rfl⟩
          exact ⟨w, hw, hsame⟩
      refine ⟨_, rfl, hall.trans ⟨fun hleft => ?_, fun hpaired => hpaired.left⟩⟩
      refine ⟨hleft, (hcounted.1 ⟨not_not.1 heq, hleft⟩).2, fun x hx y hy _ => ?_⟩
      obtain ⟨v, -, rfl⟩ := mem_parts_set.1 hx
      obtain ⟨w, -, rfl⟩ := mem_parts_set.1 hy
      exact hP

/-- The text of an object around a text is compared, and what another object is around is not. -/
theorem decides_boxed {id id' : Nat} {x y : Value} (hx : x.isPrimitive = true)
    (hkind : (boxed id x).kind? = (boxed id' y).kind?) :
    Decides (equalMembers equal (boxed id x) (boxed id' y))
      (Agree false (boxed id x) (boxed id' y)) := by
  cases x
  case text s =>
    cases y <;> first | (cases hkind; done) | skip
    next t =>
    refine ⟨_, rfl, beq_iff_eq.trans ⟨fun h _ => beq_iff_eq.2 h, fun h => ?_⟩⟩
    exact beq_iff_eq.1 (h (.inr rfl))
  all_goals first
    | (cases hx; done)
    | exact decides_true fun h => h.elim (fun h => nomatch h) fun h => absurd h (by simp [typeName])

/-- The names of the kinds are not among the functions that other objects are made by. -/
theorem lineage_of_form {a : Value} (ha : a.IsCalm) {form : Nat} (h : a.form? = some form)
    (hform : form ∈ [0, 1, 6, 7]) :
    ∀ name ∈ comparedNames.take 4, a.lineage.contains name = false := by
  have hplain : ∀ owners ∈ [[], ["Object"], ["Array", "Object"], ["String", "Object"],
      ["Number", "Object"], ["Boolean", "Object"]],
      ∀ name ∈ comparedNames.take 4, List.contains owners name = false := by decide
  have herrors : ∀ maker ∈ Standard.errorNames, ∀ name ∈ comparedNames.take 4,
      (error 0 maker none []).lineage.contains name = false := by decide
  cases a
  case array => exact hplain _ (by simp [lineage])
  case object id ancestry members => cases ancestry <;> exact hplain _ (by simp [lineage])
  case boxed id inner => cases inner <;> exact hplain _ (by simp [lineage])
  case error id maker message members =>
    have hlineage : (error id maker message members).lineage = (error 0 maker none []).lineage := by
      by_cases herror : maker = "Error"
      · subst herror
        rfl
      · rw [lineage, lineage] <;> exact herror
    rw [hlineage]
    exact herrors maker ha.1
  all_goals cases h <;> exact absurd hform (by decide)

/-- Two objects of one kind are compared by what they hold. -/
theorem decides_equalInside (hs : Untouched standing) {a b : Value} (ha : a.IsCalm)
    (hb : b.IsCalm) (hsome : a.kind?.isSome) (hkind : a.kind? = b.kind?)
    (hP : P undefined undefined)
    (hequal : (∀ id items, a ≠ .set id items) → ∀ x ∈ a.parts, ∀ y ∈ b.parts,
      Decides (equal x.2 y.2) (P x.2 y.2)) :
    Decides (equalInside standing equal a b) (Agree false a b ∧ Paired P a.parts b.parts) := by
  have hform : a.form? = b.form? := by rw [form?_eq, form?_eq, hkind]
  have hform' : a.form?.isSome := by rw [form?_eq, Option.isSome_map]; exact hsome
  have hnothing : Paired P [] [] := by constructor <;> exact fun _ h => absurd h List.not_mem_nil
  cases a <;> first | (cases hform'; done) | skip
  all_goals cases b <;> first | (cases hform; done) | skip
  case array.array id xs id' ys =>
    rw [equalInside_of_plain hs ha (lineage_of_form ha rfl (by decide))]
    exact (decides_arrays (hequal fun _ _ h => nomatch h)).congr
      (and_iff_right fun h => nomatch h).symm
  case object.object id ancestry members id' ancestry' members' =>
    rw [equalInside_of_plain hs ha (lineage_of_form ha rfl (by decide))]
    obtain ⟨-, own, rfl, hnames, -⟩ := ha
    obtain ⟨-, own', rfl, hnames', -⟩ := hb
    have hequal := hequal fun _ _ h => nomatch h
    rw [parts_object, parts_object] at hequal ⊢
    exact (decides_held hnames hnames' hequal).congr (and_iff_right trivial).symm
  case error.error id maker message members id' maker' message' members' =>
    rw [equalInside_of_plain hs ha (lineage_of_form ha rfl (by decide))]
    obtain ⟨-, own, rfl, hnames, -⟩ := ha
    obtain ⟨-, own', rfl, hnames', -⟩ := hb
    have hequal := hequal fun _ _ h => nomatch h
    rw [parts_error, parts_error] at hequal ⊢
    exact (decides_held hnames hnames' hequal).congr (and_iff_right fun h => nomatch h).symm
  case boxed.boxed id inner id' inner' =>
    rw [equalInside_of_plain hs ha (lineage_of_form ha rfl (by decide))]
    exact (decides_boxed ha hkind).congr (and_iff_left hnothing).symm
  case date.date id time id' time' =>
    have hdates : Decides (equalDates (date id time) (date id' time'))
        (time.isSome ∧ time = time') := ⟨_, rfl, by rw [Bool.and_eq_true, beq_iff_eq]⟩
    rw [equalInside_eq hs ha]
    exact hdates.congr (and_iff_left hnothing).symm
  case pattern.pattern id source flags id' source' flags' =>
    have htexts : Decides (.ok (patternText source flags == patternText source' flags'))
        (patternText source flags = patternText source' flags') := ⟨_, rfl, beq_iff_eq⟩
    rw [equalInside_eq hs ha]
    exact htexts.congr (and_iff_left hnothing).symm
  case set.set =>
    rw [equalInside_eq hs ha]
    exact (decides_sets hs ha hb hP).congr (and_iff_right trivial).symm
  case map.map =>
    rw [equalInside_eq hs ha]
    exact (decides_maps hs ha hb (hequal fun _ _ h => nomatch h)).congr (and_iff_right trivial).symm

/-- A comparison with depth enough comes to the verdict whether two values match. -/
theorem decides_equalWithin (hs : Untouched standing) {fuel : Nat} {a b : Value} (ha : a.IsInert)
    (hb : b.IsInert) (hfuel : a.depth < fuel) :
    Decides (equalWithin standing fuel a b) (Matches false a b) := by
  induction fuel generalizing a b with
  | zero => exact absurd hfuel (Nat.not_lt_zero _)
  | succ fuel ih =>
      have hkinds : (a.kind?.isNone || decide (a.kind? ≠ b.kind?)) = true ↔
          ¬ (a.kind?.isSome ∧ a.kind? = b.kind?) := by
        rw [Bool.or_eq_true, decide_eq_true_iff, Option.isNone_iff_eq_none,
          ← Option.not_isSome_iff_eq_none]
        exact Decidable.not_and_iff_not_or_not.symm
      rw [equalWithin]
      split
      · next hsame => exact decides_true (.same hsame)
      · next hsame =>
          have hiff : Matches false a b ↔ _ := matches_iff_of_not_same hsame
          split
          · next hother =>
              refine decides_false fun hmatches => hkinds.1 hother ?_
              exact ⟨(hiff.1 hmatches).1.1, (hiff.1 hmatches).1.2.1⟩
          · next hother =>
              obtain ⟨hsome, hkind⟩ := not_not.1 fun h => hother (hkinds.2 h)
              have hinside : Decides (equalInside standing (equalWithin standing fuel) a b)
                  (Agree false a b ∧ Paired (Matches false) a.parts b.parts) :=
                decides_equalInside hs ha.calm hb.calm hsome hkind (.same rfl)
                  fun hset x hx y hy => ih (ha.part hx) (hb.part hy)
                    (Nat.lt_of_lt_of_le (depth_lt_of_mem_parts hset hx) (Nat.le_of_lt_succ hfuel))
              refine hinside.congr (Iff.trans ?_ hiff.symm)
              exact ⟨fun h => ⟨⟨hsome, hkind, h.1⟩, h.2⟩, fun h => ⟨h.1.2.2, h.2⟩⟩

end

end DocExamples.Script.Value

namespace DocExamples.Script.Session

/-- The names that the comparison of a session asks for. -/
def comparedNames : List String := "Object" :: Value.comparedNames

/-- In a session that left these names alone, a comparison of inert values comes to the verdict
whether they match, and does nothing else. -/
theorem gives_equal_of_inert (call : Caller) {s : Session}
    (hs : ∀ name ∈ comparedNames, s.globals.find? name = none) {a b : Value} (ha : a.IsInert)
    (hb : b.IsInert) :
    ∃ verdict, Gives (equal call a b) s verdict s ∧ (verdict = true ↔ Value.Matches false a b) := by
  have huntouched : Value.Untouched s.globals.find? := fun name hname =>
    hs name (List.mem_cons_of_mem _ hname)
  have hfuel := Nat.lt_succ_of_le (Nat.le_add_right a.depth b.depth)
  obtain ⟨verdict, hequal, hverdict⟩ := Value.decides_equalWithin huntouched ha hb hfuel
  refine ⟨verdict, ?_, hverdict⟩
  rw [equal]
  refine (gives_replaced? "Object" s).bind ?_
  rw [hs "Object" List.mem_cons_self]
  refine (gives_standing s).bind ((gives_settled call ha.calls s).bind
    ((gives_settled call hb.calls s).bind ?_))
  rw [Value.equalWhere, hequal]
  exact .pure _ s

end DocExamples.Script.Session
