import DocExamples.Proofs.Script.Equality
import DocExamples.Script.Call

/-!
# On data, a comparison is identity of structure

Data is what can be written down without a function: values that are no objects, and arrays
without holes, plain objects, sets and maps of data. `Identical` says when two such values
are put together alike. It does not look at the numbers that tell objects apart, and so a
copy is identical to what it is a copy of.

A comparison does look at them, since one and the same object is equal to itself without a
further look. That this makes no difference is because two occurrences with one number are
one value: all data below comes out of one store, in which each number stands for one
object.
-/

namespace DocExamples.Script

namespace Value

/-! ## Data -/

/-- Holds of data, whatever its parts are. What has a number is what the store has under it. -/
def IsDatum (store : Nat → Value) (v : Value) : Prop :=
  (∀ id, v.id? = some id → store id = v) ∧
    match v with
    | array _ items => ∀ item ∈ items, item.isSome
    | object _ ancestry members =>
      ancestry = .common ∧ ∃ own, members = held own ∧ (own.map Prod.fst).Nodup
    | set _ items =>
      (∀ v ∈ items, v.isPrimitive ∧ v.asKey = v) ∧ items.Pairwise fun v w => ¬ v.same w = true
    | map _ entries =>
      (∀ e ∈ entries, e.1.isPrimitive ∧ e.1.asKey = e.1) ∧
        entries.Pairwise fun d e => ¬ d.1.same e.1 = true
    | v => v.isPrimitive = true

/-- Holds of data out of a store. -/
inductive IsData (store : Nat → Value) : Value → Prop where
  | intro {v : Value} : v.IsDatum store → (∀ x ∈ v.parts, IsData store x.2) → IsData store v

/-- Holds of data that is put together alike: values that are no objects are the same, arrays have
the same length and identical items in order, objects the same names and sets and maps the same
members and keys, in any order, with identical values under them. -/
inductive Identical : Value → Value → Prop where
  | primitive {a b : Value} : a.isPrimitive = true → b.isPrimitive = true → a.same b = true →
      Identical a b
  | array {i j : Nat} {xs ys : List (Option Value)} : xs.length = ys.length →
      (∀ (n : Nat) v w, xs[n]? = some (some v) → ys[n]? = some (some w) → Identical v w) →
      Identical (array i xs) (array j ys)
  | object {i j : Nat} {xs ys : List (String × Option Value)} :
      (∀ name, name ∈ xs.map Prod.fst ↔ name ∈ ys.map Prod.fst) →
      (∀ name v w, (name, some v) ∈ xs → (name, some w) ∈ ys → Identical v w) →
      Identical (object i .common xs) (object j .common ys)
  | set {i j : Nat} {xs ys : List Value} : (∀ x ∈ xs, ∃ y ∈ ys, x.same y = true) →
      (∀ y ∈ ys, ∃ x ∈ xs, x.same y = true) → Identical (set i xs) (set j ys)
  | map {i j : Nat} {xs ys : List (Value × Value)} : (∀ x ∈ xs, ∃ y ∈ ys, x.1.same y.1 = true) →
      (∀ y ∈ ys, ∃ x ∈ xs, x.1.same y.1 = true) →
      (∀ x ∈ xs, ∀ y ∈ ys, x.1.same y.1 = true → Identical x.2 y.2) →
      Identical (map i xs) (map j ys)

/-- Holds of a copy that is made of other objects. Its parts are put into it in any order. -/
inductive Rebuilt : Value → Value → Prop where
  | primitive {v : Value} : v.isPrimitive = true → Rebuilt v v
  | object {a b : Value} {copies : List (Slot × Value)} : a.kind?.isSome → a.kind? = b.kind? →
      a.parts.length = copies.length →
      (∀ (n : Nat) x y, a.parts[n]? = some x → copies[n]? = some y → x.1 = y.1) →
      (∀ (n : Nat) x y, a.parts[n]? = some x → copies[n]? = some y → Rebuilt x.2 y.2) →
      copies.Perm b.parts → Rebuilt a b

theorem same_refl {v : Value} (h : v.isPrimitive = true) : v.same v = true := by
  refine same_iff.2 ?_
  cases hid : v.id? with
  | some id => exact .inl ⟨rfl, rfl⟩
  | none => exact .inr ⟨rfl, rfl, fun f hf => by subst hf; exact nomatch h⟩

theorem sameKey_of_asKey {v w : Value} (hv : v.asKey = v) (hw : w.asKey = w) :
    v.sameKey w = v.same w := by
  rw [sameKey, hv, hw]

variable {store : Nat → Value} {a b c : Value}

theorem IsData.datum (h : IsData store a) : a.IsDatum store := by
  obtain ⟨hdatum, -⟩ := h
  exact hdatum

theorem IsData.part (h : IsData store a) {x : Slot × Value} (hx : x ∈ a.parts) :
    IsData store x.2 := by
  obtain ⟨-, hparts⟩ := h
  exact hparts x hx

/-- A value that is no object and carries no number is data in any case. -/
theorem IsData.leaf {v : Value} (hprim : v.isPrimitive = true) (hid : v.id? = none) :
    IsData store v := by
  have hdatum : v.IsDatum store := by
    refine ⟨fun id h => (nomatch hid.symm.trans h), ?_⟩
    cases v <;> first | exact hprim | cases hprim
  refine .intro hdatum fun x hx => ?_
  cases v <;> first | exact absurd hx List.not_mem_nil | cases hprim

theorem IsData.isFunction (h : IsData store a) : a.isFunction = false := by
  have hdatum := h.datum
  cases a with
  | function | native => exact nomatch hdatum.2
  | _ => rfl

theorem IsData.calm (h : IsData store a) : a.IsCalm := by
  have hdatum := h.datum
  cases a with
  | object id ancestry members =>
      obtain ⟨-, rfl, own, rfl, hnames⟩ := hdatum
      refine ⟨fun _ h => (nomatch h), own, rfl, hnames, fun v hv => ?_⟩
      have hpart := h.part (mem_parts_object.2 ⟨"toJSON", v, rfl, List.mem_map_of_mem hv⟩)
      exact hpart.isFunction
  | set id items =>
      obtain ⟨-, hkeys, hapart⟩ := hdatum
      refine hapart.imp_of_mem fun hv hw hne => ?_
      rwa [sameKey_of_asKey (hkeys _ hv).2 (hkeys _ hw).2]
  | map id entries =>
      obtain ⟨-, hkeys, hapart⟩ := hdatum
      refine hapart.imp_of_mem fun hd he hne => ?_
      rwa [sameKey_of_asKey (hkeys _ hd).2 (hkeys _ he).2]
  | error | boxed | computed => exact nomatch hdatum.2
  | _ => trivial

theorem IsData.inert (h : IsData store a) : a.IsInert := by
  induction h with
  | intro hdatum hparts ih => exact .intro (IsData.intro hdatum hparts).calm ih

/-- What is one and the same is one value, as all of it comes out of one store. -/
theorem IsData.eq_of_same (ha : IsData store a) (hb : IsData store b) (h : a.same b = true) :
    a = b := by
  rcases same_iff.1 h with ⟨hsome, hid⟩ | ⟨-, heq, -⟩
  · obtain ⟨id, ha'⟩ := Option.isSome_iff_exists.1 hsome
    exact (ha.datum.1 id ha').symm.trans (hb.datum.1 id (hid ▸ ha'))
  · exact heq

/-! ## Identity is an equivalence -/

theorem Identical.refl (h : IsData store a) : Identical a a := by
  induction h with
  | @intro v hdatum hparts ih =>
      have hapart := (IsData.intro hdatum hparts).calm.apart
      cases v with
      | array id items =>
          refine .array rfl fun n v w hv hw => ?_
          obtain rfl := Option.some.inj (Option.some.inj (hv.symm.trans hw))
          exact ih (.position n, v) (mem_parts_array.2 ⟨n, v, rfl, hv⟩)
      | object id ancestry members =>
          obtain ⟨-, rfl, -⟩ := hdatum
          refine .object (fun _ => Iff.rfl) fun name v w hv hw => ?_
          have hpart : ∀ v, (name, some v) ∈ members →
              (.name name, v) ∈ (Value.object id .common members).parts :=
            fun v hv => mem_parts_object.2 ⟨name, v, rfl, hv⟩
          have hmem := hpart v hv
          have hmem' := hpart w hw
          obtain rfl := (Prod.mk.inj (Value.eq_of_same hapart hmem hmem' rfl)).2
          exact ih _ hmem
      | set id items =>
          obtain ⟨-, hkeys, -⟩ := hdatum
          exact .set (fun v hv => ⟨v, hv, same_refl (hkeys v hv).1⟩)
            fun v hv => ⟨v, hv, same_refl (hkeys v hv).1⟩
      | map id entries =>
          obtain ⟨-, hkeys, -⟩ := hdatum
          refine .map (fun e he => ⟨e, he, same_refl (hkeys e he).1⟩)
            (fun e he => ⟨e, he, same_refl (hkeys e he).1⟩) fun d hd e he hsame => ?_
          have hpart : ∀ e ∈ entries, (.key e.1, e.2) ∈ (Value.map id entries).parts :=
            fun e he => mem_parts_map.2 ⟨e, he, rfl⟩
          have hmem := hpart d hd
          have hmem' := hpart e he
          rw [← sameKey_of_asKey (hkeys d hd).2 (hkeys e he).2] at hsame
          have heq : d.2 = e.2 := (Prod.mk.inj (Value.eq_of_same hapart hmem hmem' hsame)).2
          exact heq ▸ ih _ hmem
      | undefined | null | bool | number | bigint | text | symbol =>
          exact .primitive rfl rfl (same_refl rfl)
      | _ => exact nomatch hdatum.2

theorem Identical.symm (h : Identical a b) : Identical b a := by
  induction h with
  | primitive ha hb hsame => exact .primitive hb ha (same_symm hsame)
  | array hlen _ ih => exact .array hlen.symm fun n v w hv hw => ih n w v hw hv
  | object hnames _ ih =>
      exact .object (fun name => (hnames name).symm) fun name v w hv hw => ih name w v hw hv
  | set hleft hright =>
      exact .set (fun y hy => (hright y hy).imp fun _ h => ⟨h.1, same_symm h.2⟩)
        fun x hx => (hleft x hx).imp fun _ h => ⟨h.1, same_symm h.2⟩
  | map hleft hright _ ih =>
      exact .map (fun y hy => (hright y hy).imp fun _ h => ⟨h.1, same_symm h.2⟩)
        (fun x hx => (hleft x hx).imp fun _ h => ⟨h.1, same_symm h.2⟩)
        fun y hy x hx hsame => ih x hx y hy (same_symm hsame)

theorem exists_between {α : Type} {R S : α → α → Prop} {xs ys zs : List α}
    (hxy : ∀ x ∈ xs, ∃ y ∈ ys, R x y) (hyz : ∀ y ∈ ys, ∃ z ∈ zs, R y z)
    (hS : ∀ {x y z}, R x y → R y z → S x z) : ∀ x ∈ xs, ∃ z ∈ zs, S x z := by
  intro x hx
  obtain ⟨y, hy, hRxy⟩ := hxy x hx
  obtain ⟨z, hz, hRyz⟩ := hyz y hy
  exact ⟨z, hz, hS hRxy hRyz⟩

theorem Identical.trans (hb : IsData store b) (hab : Identical a b) (hbc : Identical b c) :
    Identical a c := by
  induction hab generalizing c with
  | primitive hprim hprim' hsame =>
      cases hbc with
      | primitive _ hprim'' hsame' => exact .primitive hprim hprim'' (same_trans hsame hsame')
      | _ => exact nomatch hprim'
  | @array i j xs ys hlen _ ih =>
      cases hbc with
      | primitive hprim => exact nomatch hprim
      | @array _ k _ zs hlen' hitems =>
          refine .array (hlen.trans hlen') fun n v w hv hw => ?_
          -- The array in the middle has no holes, so there is an item between the two.
          obtain ⟨hlt, -⟩ := List.getElem?_eq_some_iff.1 hv
          obtain ⟨u, hu⟩ :=
            Option.isSome_iff_exists.1 (hb.datum.2 _ (List.getElem_mem (hlen ▸ hlt)))
          have hitem : ys[n]? = some (some u) :=
            (List.getElem?_eq_getElem _).trans (congrArg some hu)
          have hpart := hb.part (mem_parts_array.2 ⟨n, u, rfl, hitem⟩)
          exact ih n v u hv hitem hpart (hitems n u w hitem hw)
  | @object i j xs ys hnames _ ih =>
      cases hbc with
      | primitive hprim => exact nomatch hprim
      | @object _ k _ zs hnames' hmembers =>
          refine .object (fun name => (hnames name).trans (hnames' name)) fun name v w hv hw => ?_
          obtain ⟨⟨_, _⟩, hy, rfl⟩ := List.mem_map.1 ((hnames name).1 (List.mem_map_of_mem hv))
          obtain ⟨-, -, own, rfl, -⟩ := hb.datum
          obtain ⟨⟨_, u⟩, hu, ⟨⟩⟩ := List.mem_map.1 hy
          have hpart := hb.part (mem_parts_object.2 ⟨_, u, rfl, hy⟩)
          exact ih _ v u hv hy hpart (hmembers _ u w hy hw)
  | set hleft hright =>
      cases hbc with
      | primitive hprim => exact nomatch hprim
      | set hleft' hright' =>
          exact .set (exists_between hleft hleft' same_trans)
            (exists_between hright' hright fun h h' => same_trans h' h)
  | @map i j xs ys hleft hright _ ih =>
      cases hbc with
      | primitive hprim => exact nomatch hprim
      | map hleft' hright' hvalues =>
          refine .map (exists_between hleft hleft' same_trans)
            (exists_between hright' hright fun h h' => same_trans h' h) fun x hx z hz hsame => ?_
          obtain ⟨y, hy, hxy⟩ := hleft x hx
          have hpart := hb.part (mem_parts_map.2 ⟨y, hy, rfl⟩)
          exact ih x hx y hy hxy hpart (hvalues y hy z hz (same_trans (same_symm hxy) hsame))

/-! ## Identity and matching

For each kind of objects, parts are paired exactly if the objects are put together alike. -/

section

variable {P : Value → Value → Prop} {id id' : Nat}

theorem paired_arrays_iff {xs ys : List (Option Value)} (hxs : ∀ item ∈ xs, item.isSome)
    (hys : ∀ item ∈ ys, item.isSome) :
    Paired P (array id xs).parts (array id' ys).parts ↔ xs.length = ys.length ∧
      ∀ (n : Nat) v w, xs[n]? = some (some v) → ys[n]? = some (some w) → P v w := by
  have hitem : ∀ {zs : List (Option Value)} {n : Nat}, (∀ item ∈ zs, item.isSome) →
      n < zs.length → ∃ v, zs[n]? = some (some v) := by
    intro zs n hdense hlt
    obtain ⟨v, hv⟩ := Option.isSome_iff_exists.1 (hdense _ (List.getElem_mem hlt))
    exact ⟨v, (List.getElem?_eq_getElem hlt).trans (congrArg some hv)⟩
  constructor
  · intro h
    have hback : ∀ y ∈ (array id' ys).parts, ∃ x ∈ (array id xs).parts, y.1.Same x.1 :=
      fun y hy => (h.right y hy).imp fun _ hx => ⟨hx.1, hx.2.symm⟩
    refine ⟨Nat.le_antisymm (length_le_of_left (fun _ h => hxs _ (List.mem_of_getElem? h)) h.left)
      (length_le_of_left (fun _ h => hys _ (List.mem_of_getElem? h)) hback), fun n v w hv hw => ?_⟩
    exact h.values _ (mem_parts_array.2 ⟨n, v, rfl, hv⟩) _ (mem_parts_array.2 ⟨n, w, rfl, hw⟩) rfl
  · rintro ⟨hlen, hitems⟩
    refine ⟨fun x hx => ?_, fun y hy => ?_, fun x hx y hy hsame => ?_⟩
    · obtain ⟨n, v, rfl, hv⟩ := mem_parts_array.1 hx
      obtain ⟨hlt, -⟩ := List.getElem?_eq_some_iff.1 hv
      obtain ⟨w, hw⟩ := hitem hys (hlen ▸ hlt)
      exact ⟨_, mem_parts_array.2 ⟨n, w, rfl, hw⟩, rfl⟩
    · obtain ⟨n, w, rfl, hw⟩ := mem_parts_array.1 hy
      obtain ⟨hlt, -⟩ := List.getElem?_eq_some_iff.1 hw
      obtain ⟨v, hv⟩ := hitem hxs (hlen ▸ hlt)
      exact ⟨_, mem_parts_array.2 ⟨n, v, rfl, hv⟩, rfl⟩
    · obtain ⟨n, v, rfl, hv⟩ := mem_parts_array.1 hx
      obtain ⟨_, w, rfl, hw⟩ := mem_parts_array.1 hy
      obtain rfl : n = _ := hsame
      exact hitems n v w hv hw

theorem paired_objects_iff {ancestry ancestry' : Ancestry} {own own' : List (String × Value)} :
    Paired P (object id ancestry (held own)).parts (object id' ancestry' (held own')).parts ↔
      (∀ name, name ∈ (held own).map Prod.fst ↔ name ∈ (held own').map Prod.fst) ∧
        ∀ name v w, (name, some v) ∈ held own → (name, some w) ∈ held own' → P v w := by
  have hname : ∀ id ancestry own name, name ∈ (held own).map Prod.fst ↔
      ∃ v, (Slot.name name, v) ∈ (object id ancestry (held own)).parts := by
    intro id ancestry own name
    rw [parts_object, inSlots, held, List.map_map]
    simp
  constructor
  · intro h
    refine ⟨fun name => ⟨fun hmem => ?_, fun hmem => ?_⟩, fun name v w hv hw => ?_⟩
    · obtain ⟨v, hx⟩ := (hname id ancestry _ _).1 hmem
      obtain ⟨⟨slot, w⟩, hy, hsame⟩ := h.left _ hx
      obtain ⟨_, _, ⟨⟩, hm⟩ := mem_parts_object.1 hy
      obtain rfl : name = _ := hsame
      exact List.mem_map_of_mem hm
    · obtain ⟨w, hy⟩ := (hname id' ancestry' _ _).1 hmem
      obtain ⟨⟨slot, v⟩, hx, hsame⟩ := h.right _ hy
      obtain ⟨_, _, ⟨⟩, hm⟩ := mem_parts_object.1 hx
      obtain rfl : _ = name := hsame
      exact List.mem_map_of_mem hm
    · exact h.values _ (mem_parts_object.2 ⟨name, v, rfl, hv⟩) _
        (mem_parts_object.2 ⟨name, w, rfl, hw⟩) rfl
  · rintro ⟨hnames, hmembers⟩
    refine ⟨fun x hx => ?_, fun y hy => ?_, fun x hx y hy hsame => ?_⟩
    · obtain ⟨name, v, rfl, hv⟩ := mem_parts_object.1 hx
      obtain ⟨w, hw⟩ := (hname _ _ _ _).1 ((hnames name).1 (List.mem_map_of_mem hv))
      exact ⟨_, hw, rfl⟩
    · obtain ⟨name, w, rfl, hw⟩ := mem_parts_object.1 hy
      obtain ⟨v, hv⟩ := (hname _ _ _ _).1 ((hnames name).2 (List.mem_map_of_mem hw))
      exact ⟨_, hv, rfl⟩
    · obtain ⟨name, v, rfl, hv⟩ := mem_parts_object.1 hx
      obtain ⟨_, w, rfl, hw⟩ := mem_parts_object.1 hy
      obtain rfl : name = _ := hsame
      exact hmembers name v w hv hw

theorem paired_maps_iff {xs ys : List (Value × Value)} (hxs : ∀ e ∈ xs, e.1.asKey = e.1)
    (hys : ∀ e ∈ ys, e.1.asKey = e.1) :
    Paired P (inSlots .key xs) (inSlots .key ys) ↔
      (∀ x ∈ xs, ∃ y ∈ ys, x.1.same y.1 = true) ∧ (∀ y ∈ ys, ∃ x ∈ xs, x.1.same y.1 = true) ∧
        ∀ x ∈ xs, ∀ y ∈ ys, x.1.same y.1 = true → P x.2 y.2 := by
  have hkey : ∀ x ∈ xs, ∀ y ∈ ys, (Slot.key x.1).Same (.key y.1) ↔ x.1.same y.1 = true :=
    fun x hx y hy => by rw [← sameKey_of_asKey (hxs x hx) (hys y hy)]; exact Iff.rfl
  have hmem : ∀ {zs : List (Value × Value)} {z}, z ∈ zs → (Slot.key z.1, z.2) ∈ inSlots .key zs :=
    fun hz => List.mem_map_of_mem hz
  constructor
  · intro h
    refine ⟨fun x hx => ?_, fun y hy => ?_, fun x hx y hy hsame => ?_⟩
    · obtain ⟨_, hslot, hsame⟩ := h.left _ (hmem hx)
      obtain ⟨y, hy, rfl⟩ := List.mem_map.1 hslot
      exact ⟨y, hy, (hkey x hx y hy).1 hsame⟩
    · obtain ⟨_, hslot, hsame⟩ := h.right _ (hmem hy)
      obtain ⟨x, hx, rfl⟩ := List.mem_map.1 hslot
      exact ⟨x, hx, (hkey x hx y hy).1 hsame⟩
    · exact h.values _ (hmem hx) _ (hmem hy) ((hkey x hx y hy).2 hsame)
  · rintro ⟨hleft, hright, hvalues⟩
    refine ⟨List.forall_mem_map.2 fun x hx => ?_, List.forall_mem_map.2 fun y hy => ?_,
      List.forall_mem_map.2 fun x hx => List.forall_mem_map.2 fun y hy hsame => ?_⟩
    · obtain ⟨y, hy, hsame⟩ := hleft x hx
      exact ⟨_, hmem hy, (hkey x hx y hy).2 hsame⟩
    · obtain ⟨x, hx, hsame⟩ := hright y hy
      exact ⟨_, hmem hx, (hkey x hx y hy).2 hsame⟩
    · exact hvalues x hx y hy ((hkey x hx y hy).1 hsame)

theorem paired_sets_iff {xs ys : List Value} (hxs : ∀ v ∈ xs, v.asKey = v)
    (hys : ∀ v ∈ ys, v.asKey = v) (hP : P undefined undefined) :
    Paired P (set id xs).parts (set id' ys).parts ↔
      (∀ x ∈ xs, ∃ y ∈ ys, x.same y = true) ∧ ∀ y ∈ ys, ∃ x ∈ xs, x.same y = true := by
  have hentries : ∀ zs : List Value, (∀ v ∈ zs, v.asKey = v) →
      ∀ e ∈ zs.map fun v => (v, undefined), e.1.asKey = e.1 :=
    fun _ hzs => List.forall_mem_map.2 hzs
  refine (paired_maps_iff (hentries xs hxs) (hentries ys hys)).trans ?_
  simp [hP]

end

/-- Data that matches is put together alike. -/
theorem Matches.identical (h : Matches false a b) (ha : IsData store a) (hb : IsData store b) :
    Identical a b := by
  induction h with
  | same hsame => exact ha.eq_of_same hb hsame ▸ Identical.refl ha
  | @inside a b halike hleft hright hvalues ih =>
      have hpaired : Paired Identical a.parts b.parts :=
        ⟨hleft, hright, fun x hx y hy hsame => ih x hx y hy hsame (ha.part hx) (hb.part hy)⟩
      obtain ⟨hsome, hkind, -⟩ := halike
      clear hleft hright hvalues ih
      have hform : a.form? = b.form? := by rw [form?_eq, form?_eq, hkind]
      have hform' : a.form?.isSome := by rw [form?_eq, Option.isSome_map]; exact hsome
      have hdatum := ha.datum
      have hdatum' := hb.datum
      cases a <;> first | (cases hform'; done) | skip
      all_goals cases b <;> first | (cases hform; done) | skip
      case array.array =>
        obtain ⟨hlen, hitems⟩ := (paired_arrays_iff hdatum.2 hdatum'.2).1 hpaired
        exact .array hlen hitems
      case object.object =>
        obtain ⟨-, rfl, own, rfl, -⟩ := hdatum
        obtain ⟨-, rfl, own', rfl, -⟩ := hdatum'
        obtain ⟨hnames, hmembers⟩ := paired_objects_iff.1 hpaired
        exact .object hnames hmembers
      case set.set =>
        obtain ⟨hleft, hright⟩ := (paired_sets_iff (fun v hv => (hdatum.2.1 v hv).2)
          (fun v hv => (hdatum'.2.1 v hv).2) (.primitive rfl rfl rfl)).1 hpaired
        exact .set hleft hright
      case map.map =>
        obtain ⟨hleft, hright, hvalues⟩ := (paired_maps_iff (fun e he => (hdatum.2.1 e he).2)
          fun e he => (hdatum'.2.1 e he).2).1 hpaired
        exact .map hleft hright hvalues
      all_goals exact nomatch hdatum.2

theorem Matches.of_paired {exact : Bool} (h : Alike exact a b)
    (hpaired : Paired (Matches exact) a.parts b.parts) : Matches exact a b :=
  .inside h hpaired.left hpaired.right hpaired.values

/-- Data that is put together alike matches. -/
theorem Identical.matches (h : Identical a b) (ha : IsData store a) (hb : IsData store b) :
    Matches false a b := by
  induction h with
  | primitive _ _ hsame => exact .same hsame
  | array hlen _ ih =>
      refine .of_paired ⟨rfl, rfl, fun h => nomatch h⟩
        ((paired_arrays_iff ha.datum.2 hb.datum.2).2 ⟨hlen, fun n v w hv hw => ?_⟩)
      exact ih n v w hv hw (ha.part (mem_parts_array.2 ⟨n, v, rfl, hv⟩))
        (hb.part (mem_parts_array.2 ⟨n, w, rfl, hw⟩))
  | object hnames _ ih =>
      obtain ⟨-, -, own, rfl, -⟩ := ha.datum
      obtain ⟨-, -, own', rfl, -⟩ := hb.datum
      refine .of_paired ⟨rfl, rfl, trivial⟩
        (paired_objects_iff.2 ⟨hnames, fun name v w hv hw => ?_⟩)
      exact ih name v w hv hw (ha.part (mem_parts_object.2 ⟨name, v, rfl, hv⟩))
        (hb.part (mem_parts_object.2 ⟨name, w, rfl, hw⟩))
  | set hleft hright =>
      have hkeys := ha.datum.2.1
      have hkeys' := hb.datum.2.1
      exact .of_paired ⟨rfl, rfl, trivial⟩ ((paired_sets_iff (fun v hv => (hkeys v hv).2)
        (fun v hv => (hkeys' v hv).2) (.same rfl)).2 ⟨hleft, hright⟩)
  | map hleft hright _ ih =>
      have hkeys := ha.datum.2.1
      have hkeys' := hb.datum.2.1
      refine .of_paired ⟨rfl, rfl, trivial⟩ ((paired_maps_iff (fun e he => (hkeys e he).2)
        fun e he => (hkeys' e he).2).2 ⟨hleft, hright, fun d hd e he hsame => ?_⟩)
      exact ih d hd e he hsame (ha.part (mem_parts_map.2 ⟨d, hd, rfl⟩))
        (hb.part (mem_parts_map.2 ⟨e, he, rfl⟩))

theorem matches_iff_identical (ha : IsData store a) (hb : IsData store b) :
    Matches false a b ↔ Identical a b := ⟨fun h => h.identical ha hb, fun h => h.matches ha hb⟩

/-! ## Copies -/

theorem IsData.slot_refl (h : IsData store a) {x : Slot × Value} (hx : x ∈ a.parts) :
    x.1.Same x.1 := by
  have hdatum := h.datum
  cases a with
  | array id items =>
      obtain ⟨n, v, rfl, -⟩ := mem_parts_array.1 hx
      rfl
  | object id ancestry members =>
      obtain ⟨name, v, rfl, -⟩ := mem_parts_object.1 hx
      rfl
  | set id items =>
      obtain ⟨v, hv, rfl⟩ := mem_parts_set.1 hx
      obtain ⟨hprim, hkey⟩ := hdatum.2.1 v hv
      exact (sameKey_of_asKey hkey hkey).trans (same_refl hprim)
  | map id entries =>
      obtain ⟨e, he, rfl⟩ := mem_parts_map.1 hx
      obtain ⟨hprim, hkey⟩ := hdatum.2.1 e he
      exact (sameKey_of_asKey hkey hkey).trans (same_refl hprim)
  | error => exact nomatch hdatum.2
  | _ => exact absurd hx List.not_mem_nil

theorem IsData.agree (h : IsData store a) : Agree false a b := by
  have hdatum := h.datum
  unfold Agree
  split
  · exact fun h => nomatch h
  · exact nomatch hdatum.2
  · exact nomatch hdatum.2
  · exact fun h => nomatch h
  · exact nomatch hdatum.2
  · trivial

/-- A copy matches what it is a copy of. -/
theorem Rebuilt.matches (h : Rebuilt a b) (ha : IsData store a) (hb : IsData store b) :
    Matches false a b := by
  induction h with
  | primitive hprim => exact .same (same_refl hprim)
  | @object a b copies hsome hkind hlen hslots _ hperm ih =>
      have hcopy : ∀ x ∈ a.parts, ∃ y ∈ b.parts, x.1 = y.1 ∧ Matches false x.2 y.2 := by
        intro x hx
        obtain ⟨n, hn⟩ := List.mem_iff_getElem?.1 hx
        obtain ⟨hlt, -⟩ := List.getElem?_eq_some_iff.1 hn
        have hy := List.getElem?_eq_getElem (hlen ▸ hlt)
        have hmem := hperm.mem_iff.1 (List.mem_of_getElem? hy)
        exact ⟨_, hmem, hslots n _ _ hn hy, ih n _ _ hn hy (ha.part hx) (hb.part hmem)⟩
      refine .inside ⟨hsome, hkind, ha.agree⟩ (fun x hx => ?_) (fun y hy => ?_)
        fun x hx y hy hsame => ?_
      · obtain ⟨y, hy, hslot, -⟩ := hcopy x hx
        exact ⟨y, hy, hslot ▸ ha.slot_refl hx⟩
      · obtain ⟨n, hn⟩ := List.mem_iff_getElem?.1 (hperm.mem_iff.2 hy)
        obtain ⟨hlt, -⟩ := List.getElem?_eq_some_iff.1 hn
        have hx := List.getElem?_eq_getElem (hlen.symm ▸ hlt)
        have hmem := List.mem_of_getElem? hx
        exact ⟨_, hmem, hslots n _ _ hx hn ▸ ha.slot_refl hmem⟩
      · -- The part of the copy in that slot is the copy of the part.
        obtain ⟨y', hy', hslot, hmatches⟩ := hcopy x hx
        obtain rfl := Value.eq_of_same hb.calm.apart hy' hy (hslot ▸ hsame)
        exact hmatches

theorem Identical.kinds (h : Identical a b) (ha : IsData store a) (hb : IsData store b) :
    a.typeName = b.typeName ∧ a.kind? = b.kind? := by
  cases h with
  | primitive _ _ hsame =>
      obtain rfl := ha.eq_of_same hb hsame
      exact ⟨rfl, rfl⟩
  | _ => exact ⟨rfl, rfl⟩

end Value

namespace Session

open Value in
/-- In a session that left the names of the kinds alone, a comparison of data comes to a verdict
and does nothing else. The verdict is whether the two are put together alike, and never so for
values of different kinds. It is the same both ways and carries over from one pair to the next; a
copy, whatever the order in which its parts were put into it, is equal to what it is a copy of, and
to whatever else that is equal to. -/
theorem equal_iff_identical (call : Caller) {s : Session}
    (hs : ∀ name ∈ comparedNames, s.globals.find? name = none) (store : Nat → Value) :
    ∃ verdict : Value → Value → Bool,
      (∀ a b, IsData store a → IsData store b →
        Gives (equal call a b) s (verdict a b) s ∧ (verdict a b = true ↔ Identical a b) ∧
        (a.typeName ≠ b.typeName ∨ a.kind? ≠ b.kind? → verdict a b = false) ∧
        verdict a b = verdict b a ∧ (Rebuilt a b → verdict a b = true)) ∧
      ∀ a b c, IsData store a → IsData store b → IsData store c →
        (verdict a b = true → verdict b c = true → verdict a c = true) ∧
        (Rebuilt a b → verdict a c = verdict b c ∧ verdict c a = verdict c b) := by
  classical
  have hsymm : ∀ a b, decide (Identical a b) = decide (Identical b a) := fun a b =>
    decide_eq_decide.2 ⟨Identical.symm, Identical.symm⟩
  have hrebuilt : ∀ {a b}, IsData store a → IsData store b → Rebuilt a b → Identical a b :=
    fun ha hb h => (h.matches ha hb).identical ha hb
  refine ⟨fun a b => decide (Identical a b), fun a b ha hb => ⟨?_, decide_eq_true_iff, ?_,
    hsymm a b, fun h => decide_eq_true (hrebuilt ha hb h)⟩, fun a b c ha hb hc => ⟨?_, ?_⟩⟩
  · obtain ⟨verdict, hgives, hverdict⟩ := gives_equal_of_inert call hs ha.inert hb.inert
    rw [matches_iff_identical ha hb] at hverdict
    have heq : verdict = decide (Identical a b) :=
      Bool.eq_iff_iff.2 (hverdict.trans decide_eq_true_iff.symm)
    rw [heq] at hgives
    exact hgives
  · intro hne
    refine decide_eq_false fun h => ?_
    obtain ⟨htype, hkind⟩ := h.kinds ha hb
    exact hne.elim (fun h => h htype) fun h => h hkind
  · intro hab hbc
    exact decide_eq_true ((of_decide_eq_true hab).trans hb (of_decide_eq_true hbc))
  · intro h
    have hab := hrebuilt ha hb h
    have hverdicts : decide (Identical a c) = decide (Identical b c) :=
      decide_eq_decide.2 ⟨fun hac => hab.symm.trans ha hac, fun hbc => hab.trans hb hbc⟩
    exact ⟨hverdicts, (hsymm c a).trans (hverdicts.trans (hsymm b c))⟩

open Value in
/-- An object with an undefined number and a set, and a copy of it that was built the other way
round. -/
theorem equal_iff_identical_of_copy :
    let s : Session := { sandbox := ⟨{}, [], {}⟩ }
    let x : Value := .number .nan
    let a : Value := .object 200 .common (held [("x", x), ("y", .set 201 [.null, .text "k"])])
    let b : Value := .object 202 .common (held [("y", .set 203 [.text "k", .null]), ("x", x)])
    let store (id : Nat) : Value :=
      if id = 200 then a else if id = 201 then .set 201 [.null, .text "k"]
      else if id = 202 then b else .set 203 [.text "k", .null]
    (∀ name ∈ comparedNames, s.globals.find? name = none) ∧ IsData store a ∧ IsData store b ∧
      Rebuilt a b ∧ Gives (equal machine.call a b) s true s ∧ Identical a b := by
  intro s x a b store
  have hs : ∀ name ∈ comparedNames, s.globals.find? name = none := fun _ _ => rfl
  have hpair : ∀ id v w, store id = .set id [v, w] → IsData store v → IsData store w →
      v.isPrimitive = true ∧ v.asKey = v → w.isPrimitive = true ∧ w.asKey = w →
      ¬ v.same w = true → IsData store (.set id [v, w]) := by
    intro id v w hstore hv hw hkey hkey' hne
    refine .intro ⟨fun _ h => Option.some.inj h ▸ hstore, ?_, List.pairwise_pair.2 hne⟩ ?_
    · exact List.forall_mem_cons.2 ⟨hkey, List.forall_mem_singleton.2 hkey'⟩
    · have hnothing : IsData store .undefined := .leaf rfl rfl
      exact List.forall_mem_cons.2 ⟨hnothing, List.forall_mem_singleton.2 hnothing⟩
  have hx : IsData store x := .leaf rfl rfl
  have hy : IsData store (.set 201 [.null, .text "k"]) :=
    hpair 201 _ _ rfl (.leaf rfl rfl) (.leaf rfl rfl) ⟨rfl, rfl⟩ ⟨rfl, rfl⟩ (by decide)
  have hy' : IsData store (.set 203 [.text "k", .null]) :=
    hpair 203 _ _ rfl (.leaf rfl rfl) (.leaf rfl rfl) ⟨rfl, rfl⟩ ⟨rfl, rfl⟩ (by decide)
  have ha : IsData store a :=
    .intro ⟨fun _ h => Option.some.inj h ▸ rfl, rfl, _, rfl, by decide⟩
      (List.forall_mem_cons.2 ⟨hx, List.forall_mem_singleton.2 hy⟩)
  have hb : IsData store b :=
    .intro ⟨fun _ h => Option.some.inj h ▸ rfl, rfl, _, rfl, by decide⟩
      (List.forall_mem_cons.2 ⟨hy', List.forall_mem_singleton.2 hx⟩)
  have hset : Rebuilt (.set 201 [.null, .text "k"]) (.set 203 [.text "k", .null]) := by
    have hperm : List.Perm [(Slot.key .null, Value.undefined), (.key (.text "k"), .undefined)]
        (Value.set 203 [.text "k", .null]).parts := .swap _ _ []
    refine .object rfl rfl ?_ ?_ ?_ hperm
    · rfl
    · rintro (_ | _ | n) _ _ ⟨⟩ ⟨⟩ <;> rfl
    · rintro (_ | _ | n) _ _ ⟨⟩ ⟨⟩ <;> exact .primitive rfl
  have hrebuilt : Rebuilt a b := by
    have hperm : List.Perm [(Slot.name "x", x), (.name "y", .set 203 [.text "k", .null])]
        b.parts := .swap _ _ []
    refine .object rfl rfl ?_ ?_ ?_ hperm
    · rfl
    · rintro (_ | _ | n) _ _ ⟨⟩ ⟨⟩ <;> rfl
    · rintro (_ | _ | n) _ _ ⟨⟩ ⟨⟩
      · exact .primitive rfl
      · exact hset
  obtain ⟨verdict, hpairs, -⟩ := equal_iff_identical machine.call hs store
  obtain ⟨hgives, hverdict, -, -, hcopy⟩ := hpairs a b ha hb
  rw [hcopy hrebuilt] at hgives hverdict
  exact ⟨hs, ha, hb, hrebuilt, hgives, hverdict.1 rfl⟩

end Session

end DocExamples.Script
