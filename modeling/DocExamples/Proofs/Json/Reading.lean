import DocExamples.Json.Writer
import DocExamples.Proofs.Document.Lines
import DocExamples.Proofs.Json.Literal

/-!
# Values that are written and read

A value is read from its text part by part, and what is read of one part has nothing to
do with what stands around it: `readValue_write` says so for all values, whatever follows
the text. Only numbers need not be read as what they were, since a style can write a
number so that it looks whole. So the theorem is told what each number of a value is
read as, and the rest of the value stays.

Reading stops where arrays and objects nest too deep, and only there. Fuel never decides:
a text is longer than it nests, and longer than it has items.
-/

namespace DocExamples.Json

/-! ## The shape of a value -/

mutual

/-- How deep arrays and objects nest in a value. -/
def height : Json → Nat
  | arr items => itemsHeight items + 1
  | obj members => membersHeight members + 1
  | _ => 0

/-- How deep the items of an array nest. -/
def itemsHeight : List Json → Nat
  | [] => 0
  | item :: more => max item.height (itemsHeight more)

/-- How deep the members of an object nest. -/
def membersHeight : List (String × Json) → Nat
  | [] => 0
  | (_, value) :: more => max value.height (membersHeight more)

end

mutual

/-- The numbers of a value, in the order in which they are written. -/
def numbers : Json → List Json
  | int n => [int n]
  | float x => [float x]
  | arr items => itemsNumbers items
  | obj members => membersNumbers members
  | _ => []

/-- The numbers of the items of an array. -/
def itemsNumbers : List Json → List Json
  | [] => []
  | item :: more => item.numbers ++ itemsNumbers more

/-- The numbers of the members of an object. -/
def membersNumbers : List (String × Json) → List Json
  | [] => []
  | (_, value) :: more => value.numbers ++ membersNumbers more

end

mutual

/-- A value with others in the place of its numbers. -/
def renumber (f : Json → Json) : Json → Json
  | int n => f (int n)
  | float x => f (float x)
  | arr items => arr (renumberItems f items)
  | obj members => obj (renumberMembers f members)
  | j => j

/-- The items of an array with others in the place of their numbers. -/
def renumberItems (f : Json → Json) : List Json → List Json
  | [] => []
  | item :: more => item.renumber f :: renumberItems f more

/-- The members of an object with others in the place of their numbers. -/
def renumberMembers (f : Json → Json) : List (String × Json) → List (String × Json)
  | [] => []
  | (name, value) :: more => (name, value.renumber f) :: renumberMembers f more

end

mutual

/-- Holds of a value in which no object has two members of one name. -/
def NamesApart : Json → Prop
  | arr items => ItemsApart items
  | obj members => (members.map Prod.fst).Nodup ∧ MembersApart members
  | _ => True

/-- Holds of items in which no object has two members of one name. -/
def ItemsApart : List Json → Prop
  | [] => True
  | item :: more => item.NamesApart ∧ ItemsApart more

/-- Holds of members in which no object has two members of one name. -/
def MembersApart : List (String × Json) → Prop
  | [] => True
  | (_, value) :: more => value.NamesApart ∧ MembersApart more

end

theorem renumberItems_eq_map (f : Json → Json) (items : List Json) :
    renumberItems f items = items.map (renumber f) := by
  induction items with
  | nil => rfl
  | cons item items ih => rw [renumberItems, ih]; rfl

mutual

/-- Numbers that are each put in their own place leave a value as it is. -/
theorem renumber_of_fixed {f : Json → Json} {j : Json} (h : ∀ n ∈ j.numbers, f n = n) :
    j.renumber f = j := by
  cases j with
  | int n => exact h _ (List.mem_singleton_self _)
  | float x => exact h _ (List.mem_singleton_self _)
  | arr items => exact congrArg arr (renumberItems_of_fixed h)
  | obj members => exact congrArg obj (renumberMembers_of_fixed h)
  | _ => rfl

theorem renumberItems_of_fixed {f : Json → Json} {items : List Json}
    (h : ∀ n ∈ itemsNumbers items, f n = n) : renumberItems f items = items := by
  cases items with
  | nil => rfl
  | cons item more =>
      obtain ⟨hitem, hmore⟩ := List.forall_mem_append.1 h
      exact congrArg₂ List.cons (renumber_of_fixed hitem) (renumberItems_of_fixed hmore)

theorem renumberMembers_of_fixed {f : Json → Json} {members : List (String × Json)}
    (h : ∀ n ∈ membersNumbers members, f n = n) : renumberMembers f members = members := by
  cases members with
  | nil => rfl
  | cons member more =>
      obtain ⟨hvalue, hmore⟩ := List.forall_mem_append.1 h
      exact congrArg₂ List.cons (congrArg (member.1, ·) (renumber_of_fixed hvalue))
        (renumberMembers_of_fixed hmore)

end

theorem map_fst_renumberMembers (f : Json → Json) (members : List (String × Json)) :
    (renumberMembers f members).map Prod.fst = members.map Prod.fst := by
  induction members with
  | nil => rfl
  | cons member members ih => exact congrArg (member.1 :: ·) ih

/-! ## Members with different names -/

theorem mergeMembers_insert_of_not_mem {known : List (String × Json)} {member : String × Json}
    (h : member.1 ∉ known.map Prod.fst) : mergeMembers.insert known member = known ++ [member] := by
  rw [mergeMembers.insert, if_neg]
  intro hany
  obtain ⟨old, hold, heq⟩ := List.any_eq_true.1 hany
  exact h (List.mem_map.2 ⟨old, hold, of_decide_eq_true heq⟩)

theorem mergeMembers_of_nodup {members : List (String × Json)}
    (h : (members.map Prod.fst).Nodup) : mergeMembers members = members := by
  have hfold : ∀ known : List (String × Json), ((known ++ members).map Prod.fst).Nodup →
      members.foldl mergeMembers.insert known = known ++ members := by
    induction members with
    | nil => exact fun known _ => (List.append_nil known).symm
    | cons member members ih =>
        intro known hknown
        have hnew : member.1 ∉ known.map Prod.fst := by
          intro hmem
          rw [List.map_append, List.nodup_append] at hknown
          exact hknown.2.2 _ hmem _ List.mem_cons_self rfl
        have hsplit : known ++ member :: members = known ++ [member] ++ members :=
          List.append_cons known member members
        rw [List.foldl_cons, mergeMembers_insert_of_not_mem hnew, hsplit]
        exact ih (List.nodup_cons.1 h).2 _ (hsplit ▸ hknown)
  exact hfold [] h

/-! ## Parts of a text -/

/-- Holds of a style whose texts are JSON: between parts stand a mark and blanks, and no control
stands in a literal as it is. -/
structure Style.IsReadable (style : Style) : Prop where
  items : ∃ gap, style.itemSeparator = ',' :: gap ∧ ∀ c ∈ gap, isSpace c = true
  names : ∃ gap, style.nameSeparator = ':' :: gap ∧ ∀ c ∈ gap, isSpace c = true
  plain : ∀ c, style.plain c = true → 32 ≤ c.toNat

/-- Holds of a text that a number in front of it does not go on with. -/
def EndsNumber (rest : List Char) : Prop :=
  ∀ c, rest.head? = some c → isDigit c = false ∧ c ≠ '.' ∧ c ≠ 'e' ∧ c ≠ 'E'

/-- Holds of a text that starts as numbers do. -/
def StartsNumber (s : List Char) : Prop :=
  ∃ c more, s = c :: more ∧ (c = '-' ∨ isDigit c = true)

/-- Holds of a number and what is read where a style writes it. -/
structure ReadsNumber (style : Style) (n read : Json) : Prop where
  starts : StartsNumber (write style n)
  reads : ∀ rest, EndsNumber rest → readPlain (write style n ++ rest) = .ok (read, rest)

theorem skipSpace_cons {c : Char} (hc : isSpace c = false) (s : List Char) :
    skipSpace (c :: s) = c :: s :=
  List.dropWhile_cons_of_neg (by rw [hc]; exact Bool.false_ne_true)

theorem skipSpace_gap {gap : List Char} (hgap : ∀ c ∈ gap, isSpace c = true) {c : Char}
    (hc : isSpace c = false) (s : List Char) : skipSpace (gap ++ c :: s) = c :: s := by
  rw [skipSpace, List.dropWhile_append_of_pos hgap]
  exact skipSpace_cons hc s

/-- The characters that values start with. -/
def startMarks : List Char := "\"[\x7bntf-0123456789".toList

theorem isSpace_of_mem_startMarks {c : Char} (h : c ∈ startMarks) : isSpace c = false := by
  have hall : startMarks.all (fun c => !isSpace c) = true := by decide
  simpa using List.all_eq_true.1 hall c h

theorem mem_startMarks_of_isDigit {c : Char} (h : isDigit c = true) : c ∈ startMarks := by
  have hall : ∀ n < 58, isDigit (Char.ofNat n) = true → Char.ofNat n ∈ startMarks := by decide
  have hle : c.toNat < 58 := by
    rw [isDigit, Bool.and_eq_true, decide_eq_true_iff, decide_eq_true_iff] at h
    exact Nat.lt_succ_of_le (Char.le_def.1 h.2)
  have hc := hall c.toNat hle
  rw [Char.ofNat_toNat] at hc
  exact hc h

/-- Holds of a text that starts as values do. -/
def StartsValue (s : List Char) : Prop := ∃ c more, s = c :: more ∧ c ∈ startMarks

theorem StartsNumber.startsValue {s : List Char} (h : StartsNumber s) : StartsValue s := by
  obtain ⟨c, more, rfl, rfl | hdigit⟩ := h
  · exact ⟨_, _, rfl, by decide⟩
  · exact ⟨c, more, rfl, mem_startMarks_of_isDigit hdigit⟩

theorem StartsValue.append {s : List Char} (h : StartsValue s) (rest : List Char) :
    StartsValue (s ++ rest) := by
  obtain ⟨c, more, rfl, hc⟩ := h
  exact ⟨c, more ++ rest, rfl, hc⟩

theorem StartsValue.skipSpace {s : List Char} (h : StartsValue s) : skipSpace s = s := by
  obtain ⟨c, more, rfl, hc⟩ := h
  exact skipSpace_cons (isSpace_of_mem_startMarks hc) more

theorem StartsValue.skipSpace_append {gap s : List Char} (hgap : ∀ c ∈ gap, isSpace c = true)
    (h : StartsValue s) : Json.skipSpace (gap ++ s) = s := by
  obtain ⟨c, more, rfl, hc⟩ := h
  exact skipSpace_gap hgap (isSpace_of_mem_startMarks hc) more

theorem startsValue_write {style : Style} {j : Json}
    (hnumbers : ∀ n ∈ j.numbers, StartsNumber (write style n)) : StartsValue (write style j) := by
  cases j with
  | null => exact ⟨_, _, rfl, by decide⟩
  | bool b => cases b <;> exact ⟨_, _, rfl, by decide⟩
  | int n => exact (hnumbers _ (List.mem_singleton_self _)).startsValue
  | float x => exact (hnumbers _ (List.mem_singleton_self _)).startsValue
  | str s => exact ⟨_, _, rfl, by decide⟩
  | arr items => exact ⟨_, _, rfl, by decide⟩
  | obj members => exact ⟨_, _, rfl, by decide⟩

theorem endsNumber_cons {c : Char} (hc : c = ',' ∨ c = ']' ∨ c = '\x7d') (rest : List Char) :
    EndsNumber (c :: rest) := by
  intro x hx
  obtain rfl : c = x := Option.some.inj hx
  rcases hc with rfl | rfl | rfl <;> decide

/-! ## One step of reading -/

theorem readValue_of_startsNumber {s : List Char} (hs : StartsNumber s) (fuel depth : Nat)
    (rest : List Char) : readValue (fuel + 1) depth (s ++ rest) = readPlain (s ++ rest) := by
  obtain ⟨c, more, rfl, hc⟩ := hs
  have hne : c ≠ '"' ∧ c ≠ '[' ∧ c ≠ '\x7b' := by
    rcases hc with rfl | hdigit
    · decide
    · refine ⟨?_, ?_, ?_⟩ <;> rintro rfl <;> exact absurd hdigit (by decide)
  rw [List.cons_append, readValue.eq_9]
  · exact fun _ heq => hne.1 (List.cons.inj heq).1
  · exact fun _ heq => hne.2.1 (List.cons.inj heq).1
  · exact fun _ heq => hne.2.2 (List.cons.inj heq).1

theorem readValue_array {s : List Char} (hs : StartsValue s) (fuel depth : Nat) :
    readValue (fuel + 1) (depth + 1) ('[' :: s) = readItems fuel depth [] s := by
  have hskip := hs.skipSpace
  obtain ⟨c, more, rfl, hc⟩ := hs
  rw [readValue.eq_5, hskip]
  intro after heq
  rw [hskip, List.cons.injEq] at heq
  exact absurd (heq.1 ▸ hc) (by decide)

theorem readValue_object {s : List Char} (hs : StartsValue s) (fuel depth : Nat) :
    readValue (fuel + 1) (depth + 1) ('\x7b' :: s) = readMembers fuel depth [] s := by
  have hskip := hs.skipSpace
  obtain ⟨c, more, rfl, hc⟩ := hs
  rw [readValue.eq_8, hskip]
  intro after heq
  rw [hskip, List.cons.injEq] at heq
  exact absurd (heq.1 ▸ hc) (by decide)

theorem readItems_of_error {fuel depth : Nat} {s : List Char} {e : Stuck}
    (h : readValue fuel depth s = .error e) (acc : List Json) :
    readItems (fuel + 1) depth acc s = .error e := by
  rw [readItems, h]

theorem readItems_of_last {fuel depth : Nat} {s after : List Char} {item : Json}
    (h : readValue fuel depth s = .ok (item, ']' :: after)) (acc : List Json) :
    readItems (fuel + 1) depth acc s = .ok (.arr (item :: acc).reverse, after) := by
  rw [readItems, h]
  rfl

theorem readItems_of_more {fuel depth : Nat} {s more : List Char} {item : Json}
    (h : readValue fuel depth s = .ok (item, ',' :: more)) (acc : List Json) :
    readItems (fuel + 1) depth acc s =
      readItems fuel depth (item :: acc) (skipSpace more) := by
  rw [readItems, h]
  rfl

section

variable {plain : Char → Bool} (hplain : ∀ c, plain c = true → 32 ≤ c.toNat) {gap s : List Char}
  (hgap : ∀ c ∈ gap, isSpace c = true) (hs : StartsValue s) {fuel depth : Nat}

include hplain hgap hs

theorem readMembers_of_error {e : Stuck} (h : readValue fuel depth s = .error e)
    (acc : List (String × Json)) (name : List Char) :
    readMembers (fuel + 1) depth acc ('"' :: (escape plain name ++ '"' :: ':' :: (gap ++ s))) =
      .error e := by
  have hskip : skipSpace (':' :: (gap ++ s)) = ':' :: (gap ++ s) := skipSpace_cons rfl _
  rw [readMembers, readLiteral_escape hplain]
  simp only [hskip, hs.skipSpace_append hgap, h]

theorem readMembers_of_last {value : Json} {after : List Char}
    (h : readValue fuel depth s = .ok (value, '\x7d' :: after)) (acc : List (String × Json))
    (name : List Char) :
    readMembers (fuel + 1) depth acc ('"' :: (escape plain name ++ '"' :: ':' :: (gap ++ s))) =
      .ok (.obj (mergeMembers ((String.ofList name, value) :: acc).reverse), after) := by
  have hskip : skipSpace (':' :: (gap ++ s)) = ':' :: (gap ++ s) := skipSpace_cons rfl _
  have hend : skipSpace ('\x7d' :: after) = '\x7d' :: after := skipSpace_cons rfl _
  rw [readMembers, readLiteral_escape hplain]
  simp only [hskip, hs.skipSpace_append hgap, h, hend]

theorem readMembers_of_more {value : Json} {more : List Char}
    (h : readValue fuel depth s = .ok (value, ',' :: more)) (acc : List (String × Json))
    (name : List Char) :
    readMembers (fuel + 1) depth acc ('"' :: (escape plain name ++ '"' :: ':' :: (gap ++ s))) =
      readMembers fuel depth ((String.ofList name, value) :: acc) (skipSpace more) := by
  have hskip : skipSpace (':' :: (gap ++ s)) = ':' :: (gap ++ s) := skipSpace_cons rfl _
  have hmark : skipSpace (',' :: more) = ',' :: more := skipSpace_cons rfl _
  rw [readMembers, readLiteral_escape hplain]
  simp only [hskip, hs.skipSpace_append hgap, h, hmark]

end

/-! ## Reading what was written -/

/-- What comes of reading a value that nests so deep where so many levels are allowed: the value
or the failure to go deeper. -/
structure ReadWithin (depth nesting : Nat) (result : Except Stuck (Json × List Char))
    (read : Json × List Char) : Prop where
  ok : nesting ≤ depth → result = .ok read
  tooDeep : depth < nesting → ∃ nest left, result = .error (.tooDeep nest, left)

theorem ReadWithin.of_ok {depth : Nat} {result : Except Stuck (Json × List Char)}
    {read : Json × List Char} (h : result = .ok read) : ReadWithin depth 0 result read :=
  ⟨fun _ => h, fun hdeep => absurd hdeep (Nat.not_lt_zero _)⟩

/-- Reading goes on after a part exactly if the part does not nest too deep. -/
theorem ReadWithin.andThen {depth a b : Nat} {first result : Except Stuck (Json × List Char)}
    {part read : Json × List Char} (hfirst : ReadWithin depth a first part)
    (hnext : first = .ok part → ReadWithin depth b result read)
    (hstop : ∀ e, first = .error e → result = .error e) :
    ReadWithin depth (max a b) result read := by
  refine ⟨fun hle => (hnext (hfirst.ok (by omega))).ok (by omega), fun hlt => ?_⟩
  by_cases ha : depth < a
  · obtain ⟨nest, left, heq⟩ := hfirst.tooDeep ha
    exact ⟨nest, left, hstop _ heq⟩
  · exact (hnext (hfirst.ok (by omega))).tooDeep (by omega)

theorem ReadWithin.nested {depth nesting : Nat} {result inside : Except Stuck (Json × List Char)}
    {read : Json × List Char} (h : ReadWithin depth nesting inside read) (heq : result = inside) :
    ReadWithin (depth + 1) (nesting + 1) result read :=
  ⟨fun hle => heq.trans (h.ok (Nat.le_of_succ_le_succ hle)),
    fun hlt => heq ▸ h.tooDeep (Nat.lt_of_succ_lt_succ hlt)⟩

theorem writeItems_ne_nil (style : Style) (item : Json) (items : List Json) :
    writeItems style (item :: items) ≠ [] := List.cons_ne_nil _ _

theorem writeMembers_ne_nil (style : Style) (member : String × Json)
    (members : List (String × Json)) : writeMembers style (member :: members) ≠ [] :=
  List.cons_ne_nil _ _

theorem startsValue_joinWith {first : List Char} (h : StartsValue first)
    (separator : List Char) (more : List (List Char)) :
    StartsValue (Text.joinWith separator (first :: more)) := by
  cases more with
  | nil => exact h
  | cons next more =>
      rw [Text.joinWith_cons_of_ne_nil _ _ (List.cons_ne_nil _ _), List.append_assoc]
      exact h.append _

section

variable {style : Style} (hstyle : style.IsReadable) {back : Json → Json}

include hstyle

mutual

/-- What is written is read as the same value, but for what its numbers are read as. -/
theorem readValue_write {j : Json} (hnumbers : ∀ n ∈ j.numbers, ReadsNumber style n (back n))
    (hapart : j.NamesApart) {fuel : Nat} (hfuel : (write style j).length ≤ fuel) (depth : Nat)
    {rest : List Char} (hrest : EndsNumber rest) :
    ReadWithin depth j.height (readValue fuel depth (write style j ++ rest))
      (j.renumber back, rest) := by
  have hstarts := startsValue_write fun n hn => (hnumbers n hn).starts
  -- no value has an empty text, so there is fuel for this call
  obtain ⟨fuel, rfl⟩ : ∃ n, fuel = n + 1 := by
    obtain ⟨c, more, htext, -⟩ := hstarts
    rw [htext] at hfuel
    exact ⟨fuel - 1, by rw [List.length_cons] at hfuel; omega⟩
  have hnumber : ∀ n, j.numbers = [n] → ReadWithin depth 0
      (readValue (fuel + 1) depth (write style n ++ rest)) (back n, rest) := by
    intro n hn
    have hread := hnumbers n (hn ▸ List.mem_singleton_self n)
    refine .of_ok ?_
    rw [readValue_of_startsNumber hread.starts, hread.reads rest hrest]
  cases j with
  | null => exact .of_ok rfl
  | bool b => cases b <;> exact .of_ok rfl
  | int n => exact hnumber (.int n) rfl
  | float x => exact hnumber (.float x) rfl
  | str s =>
      refine .of_ok ?_
      rw [write, quote, List.cons_append, List.append_assoc, readValue,
        List.singleton_append, readLiteral_escape hstyle.plain]
      exact congrArg (fun t => Except.ok (Json.str t, rest)) String.ofList_toList
  | arr items =>
      cases depth with
      | zero => exact ⟨fun h => absurd h (Nat.not_succ_le_zero _), fun _ => ⟨_, _, rfl⟩⟩
      | succ depth =>
          cases items with
          | nil => exact .nested (.of_ok rfl) rfl
          | cons item items =>
              have htext : write style (arr (item :: items)) ++ rest =
                  '[' :: (Text.joinWith style.itemSeparator (writeItems style (item :: items)) ++
                    ']' :: rest) := by
                rw [write, List.cons_append, List.append_assoc, List.singleton_append]
              have hin : StartsValue (Text.joinWith style.itemSeparator
                  (writeItems style (item :: items))) :=
                startsValue_joinWith
                  (startsValue_write fun n hn => (hnumbers n (List.mem_append_left _ hn)).starts)
                  _ _
              refine .nested ?_ (htext ▸ readValue_array (hin.append _) fuel depth)
              refine readItems_write (List.cons_ne_nil item items) hnumbers hapart ?_ depth [] rest
              rw [write, List.length_cons, List.length_append] at hfuel
              exact Nat.le_of_succ_le_succ hfuel
  | obj members =>
      cases depth with
      | zero => exact ⟨fun h => absurd h (Nat.not_succ_le_zero _), fun _ => ⟨_, _, rfl⟩⟩
      | succ depth =>
          cases members with
          | nil => exact .nested (.of_ok rfl) rfl
          | cons member members =>
              have htext : write style (obj (member :: members)) ++ rest =
                  '\x7b' :: (Text.joinWith style.itemSeparator
                    (writeMembers style (member :: members)) ++ '\x7d' :: rest) := by
                rw [write, List.cons_append, List.append_assoc, List.singleton_append]
              have hin : StartsValue (Text.joinWith style.itemSeparator
                  (writeMembers style (member :: members))) :=
                startsValue_joinWith ⟨_, _, rfl, by decide⟩ _ _
              refine .nested ?_ (htext ▸ readValue_object (hin.append _) fuel depth)
              rw [write, List.length_cons, List.length_append] at hfuel
              have hread := readMembers_write (List.cons_ne_nil member members) hnumbers hapart.2
                (Nat.le_of_succ_le_succ hfuel) depth [] rest
              rwa [List.reverse_nil, List.nil_append, mergeMembers_of_nodup] at hread
              rw [map_fst_renumberMembers]
              exact hapart.1

/-- The items of an array are read one after the other, behind those read before. -/
theorem readItems_write {items : List Json} (hne : items ≠ [])
    (hnumbers : ∀ n ∈ itemsNumbers items, ReadsNumber style n (back n))
    (hapart : ItemsApart items) {fuel : Nat}
    (hfuel : (Text.joinWith style.itemSeparator (writeItems style items)).length + 1 ≤ fuel)
    (depth : Nat) (acc : List Json) (rest : List Char) :
    ReadWithin depth (itemsHeight items)
      (readItems fuel depth acc
        (Text.joinWith style.itemSeparator (writeItems style items) ++ ']' :: rest))
      (.arr (acc.reverse ++ renumberItems back items), rest) := by
  obtain ⟨gap, hseparator, hgap⟩ := hstyle.items
  have hmark : ∀ s, style.itemSeparator ++ s = ',' :: (gap ++ s) := fun s => by
    rw [hseparator, List.cons_append]
  obtain ⟨fuel, rfl⟩ : ∃ n, fuel = n + 1 := ⟨fuel - 1, by omega⟩
  cases items with
  | nil => exact absurd rfl hne
  | cons item items =>
      have hitem := fun n hn => hnumbers n (List.mem_append_left _ hn)
      have hmore := fun n hn => hnumbers n (List.mem_append_right item.numbers hn)
      cases items with
      | nil =>
          refine .andThen (readValue_write hitem hapart.1 (Nat.le_of_succ_le_succ hfuel) depth
            (endsNumber_cons (.inr (.inl rfl)) rest)) (fun hok => .of_ok ?_)
            fun e he => readItems_of_error he acc
          refine (readItems_of_last hok acc).trans ?_
          rw [List.reverse_cons]
          rfl
      | cons next items =>
          have hstarts : StartsValue (Text.joinWith style.itemSeparator
              (writeItems style (next :: items))) :=
            startsValue_joinWith
              (startsValue_write fun n hn => (hmore n (List.mem_append_left _ hn)).starts) _ _
          rw [writeItems, Text.joinWith_cons_of_ne_nil _ _ (writeItems_ne_nil style next items),
            List.length_append, List.length_append, hseparator, List.length_cons,
            ← hseparator] at hfuel
          rw [writeItems, Text.joinWith_cons_of_ne_nil _ _ (writeItems_ne_nil style next items),
            List.append_assoc, List.append_assoc, hmark]
          refine .andThen (readValue_write hitem hapart.1 (by omega) depth
            (endsNumber_cons (.inl rfl) _)) (fun hok => ?_) fun e he => readItems_of_error he acc
          have hlong : (Text.joinWith style.itemSeparator
              (writeItems style (next :: items))).length + 1 ≤ fuel := by omega
          have hrest := readItems_write (List.cons_ne_nil next items) hmore hapart.2 hlong depth
            (item.renumber back :: acc) rest
          rw [List.reverse_cons, List.append_assoc] at hrest
          rw [readItems_of_more hok, (hstarts.append _).skipSpace_append hgap]
          exact hrest

/-- The members of an object are read one after the other, behind those read before. -/
theorem readMembers_write {members : List (String × Json)} (hne : members ≠ [])
    (hnumbers : ∀ n ∈ membersNumbers members, ReadsNumber style n (back n))
    (hapart : MembersApart members) {fuel : Nat}
    (hfuel : (Text.joinWith style.itemSeparator (writeMembers style members)).length + 1 ≤ fuel)
    (depth : Nat) (acc : List (String × Json)) (rest : List Char) :
    ReadWithin depth (membersHeight members)
      (readMembers fuel depth acc
        (Text.joinWith style.itemSeparator (writeMembers style members) ++ '\x7d' :: rest))
      (.obj (mergeMembers (acc.reverse ++ renumberMembers back members)), rest) := by
  obtain ⟨gap, hseparator, hgap⟩ := hstyle.items
  have hmark : ∀ s, style.itemSeparator ++ s = ',' :: (gap ++ s) := fun s => by
    rw [hseparator, List.cons_append]
  obtain ⟨inner, hnames, hinner⟩ := hstyle.names
  obtain ⟨fuel, rfl⟩ : ∃ n, fuel = n + 1 := ⟨fuel - 1, by omega⟩
  cases members with
  | nil => exact absurd rfl hne
  | cons member members =>
      obtain ⟨name, value⟩ := member
      have hvalue := fun n hn => hnumbers n (List.mem_append_left _ hn)
      have hmore := fun n hn => hnumbers n (List.mem_append_right value.numbers hn)
      have hstarts := startsValue_write fun n hn => (hvalue n hn).starts
      have hmember : ∀ s, quote style.plain name.toList ++ style.nameSeparator ++
          write style value ++ s = '"' :: (escape style.plain name.toList ++
            '"' :: ':' :: (inner ++ (write style value ++ s))) := by
        intro s
        simp only [quote, hnames, List.cons_append, List.append_assoc, List.nil_append]
      have hname : String.ofList name.toList = name := String.ofList_toList
      cases members with
      | nil =>
          rw [writeMembers, writeMembers, Text.joinWith] at hfuel ⊢
          rw [hmember]
          refine .andThen (readValue_write hvalue hapart.1 ?_ depth
            (endsNumber_cons (.inr (.inr rfl)) rest)) (fun hok => .of_ok ?_)
            fun e he => readMembers_of_error hstyle.plain hinner (hstarts.append _) he acc _
          · rw [List.length_append] at hfuel
            omega
          · rw [readMembers_of_last hstyle.plain hinner (hstarts.append _) hok, hname,
              List.reverse_cons]
            rfl
      | cons next members =>
          have hnext : StartsValue (Text.joinWith style.itemSeparator
              (writeMembers style (next :: members))) :=
            startsValue_joinWith ⟨_, _, rfl, by decide⟩ _ _
          rw [writeMembers, Text.joinWith_cons_of_ne_nil _ _
              (writeMembers_ne_nil style next members), List.length_append, List.length_append,
            List.length_append, hseparator, List.length_cons, ← hseparator] at hfuel
          rw [writeMembers, Text.joinWith_cons_of_ne_nil _ _
              (writeMembers_ne_nil style next members), List.append_assoc, List.append_assoc,
            hmark, hmember]
          refine .andThen (readValue_write hvalue hapart.1 (by omega) depth
            (endsNumber_cons (.inl rfl) _)) (fun hok => ?_)
            fun e he => readMembers_of_error hstyle.plain hinner (hstarts.append _) he acc _
          have hlong : (Text.joinWith style.itemSeparator
              (writeMembers style (next :: members))).length + 1 ≤ fuel := by omega
          have hrest := readMembers_write (List.cons_ne_nil next members) hmore hapart.2 hlong
            depth ((name, value.renumber back) :: acc) rest
          rw [List.reverse_cons, List.append_assoc] at hrest
          rw [readMembers_of_more hstyle.plain hinner (hstarts.append _) hok, hname,
            (hnext.append _).skipSpace_append hgap]
          exact hrest

end

/-- A text that was written is read to its end, unless arrays and objects nest too deep. -/
theorem read_write {j : Json} (hnumbers : ∀ n ∈ j.numbers, ReadsNumber style n (back n))
    (hapart : j.NamesApart) :
    (j.height ≤ deepest → read (write style j) = .ok (j.renumber back)) ∧
      (deepest < j.height → ∃ nest, read (write style j) = .error (.tooDeep nest)) := by
  have hlong : (write style j).length ≤ 2 * (write style j).length + 2 := by omega
  have hend : EndsNumber [] := fun _ h => absurd h (Option.some_ne_none _).symm
  have hread := readValue_write hstyle hnumbers hapart hlong deepest hend
  rw [List.append_nil] at hread
  have hstarts := startsValue_write fun n hn => (hnumbers n hn).starts
  obtain ⟨c, more, htext, hc⟩ := id hstarts
  have hmark : c ≠ Char.ofNat 0xFEFF := by
    rintro rfl
    exact absurd hc (by decide)
  refine ⟨fun hle => read_of_readValue (congrArg List.head? htext) hmark
    (isSpace_of_mem_startMarks hc) (hread.ok hle), fun hlt => ?_⟩
  obtain ⟨nest, left, herror⟩ := hread.tooDeep hlt
  have hhead : (write style j).head? ≠ some (Char.ofNat 0xFEFF) :=
    fun heq => hmark (Option.some.inj ((congrArg List.head? htext).symm.trans heq))
  refine ⟨nest, ?_⟩
  rw [read, if_neg hhead, hstarts.skipSpace, herror]
  rfl

end

/-! ## The styles -/

theorem isReadable_spaced : Style.spaced.IsReadable :=
  ⟨⟨[' '], rfl, List.forall_mem_singleton.2 rfl⟩, ⟨[' '], rfl, List.forall_mem_singleton.2 rfl⟩,
    fun _ => le_of_plainAscii⟩

theorem isReadable_script : Style.script.IsReadable :=
  ⟨⟨[], rfl, List.forall_mem_nil _⟩, ⟨[], rfl, List.forall_mem_nil _⟩, fun _ => le_of_plainAll⟩

/-!
## Objects with a verdict and a text

The reply to a request for a module is an object with two members: whether there is a
module, and a text, which is its source or says why there is none. Whatever the text holds,
it is a literal in ASCII, and nothing in it ends the literal early.
-/

/-- The text of an object with a verdict and a text. -/
theorem write_answer (ok : Bool) (name text : String) :
    write Style.spaced (.obj [("ok", .bool ok), (name, .str text)]) =
      '\x7b' :: (quoteAscii "ok".toList ++ ':' :: ' ' :: (write Style.spaced (.bool ok) ++
        ',' :: ' ' :: (quoteAscii name.toList ++ ':' :: ' ' :: (quoteAscii text.toList ++
          ['\x7d'])))) := by
  have hjoined : write Style.spaced (.obj [("ok", .bool ok), (name, .str text)]) =
      '\x7b' :: ((quoteAscii "ok".toList ++ ": ".toList ++ write Style.spaced (.bool ok) ++
        (", ".toList ++ (quoteAscii name.toList ++ ": ".toList ++ quoteAscii text.toList))) ++
          ['\x7d']) := by
    rw [write, writeMembers, writeMembers, writeMembers, Text.joinWith, Text.joinWith,
      List.append_assoc (_ ++ write _ _), write]
    · rfl
    · exact List.cons_ne_nil _ _
  rw [hjoined]
  simp only [List.append_assoc]
  rfl

theorem read_answer (ok : Bool) {name : String} (hname : name ≠ "ok") (text : String) :
    read (write Style.spaced (.obj [("ok", .bool ok), (name, .str text)])) =
      .ok (.obj [("ok", .bool ok), (name, .str text)]) := by
  have hapart : NamesApart (.obj [("ok", .bool ok), (name, .str text)]) :=
    ⟨by simpa using hname.symm, trivial, trivial, trivial⟩
  have hnumbers : ∀ n ∈ numbers (.obj [("ok", .bool ok), (name, .str text)]),
      ReadsNumber Style.spaced n (id n) := fun _ h => absurd h List.not_mem_nil
  have hheight : height (.obj [("ok", .bool ok), (name, .str text)]) = 1 := rfl
  rw [(read_write isReadable_spaced hnumbers hapart).1 (hheight ▸ by decide)]
  rfl

end DocExamples.Json
