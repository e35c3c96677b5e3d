import DocExamples.Discovery.Glob
import Mathlib.Data.List.Forall2

/-!
# What a glob stands for

A glob stands for a whole text, part by part: a star takes any piece of the text, every other part
one character that it holds. `matchParts_cons` says this of the first part and `matchParts_append`
of a first stretch of parts. All else is an induction on the parts that asks one of the two, and
the search for the rest behind a star is not looked at again.
-/

namespace DocExamples.Glob

theorem anyRest_iff {test : List Char → Bool} {s : List Char} :
    anyRest test s = true ↔ ∃ front rest, s = front ++ rest ∧ test rest = true := by
  induction s with
  | nil =>
      rw [anyRest]
      constructor
      · exact fun h => ⟨[], [], rfl, h⟩
      · rintro ⟨front, rest, hs, h⟩
        obtain ⟨-, rfl⟩ := List.append_eq_nil_iff.1 hs.symm
        exact h
  | cons c s ih =>
      rw [anyRest, Bool.or_eq_true, ih]
      constructor
      · rintro (h | ⟨front, rest, rfl, h⟩)
        · exact ⟨[], _, rfl, h⟩
        · exact ⟨c :: front, rest, rfl, h⟩
      · rintro ⟨front, rest, hs, h⟩
        cases front with
        | nil => exact .inl (by rw [hs]; exact h)
        | cons d front =>
            obtain ⟨rfl, rfl⟩ := List.cons.inj hs
            exact .inr ⟨front, rest, rfl, h⟩

/-- Holds of a piece of a text that a part may stand for. -/
def Part.Takes (part : Part) (piece : List Char) : Prop :=
  part = .star ∨ ∃ c, piece = [c] ∧ part.holds c = true

section Parts

variable {part : Part} {parts more : List Part} {s t : List Char}

theorem matchParts_cons : matchParts (part :: more) s = true ↔
    ∃ front rest, s = front ++ rest ∧ part.Takes front ∧ matchParts more rest = true := by
  have hstar : matchParts (.star :: more) s = anyRest (matchParts more) s := by rw [matchParts]
  have hone : part ≠ .star → (matchParts (part :: more) s = true ↔
      ∃ c rest, s = c :: rest ∧ part.holds c = true ∧ matchParts more rest = true) := by
    intro hpart
    cases s with
    | nil =>
        rw [matchParts.eq_4 _ _ hpart]
        exact iff_of_false Bool.false_ne_true fun ⟨_, _, h, _⟩ => nomatch h
    | cons c rest =>
        rw [matchParts.eq_3 _ _ _ _ hpart, Bool.and_eq_true]
        constructor
        · exact fun h => ⟨c, rest, rfl, h⟩
        · rintro ⟨c', rest', hs, h⟩
          cases hs
          exact h
  by_cases hpart : part = .star
  · subst hpart
    rw [hstar, anyRest_iff]
    exact ⟨fun ⟨front, rest, hs, h⟩ => ⟨front, rest, hs, .inl rfl, h⟩,
      fun ⟨front, rest, hs, _, h⟩ => ⟨front, rest, hs, h⟩⟩
  · rw [hone hpart]
    constructor
    · rintro ⟨c, rest, rfl, hc, h⟩
      exact ⟨[c], rest, rfl, .inr ⟨c, rfl, hc⟩, h⟩
    · rintro ⟨front, rest, rfl, htakes, h⟩
      obtain ⟨c, rfl, hc⟩ := htakes.resolve_left hpart
      exact ⟨c, rest, rfl, hc, h⟩

theorem matchParts_char_cons {c : Char} : matchParts (.char c :: more) s = true ↔
    ∃ rest, s = c :: rest ∧ matchParts more rest = true := by
  rw [matchParts_cons]
  constructor
  · rintro ⟨front, rest, rfl, htakes, h⟩
    obtain ⟨d, rfl, hd⟩ := htakes.resolve_left Part.noConfusion
    rw [Part.holds, beq_iff_eq] at hd
    exact ⟨rest, by rw [hd]; rfl, h⟩
  · rintro ⟨rest, rfl, h⟩
    exact ⟨[c], rest, rfl, .inr ⟨c, rfl, beq_self_eq_true c⟩, h⟩

theorem matchParts_append : matchParts (parts ++ more) s = true ↔
    ∃ front rest, s = front ++ rest ∧ matchParts parts front = true ∧
      matchParts more rest = true := by
  induction parts generalizing s with
  | nil =>
      constructor
      · exact fun h => ⟨[], s, rfl, rfl, h⟩
      · rintro ⟨front, rest, rfl, hfront, h⟩
        obtain rfl := List.isEmpty_iff.1 hfront
        exact h
  | cons part parts ih =>
      rw [List.cons_append, matchParts_cons]
      constructor
      · rintro ⟨piece, tail, rfl, htakes, htail⟩
        obtain ⟨front, rest, rfl, hfront, h⟩ := ih.1 htail
        exact ⟨piece ++ front, rest, by rw [List.append_assoc],
          matchParts_cons.2 ⟨piece, front, rfl, htakes, hfront⟩, h⟩
      · rintro ⟨front, rest, rfl, hfront, h⟩
        obtain ⟨piece, tail, rfl, htakes, htail⟩ := matchParts_cons.1 hfront
        exact ⟨piece, tail ++ rest, by rw [List.append_assoc], htakes,
          ih.2 ⟨tail, rest, rfl, htail, h⟩⟩

/-- A character of the glob that stands for itself is a character of the text. -/
theorem mem_of_matchParts {c : Char} (hc : .char c ∈ parts) (h : matchParts parts s = true) :
    c ∈ s := by
  obtain ⟨before, after, rfl⟩ := List.append_of_mem hc
  obtain ⟨front, rest, rfl, -, hrest⟩ := matchParts_append.1 h
  obtain ⟨tail, rfl, -⟩ := matchParts_char_cons.1 hrest
  exact List.mem_append_right _ List.mem_cons_self

/-- A change of the characters one by one that every part goes along with leaves the text one that
the glob stands for. -/
theorem matchParts_of_forall₂ {R : Char → Char → Prop}
    (hparts : ∀ part ∈ parts, ∀ c d, R d c → part.holds c = true → part.holds d = true)
    (hchars : List.Forall₂ R t s) (h : matchParts parts s = true) :
    matchParts parts t = true := by
  induction parts generalizing s t with
  | nil =>
      obtain rfl := List.isEmpty_iff.1 h
      cases hchars
      rfl
  | cons part more ih =>
      obtain ⟨hpart, hmore⟩ := List.forall_mem_cons.1 hparts
      obtain ⟨front, rest, rfl, htakes, hrest⟩ := matchParts_cons.1 h
      have hfront := List.forall₂_take_append t front rest hchars
      have hback := List.forall₂_drop_append t front rest hchars
      refine matchParts_cons.2 ⟨t.take front.length, t.drop front.length,
        (List.take_append_drop _ t).symm, ?_, ih hmore hback hrest⟩
      rcases htakes with hstar | ⟨c, rfl, hc⟩
      · exact .inl hstar
      · generalize t.take [c].length = piece at hfront
        cases hfront with
        | cons hd hnil =>
            cases hnil
            exact .inr ⟨_, rfl, hpart c _ hd hc⟩

end Parts

/-! ## Globs without brackets -/

/-- The part that a character of a glob is if it opens no brackets. -/
def single (c : Char) : Part := if c = '*' then .star else if c = '?' then .any else .char c

theorem parts_cons {c : Char} (hc : c ≠ '[') (rest : List Char) :
    parts (c :: rest) = single c :: parts rest := by
  rw [parts, List.length_cons, partsFrom, single]
  split
  · rfl
  · split <;> rfl

theorem parts_eq_map {glob : List Char} (h : '[' ∉ glob) : parts glob = glob.map single := by
  induction glob with
  | nil => rfl
  | cons c rest ih =>
      obtain ⟨hc, hrest⟩ := not_or.1 (mt List.mem_cons.2 h)
      rw [parts_cons (Ne.symm hc), ih hrest, List.map_cons]

end DocExamples.Glob
