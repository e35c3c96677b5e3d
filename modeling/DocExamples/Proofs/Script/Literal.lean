import DocExamples.Proofs.Json.Literal
import DocExamples.Script.JsonReader
import Mathlib.Tactic.SplitIfs

/-!
# Literals as scripts read them

A text that is written as a literal of ASCII characters is read back as the text it
was, by the reader of script sources and by the reader of JSON that scripts have.
Both take the literal one character of the text at a time: `textWithin_escapeChar` is
that step, and the rest is an induction on the text.
-/

namespace DocExamples.Script.Token

open Json

/-- An escape of one letter, as far as literals use them. -/
theorem escape?_unitDigits {n : Nat} (hn : n < 0x10000) (rest : List Char) :
    escape? ('u' :: (unitDigits n ++ rest)) =
      some (some (unitChar n rest).1, (unitChar n rest).2) := by
  have hbrace : ∀ more, unitDigits n ++ rest ≠ '\x7b' :: more := by
    intro more h
    exact hexChar_ne _ rfl (List.cons.inj h).1
  rw [escape?, readUnit_unitDigits hn]
  · rfl
  · exact hbrace

theorem textWithin_backslash {fuel : Nat} {acc s rest : List Char} {c : Char}
    (h : escape? s = some (some c, rest)) :
    textWithin '"' (fuel + 1) acc ('\\' :: s) = textWithin '"' fuel (c :: acc) rest := by
  rw [textWithin.eq_def]
  dsimp only
  rw [if_neg (by decide), if_pos rfl]
  cases s with
  | nil => cases h
  | cons d more => rw [h]; rfl

theorem textWithin_cons {fuel : Nat} {acc rest : List Char} {c : Char} (hquote : c ≠ '"')
    (hslash : c ≠ '\\') (hline : ¬ (c = '\n' ∨ c = '\r')) :
    textWithin '"' (fuel + 1) acc (c :: rest) = textWithin '"' fuel (c :: acc) rest := by
  rw [textWithin.eq_def]
  dsimp only
  rw [if_neg hquote, if_neg hslash, if_neg hline]

/-- One character of a text is one step of the reader of its literal. -/
theorem textWithin_escapeChar (c : Char) {rest : List Char} (hrest : rest ≠ [])
    (fuel : Nat) (acc : List Char) :
    textWithin '"' (fuel + 1) acc (escapeChar plainAscii c ++ rest) =
      textWithin '"' fuel (c :: acc) rest := by
  rw [escapeChar]
  split_ifs with h1 h2 h3 h4 h5 h6 h7 h8
  · subst h1; exact textWithin_backslash rfl
  · subst h2; exact textWithin_backslash rfl
  · refine textWithin_cons h1 h2 ?_
    rintro (rfl | rfl) <;> exact absurd h3 (by decide)
  · subst h4; exact textWithin_backslash rfl
  · subst h5; exact textWithin_backslash rfl
  · subst h6; exact textWithin_backslash rfl
  · subst h7; exact textWithin_backslash rfl
  · subst h8; exact textWithin_backslash rfl
  · rw [numericEscape]
    split
    · next hc =>
        refine textWithin_backslash ((escape?_unitDigits hc rest).trans ?_)
        rw [unitChar_of_lt hc]
    · next hc =>
        have hmax := toNat_lt c
        rw [List.append_assoc]
        refine textWithin_backslash ((escape?_unitDigits (by omega) _).trans ?_)
        rw [unitChar_pair (Nat.le_of_not_lt hc) hrest]

/-- A literal is read back as its text. -/
theorem textWithin_escape {s rest : List Char} {fuel : Nat} (hfuel : s.length < fuel)
    (acc : List Char) :
    textWithin '"' fuel acc (escape plainAscii s ++ '"' :: rest) =
      .ok (String.ofList (acc.reverse ++ s), rest) := by
  induction s generalizing fuel acc with
  | nil =>
      obtain ⟨fuel, rfl⟩ := Nat.exists_eq_add_of_lt hfuel
      rw [List.append_nil]
      rfl
  | cons c s ih =>
      obtain ⟨fuel, rfl⟩ : ∃ n, fuel = n + 1 := ⟨fuel - 1, by omega⟩
      have hnext : escape plainAscii s ++ '"' :: rest ≠ [] :=
        List.append_ne_nil_of_right_ne_nil _ (List.cons_ne_nil _ _)
      rw [Json.escape, List.flatMap_cons, List.append_assoc, ← Json.escape,
        textWithin_escapeChar c hnext, ih (by rw [List.length_cons] at hfuel; omega),
        List.reverse_cons, List.append_assoc]
      rfl

/-! ## How far a literal goes -/

theorem extent_append_of_plain {s : List Char} (h : ∀ c ∈ s, c ≠ '"' ∧ c ≠ '\\')
    (rest : List Char) : extent '"' (s ++ rest) = s.length + extent '"' rest := by
  induction s with
  | nil => rw [List.nil_append, List.length_nil, Nat.zero_add]
  | cons c s ih =>
      obtain ⟨hquote, hslash⟩ := h c (.head _)
      rw [List.cons_append, extent, if_neg hquote, ih fun d hd => h d (.tail _ hd),
        List.length_cons]
      · omega
      · exact fun _ _ h => absurd h hslash

theorem extent_unitEscape (n : Nat) (rest : List Char) :
    extent '"' (unitEscape n ++ rest) = (unitEscape n).length + extent '"' rest := by
  have hplain : ∀ c ∈ unitDigits n, c ≠ '"' ∧ c ≠ '\\' := by
    intro c hc
    obtain ⟨k, rfl⟩ := exists_of_mem_unitDigits hc
    exact ⟨hexChar_ne k rfl, hexChar_ne k rfl⟩
  rw [unitEscape_eq, List.cons_append, List.cons_append, extent,
    extent_append_of_plain hplain]
  exact Nat.add_right_comm _ _ _

/-- The escape of a character ends before the closing quote is looked for again. -/
theorem extent_escapeChar (c : Char) (rest : List Char) :
    extent '"' (escapeChar plainAscii c ++ rest) =
      (escapeChar plainAscii c).length + extent '"' rest := by
  have hpair : ∀ d : Char, extent '"' (['\\', d] ++ rest) = 2 + extent '"' rest :=
    fun d => Nat.add_comm _ _
  rw [escapeChar]
  split_ifs with h1 h2 h3
  · exact hpair _
  · exact hpair _
  · refine extent_append_of_plain (fun d hd => ?_) rest
    rw [List.mem_singleton.1 hd]
    exact ⟨h1, h2⟩
  · exact hpair _
  · exact hpair _
  · exact hpair _
  · exact hpair _
  · exact hpair _
  · rw [numericEscape]
    split
    · exact extent_unitEscape _ rest
    · rw [List.append_assoc, extent_unitEscape, extent_unitEscape, List.length_append,
        Nat.add_assoc]

theorem extent_escape (s rest : List Char) :
    extent '"' (escape plainAscii s ++ '"' :: rest) = (escape plainAscii s).length + 1 := by
  induction s with
  | nil => rfl
  | cons c s ih =>
      rw [Json.escape, List.flatMap_cons, List.append_assoc, ← Json.escape,
        extent_escapeChar, ih, List.length_append, Nat.add_assoc]

/-- A literal in a source is read as its text. -/
theorem readText_escape (s rest : List Char) :
    readText '"' (escape plainAscii s ++ '"' :: rest) = .ok (String.ofList s, rest) := by
  rw [readText, extent_escape, textWithin_escape]
  · rfl
  · have h := length_le_escape plainAscii s
    omega

end DocExamples.Script.Token

namespace DocExamples.Script.JsonReader

open Json

/-- A literal in a JSON text is read as its text. -/
theorem readText_escape (s rest : List Char) :
    readText (escape plainAscii s ++ '"' :: rest) =
      .ok (.text (String.ofList s), quoteAscii s, rest) := by
  have hsplit : escape plainAscii s ++ '"' :: rest = (escape plainAscii s ++ ['"']) ++ rest := by
    rw [List.append_assoc]
    rfl
  have hinside : (escape plainAscii s ++ '"' :: rest).take
      (Token.extent '"' (escape plainAscii s ++ '"' :: rest)) = escape plainAscii s ++ ['"'] := by
    rw [Token.extent_escape, hsplit]
    exact List.take_left' (by rw [List.length_append]; rfl)
  have hwritten : (escape plainAscii s ++ '"' :: rest).take
      ((escape plainAscii s ++ '"' :: rest).length - rest.length) =
        escape plainAscii s ++ ['"'] := by
    rw [hsplit]
    exact List.take_left' (by simp only [List.length_append, Nat.add_sub_cancel])
  have hcontrols : ((escape plainAscii s ++ ['"']).any fun c => c.toNat < 32) = false := by
    rw [List.any_eq_false]
    intro c hc
    have hplain : plainAscii c = true := plainAscii_of_mem_quoteAscii (.tail _ hc)
    rw [plainAscii, Bool.and_eq_true, decide_eq_true_iff] at hplain
    rw [decide_eq_true_iff]
    omega
  rw [readText, hinside, hcontrols, Token.readText_escape, if_neg Bool.false_ne_true]
  dsimp only
  rw [hwritten]
  rfl

end DocExamples.Script.JsonReader
