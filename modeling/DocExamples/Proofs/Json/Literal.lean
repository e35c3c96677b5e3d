import DocExamples.Json.Reader
import Mathlib.Tactic.SplitIfs

/-!
# Literals in ASCII

A literal that is ASCII throughout writes a character as the hexadecimal digits of
its 16-bit units, one unit inside the basic plane and two beyond it. This file says
that the digits give the units back and the units the character. Every reader of
literals uses `readUnit` and `unitChar`, so what is left to each of them is the
backslash in front. The reader of JSON texts is the one treated here:
`read_quoteAscii` says that it undoes a literal.

A literal in which more characters stand as they are is read in the same way, as long
as no control does. So the reader is treated for all such literals at once.

This file also says which characters a literal in ASCII consists of: visible ones and
blanks, so that it never ends its line.
-/

namespace DocExamples.Json

theorem hexValue?_hexChar (n : Nat) : hexValue? (hexChar n) = some (n % 16) := by
  have hdigits : ∀ k < 16, hexValue? (Nat.digitChar k) = some k := by decide
  exact hdigits (n % 16) (Nat.mod_lt n (by decide))

theorem hexChar_ne {c : Char} (n : Nat) (hc : hexValue? c = none) : hexChar n ≠ c := by
  rintro rfl
  rw [hexValue?_hexChar] at hc
  cases hc

/-- The digits of a unit. -/
def unitDigits (n : Nat) : List Char :=
  [hexChar (n / 4096), hexChar (n / 256), hexChar (n / 16), hexChar n]

theorem exists_of_mem_unitDigits {n : Nat} {c : Char} (h : c ∈ unitDigits n) :
    ∃ k, c = hexChar k := by
  simp only [unitDigits, List.mem_cons, List.not_mem_nil, or_false] at h
  rcases h with rfl | rfl | rfl | rfl <;> exact ⟨_, rfl⟩

theorem unitEscape_eq (n : Nat) : unitEscape n = '\\' :: 'u' :: unitDigits n := rfl

theorem readUnit_unitDigits {n : Nat} (hn : n < 0x10000) (rest : List Char) :
    readUnit (unitDigits n ++ rest) = some (n, rest) := by
  show readUnit (hexChar (n / 4096) :: hexChar (n / 256) :: hexChar (n / 16) ::
    hexChar n :: rest) = _
  rw [readUnit, hexValue?_hexChar, hexValue?_hexChar, hexValue?_hexChar, hexValue?_hexChar]
  have hsum : 4096 * (n / 4096 % 16) + 256 * (n / 256 % 16) + 16 * (n / 16 % 16) + n % 16 =
      n := by omega
  show some (_, rest) = _
  rw [hsum]

theorem toNat_valid (c : Char) :
    c.toNat < 0xD800 ∨ 0xDFFF < c.toNat ∧ c.toNat < 0x110000 := c.valid

theorem toNat_lt (c : Char) : c.toNat < 0x110000 := by
  have h := toNat_valid c
  omega

/-- The unit of a character inside the basic plane is no half of a pair. -/
theorem unitChar_of_lt {c : Char} (hc : c.toNat < 0x10000) (rest : List Char) :
    unitChar c.toNat rest = (c, rest) := by
  have hvalid := toNat_valid c
  rw [unitChar, if_neg (by omega), if_neg (by omega), Char.ofNat_toNat]

/-- The two units of a character beyond the basic plane. -/
theorem unitChar_pair {c : Char} (hc : 0x10000 ≤ c.toNat) {rest : List Char}
    (hrest : rest ≠ []) :
    unitChar (0xD800 + (c.toNat - 0x10000) / 0x400)
      (unitEscape (0xDC00 + (c.toNat - 0x10000) % 0x400) ++ rest) = (c, rest) := by
  have hmax := toNat_lt c
  have hlow : lowHalf? (unitEscape (0xDC00 + (c.toNat - 0x10000) % 0x400) ++ rest) =
      some (0xDC00 + (c.toNat - 0x10000) % 0x400, rest) := by
    rw [unitEscape_eq, List.cons_append, List.cons_append, lowHalf?,
      readUnit_unitDigits (by omega)]
    exact if_pos ⟨by omega, by omega, hrest⟩
  rw [unitChar, if_pos (by omega), hlow]
  have hsum : 0x10000 + (0xD800 + (c.toNat - 0x10000) / 0x400 - 0xD800) * 0x400 +
      (0xDC00 + (c.toNat - 0x10000) % 0x400 - 0xDC00) = c.toNat := by omega
  dsimp only
  rw [hsum, Char.ofNat_toNat]

/-- Each character of a text takes room in its literal. -/
theorem length_escapeChar_pos (plain : Char → Bool) (c : Char) :
    0 < (escapeChar plain c).length := by
  rw [escapeChar]
  split_ifs
  case neg =>
    rw [numericEscape]
    split
    · exact Nat.succ_pos _
    · exact Nat.succ_pos _
  all_goals exact Nat.succ_pos _

theorem length_le_escape (plain : Char → Bool) (s : List Char) :
    s.length ≤ (escape plain s).length := by
  induction s with
  | nil => exact Nat.zero_le _
  | cons c s ih =>
      rw [escape, List.flatMap_cons, ← escape, List.length_append, List.length_cons]
      have hpos := length_escapeChar_pos plain c
      omega

/-! ## What a literal consists of -/

theorem plainAscii_hexChar (n : Nat) : plainAscii (hexChar n) = true := by
  have hdigit : ∀ d < 16, plainAscii (Nat.digitChar d) = true := by decide
  exact hdigit (n % 16) (Nat.mod_lt n (by omega))

theorem plainAscii_of_mem_unitEscape {n : Nat} {c : Char}
    (h : c ∈ unitEscape n) : plainAscii c = true := by
  simp only [unitEscape, List.mem_cons, List.not_mem_nil, or_false] at h
  rcases h with rfl | rfl | rfl | rfl | rfl | rfl
  · rfl
  · rfl
  all_goals exact plainAscii_hexChar _

theorem plainAscii_of_mem_numericEscape {x c : Char}
    (h : c ∈ numericEscape x) : plainAscii c = true := by
  simp only [numericEscape] at h
  split at h
  · exact plainAscii_of_mem_unitEscape h
  · rcases List.mem_append.1 h with hhigh | hlow
    · exact plainAscii_of_mem_unitEscape hhigh
    · exact plainAscii_of_mem_unitEscape hlow

section

variable {plain : Char → Bool} (hascii : ∀ c, plainAscii c = true → plain c = true)

include hascii

theorem plain_of_mem_escapeChar {x c : Char} (h : c ∈ escapeChar plain x) : plain c = true := by
  have hpair : ∀ e : Char, plainAscii e = true → c ∈ ['\\', e] → plain c = true := by
    intro e he hmem
    rcases List.mem_cons.1 hmem with rfl | htail
    · exact hascii _ rfl
    · rw [List.mem_singleton.1 htail]
      exact hascii e he
  rw [escapeChar] at h
  split_ifs at h with hquote hback hplain
  · exact hpair _ rfl h
  · exact hpair _ rfl h
  · rw [List.mem_singleton.1 h]; exact hplain
  · exact hpair _ rfl h
  · exact hpair _ rfl h
  · exact hpair _ rfl h
  · exact hpair _ rfl h
  · exact hpair _ rfl h
  · exact hascii c (plainAscii_of_mem_numericEscape h)

/-- A literal holds only characters that stand in it as they are, where those of ASCII do. -/
theorem plain_of_mem_quote {s : List Char} {c : Char} (h : c ∈ quote plain s) :
    plain c = true := by
  rcases List.mem_cons.1 h with rfl | hrest
  · exact hascii _ rfl
  · rcases List.mem_append.1 hrest with hin | hend
    · obtain ⟨x, _, hx⟩ := List.mem_flatMap.1 hin
      exact plain_of_mem_escapeChar hascii hx
    · rw [List.mem_singleton.1 hend]
      exact hascii _ rfl

end

/-- A literal in ASCII holds visible characters and blanks only. -/
theorem plainAscii_of_mem_quoteAscii {s : List Char} {c : Char}
    (h : c ∈ quoteAscii s) : plainAscii c = true := plain_of_mem_quote (fun _ hc => hc) h

theorem quoteAscii_append (s rest : List Char) :
    quoteAscii s ++ rest = '"' :: (escape plainAscii s ++ '"' :: rest) := by
  rw [quoteAscii, quote, List.cons_append, List.append_assoc]
  rfl

theorem not_mem_quoteAscii (s : List Char) : '\n' ∉ quoteAscii s :=
  fun h => absurd (plainAscii_of_mem_quoteAscii h) (by decide)

/-! ## Reading a literal -/

theorem readInside_plain {c : Char} (hquote : c ≠ '"') (hback : c ≠ '\\') (hcontrol : 32 ≤ c.toNat)
    (fuel : Nat) (acc rest : List Char) :
    readInside (fuel + 1) acc (c :: rest) = readInside fuel (c :: acc) rest := by
  rw [readInside.eq_def]
  dsimp only
  rw [if_neg hquote, if_neg hback, if_neg (Nat.not_lt.2 hcontrol)]

theorem readInside_short {e x : Char} (h : shortEscape? e = some x) (fuel : Nat)
    (acc rest : List Char) :
    readInside (fuel + 1) acc ('\\' :: e :: rest) = readInside fuel (x :: acc) rest := by
  rw [readInside.eq_def]
  dsimp only
  rw [if_neg (by decide), if_pos rfl]
  split
  · next heq => cases heq
  · next heq => cases heq; cases h
  · next heq => cases heq; rw [h]

theorem readInside_unit {n : Nat} (hn : n < 0x10000) (fuel : Nat) (acc : List Char)
    {rest : List Char} (hrest : rest ≠ []) :
    readInside (fuel + 1) acc (unitEscape n ++ rest) =
      readInside fuel ((unitChar n rest).1 :: acc) (unitChar n rest).2 := by
  rw [unitEscape_eq, List.cons_append, List.cons_append, readInside.eq_def]
  dsimp only
  rw [if_neg (by decide), if_pos rfl]
  split
  · next heq => cases heq
  · next after heq =>
      rw [← (List.cons.inj heq).2, readUnit_unitDigits hn]
      cases rest with
      | nil => exact absurd rfl hrest
      | cons c more => rfl
  · next hunit heq => exact absurd (List.cons.inj heq).1.symm hunit

theorem le_of_plainAscii {c : Char} (h : plainAscii c = true) : 32 ≤ c.toNat := by
  rw [plainAscii, Bool.and_eq_true, decide_eq_true_iff] at h
  exact h.1

theorem le_of_plainAll {c : Char} (h : plainAll c = true) : 32 ≤ c.toNat := of_decide_eq_true h

section

variable {plain : Char → Bool} (hplain : ∀ c, plain c = true → 32 ≤ c.toNat)

include hplain

/-- One character of a text is one step of the reader of its literal. -/
theorem readInside_escapeChar (c : Char) {rest : List Char} (hrest : rest ≠ []) (fuel : Nat)
    (acc : List Char) :
    readInside (fuel + 1) acc (escapeChar plain c ++ rest) =
      readInside fuel (c :: acc) rest := by
  rw [escapeChar]
  split_ifs with h1 h2 h3 h4 h5 h6 h7 h8
  · subst h1; exact readInside_short rfl fuel acc rest
  · subst h2; exact readInside_short rfl fuel acc rest
  · exact readInside_plain h1 h2 (hplain c h3) fuel acc rest
  · subst h4; exact readInside_short rfl fuel acc rest
  · subst h5; exact readInside_short rfl fuel acc rest
  · subst h6; exact readInside_short rfl fuel acc rest
  · subst h7; exact readInside_short rfl fuel acc rest
  · subst h8; exact readInside_short rfl fuel acc rest
  · rw [numericEscape]
    split
    · next hc => rw [readInside_unit hc fuel acc hrest, unitChar_of_lt hc]
    · next hc =>
        have hmax := toNat_lt c
        rw [List.append_assoc, readInside_unit (by omega) fuel acc
          (List.append_ne_nil_of_right_ne_nil _ hrest), unitChar_pair (Nat.le_of_not_lt hc) hrest]

theorem readInside_escape {s rest : List Char} {fuel : Nat} (hfuel : s.length < fuel)
    (acc : List Char) :
    readInside fuel acc (escape plain s ++ '"' :: rest) = .ok (acc.reverse ++ s, rest) := by
  induction s generalizing fuel acc with
  | nil =>
      obtain ⟨fuel, rfl⟩ := Nat.exists_eq_add_of_lt hfuel
      rw [List.append_nil]
      rfl
  | cons c s ih =>
      obtain ⟨fuel, rfl⟩ : ∃ n, fuel = n + 1 := ⟨fuel - 1, by omega⟩
      have hnext : escape plain s ++ '"' :: rest ≠ [] :=
        List.append_ne_nil_of_right_ne_nil _ (List.cons_ne_nil _ _)
      rw [escape, List.flatMap_cons, List.append_assoc, ← escape,
        readInside_escapeChar hplain c hnext,
        ih (by rw [List.length_cons] at hfuel; omega), List.reverse_cons, List.append_assoc]
      rfl

/-- The reader undoes a literal, whatever characters stand in it as they are. -/
theorem readLiteral_escape (s rest : List Char) :
    readLiteral (escape plain s ++ '"' :: rest) = .ok (s, rest) := by
  rw [readLiteral, readInside_escape hplain]
  · rfl
  · rw [List.length_append]
    exact Nat.lt_succ_of_le (Nat.le_add_right_of_le (length_le_escape plain s))

end

theorem readValue_quoteAscii (fuel depth : Nat) (s rest : List Char) :
    readValue (fuel + 1) depth (quoteAscii s ++ rest) = .ok (.str (String.ofList s), rest) := by
  rw [quoteAscii_append, readValue, readLiteral_escape fun _ => le_of_plainAscii]

/-- What is read of a text that is a value from its first character to its last. -/
theorem read_of_readValue {s : List Char} {c : Char} {j : Json} (hhead : s.head? = some c)
    (hmark : c ≠ Char.ofNat 0xFEFF) (hspace : isSpace c = false)
    (h : readValue (2 * s.length + 2) deepest s = .ok (j, [])) : read s = .ok j := by
  obtain ⟨rest, rfl⟩ := List.head?_eq_some_iff.1 hhead
  have hskip : skipSpace (c :: rest) = c :: rest :=
    List.dropWhile_cons_of_neg (by rw [hspace]; exact Bool.false_ne_true)
  rw [read, hhead, if_neg fun heq => hmark (Option.some.inj heq), hskip, h]
  rfl

/-- A literal in ASCII is a JSON text, and what it stands for is the text it was made from. -/
theorem read_quoteAscii (s : List Char) : read (quoteAscii s) = .ok (.str (String.ofList s)) := by
  have hvalue := readValue_quoteAscii (2 * (quoteAscii s).length + 1) deepest s []
  rw [List.append_nil] at hvalue
  exact read_of_readValue rfl (by decide) rfl hvalue

end DocExamples.Json
