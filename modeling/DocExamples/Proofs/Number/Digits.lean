import DocExamples.Number.Layout
import DocExamples.Text.Digit

/-!
# Digits in base ten

The digits of a whole number are spelt in two ways: as characters by `natText`, and as a
list of small numbers by `Decimal.digitsOf`. Here both are one, so that all that is known
of the characters holds of the lists too. Zeros at the end of a number are a power of ten:
`natText_mul_pow` adds them, and `exists_trimmed` says what is left where they are dropped.
-/

namespace DocExamples.Number

/-! ## Characters -/

theorem isDigit_of_mem_natText {n : Nat} {c : Char} (h : c ∈ natText n) : c.isDigit = true :=
  Nat.isDigit_of_mem_toDigits (by decide) (by decide) h

theorem natText_ne_nil (n : Nat) : natText n ≠ [] := Nat.toDigits_ne_nil

theorem natText_of_lt {n : Nat} (h : n < 10) : natText n = [Nat.digitChar n] :=
  Nat.toDigits_of_lt_base h

theorem natText_of_le {n : Nat} (h : 10 ≤ n) :
    natText n = natText (n / 10) ++ [Nat.digitChar (n % 10)] :=
  Nat.toDigits_of_base_le (by decide) h

theorem natText_mul_ten {n : Nat} (hn : 0 < n) : natText (n * 10) = natText n ++ ['0'] := by
  rw [natText_of_le (by omega), Nat.mul_div_cancel n (by decide), Nat.mul_mod_left]
  rfl

theorem natText_mul_pow {n : Nat} (hn : 0 < n) (k : Nat) :
    natText (n * 10 ^ k) = natText n ++ List.replicate k '0' := by
  induction k with
  | zero => rw [Nat.pow_zero, Nat.mul_one, List.replicate_zero, List.append_nil]
  | succ k ih =>
      rw [Nat.pow_succ, ← Nat.mul_assoc, natText_mul_ten (Nat.mul_pos hn (Nat.pow_pos (by decide))),
        ih, List.append_assoc, ← List.replicate_succ']

/-- A number whose text ends with zeros is a multiple of a power of ten. -/
theorem exists_of_natText_eq {n k : Nat} {s : List Char} (hs : s ≠ [])
    (h : natText n = s ++ List.replicate k '0') : ∃ c, n = c * 10 ^ k ∧ natText c = s := by
  induction k generalizing n with
  | zero => exact ⟨n, (Nat.mul_one n).symm, by rw [h, List.replicate_zero, List.append_nil]⟩
  | succ k ih =>
      rw [List.replicate_succ', ← List.append_assoc] at h
      have hlong : 10 ≤ n := by
        refine Nat.le_of_not_lt fun hlt => hs ?_
        rw [natText_of_lt hlt] at h
        have hnil := List.append_inj_left' (h.symm.trans (List.nil_append _).symm) rfl
        exact (List.append_eq_nil_iff.1 hnil).1
      rw [natText_of_le hlong] at h
      have hzero : n % 10 = 0 :=
        Nat.digitChar_eq_zero.1 (List.singleton_inj.1 (List.append_inj_right' h rfl))
      obtain ⟨c, hc, htext⟩ := ih (List.append_inj_left' h rfl)
      refine ⟨c, ?_, htext⟩
      rw [Nat.pow_succ, ← Nat.mul_assoc, ← hc]
      omega

theorem head?_natText {n : Nat} (hn : 0 < n) : (natText n).head? ≠ some '0' := by
  induction n using Nat.strongRecOn with
  | ind n ih =>
      by_cases hlt : n < 10
      · rw [natText_of_lt hlt, List.head?_cons]
        intro h
        exact absurd (Nat.digitChar_eq_zero.1 (Option.some.inj h)) (by omega)
      · obtain ⟨c, more, htext⟩ := List.exists_cons_of_ne_nil (natText_ne_nil (n / 10))
        have hfirst := ih (n / 10) (by omega) (by omega)
        rw [natText_of_le (Nat.le_of_not_lt hlt), htext]
        rwa [htext] at hfirst

theorem length_natText_le {n k : Nat} (hk : 0 < k) : (natText n).length ≤ k ↔ n < 10 ^ k :=
  Nat.length_toDigits_le_iff (by decide) hk

/-! ## Reading digits -/

theorem digitValue?_of_isDigit {c : Char} (h : c.isDigit = true) :
    Text.digitValue? c = some (c.toNat - 48) := by
  rw [Char.isDigit, Bool.and_eq_true, decide_eq_true_iff, decide_eq_true_iff] at h
  exact if_pos ⟨h.1, Nat.lt_succ_of_le h.2⟩

theorem natOfDigits_eq_ofDigitChars {s : List Char} (h : ∀ c ∈ s, c.isDigit = true) :
    Text.natOfDigits s = Nat.ofDigitChars 10 s 0 := by
  have hfold : ∀ n, s.foldl (fun n c => 10 * n + (Text.digitValue? c).getD 0) n =
      Nat.ofDigitChars 10 s n := by
    induction s with
    | nil => exact fun n => Nat.ofDigitChars_nil.symm
    | cons c s ih =>
        intro n
        rw [List.foldl_cons, digitValue?_of_isDigit (h c List.mem_cons_self),
          Nat.ofDigitChars_cons]
        exact ih (fun d hd => h d (List.mem_cons_of_mem _ hd)) _
  exact hfold 0

theorem natOfDigits_natText (n : Nat) : Text.natOfDigits (natText n) = n := by
  rw [natOfDigits_eq_ofDigitChars fun c => isDigit_of_mem_natText]
  exact Nat.ofDigitChars_ten_toDigits

theorem natOfDigits_zeros_append {s : List Char} (h : ∀ c ∈ s, c.isDigit = true) (k : Nat) :
    Text.natOfDigits (List.replicate k '0' ++ s) = Text.natOfDigits s := by
  have hall : ∀ c ∈ List.replicate k '0' ++ s, c.isDigit = true := by
    intro c hc
    rcases List.mem_append.1 hc with hzero | hin
    · rw [List.eq_of_mem_replicate hzero]
      rfl
    · exact h c hin
  rw [natOfDigits_eq_ofDigitChars hall, natOfDigits_eq_ofDigitChars h, Nat.ofDigitChars_append,
    Nat.ofDigitChars_replicate_zero, Nat.mul_zero]

/-! ## Lists of digits -/

namespace Decimal

theorem map_digitChar_digitsOf {n : Nat} (hn : 0 < n) :
    (digitsOf n).map Nat.digitChar = natText n := by
  have hgo : ∀ fuel n acc, n ≤ fuel → (digitsOf.go fuel n acc).map Nat.digitChar =
      (if n = 0 then [] else natText n) ++ acc.map Nat.digitChar := by
    intro fuel
    induction fuel with
    | zero =>
        intro n acc hle
        rw [digitsOf.go, if_pos (Nat.le_zero.1 hle), List.nil_append]
    | succ fuel ih =>
        intro n acc hle
        rw [digitsOf.go]
        split
        · rfl
        · next hn =>
            rw [ih _ _ (by omega), List.map_cons]
            split
            · rw [natText_of_lt (by omega), Nat.mod_eq_of_lt (by omega)]
              rfl
            · rw [natText_of_le (n := n) (by omega), List.append_assoc]
              rfl
  have hall := hgo n n [] (Nat.le_refl n)
  rwa [if_neg (Nat.pos_iff_ne_zero.1 hn), List.map_nil, List.append_nil] at hall

/-- What is dropped from a list of digits is zeros. -/
theorem exists_trimZeros_append (ds : List Nat) :
    ∃ k, ds = trimZeros ds ++ List.replicate k 0 := by
  have hzeros : ds.reverse.takeWhile (· = 0) =
      List.replicate (ds.reverse.takeWhile (· = 0)).length 0 :=
    List.eq_replicate_iff.2 ⟨rfl, fun d hd =>
      of_decide_eq_true (List.all_eq_true.1 List.all_takeWhile d hd)⟩
  refine ⟨(ds.reverse.takeWhile (· = 0)).length, ?_⟩
  rw [trimZeros, ← List.reverse_replicate, ← hzeros, ← List.reverse_append,
    List.takeWhile_append_dropWhile, List.reverse_reverse]

/-- Holds of a decimal whose digits are those of a positive whole number. -/
structure Spells (d : Decimal) (c : Nat) : Prop where
  pos : 0 < c
  digits : d.digits.map Nat.digitChar = natText c

theorem Spells.length {d : Decimal} {c : Nat} (h : d.Spells c) :
    d.digits.length = (natText c).length := by
  rw [← h.digits, List.length_map]

theorem getLast?_trimZeros (ds : List Nat) : (trimZeros ds).getLast? ≠ some 0 := by
  rw [trimZeros, List.getLast?_reverse]
  intro h
  have hfirst := List.head?_dropWhile_not (· = 0) ds.reverse
  rw [h] at hfirst
  exact absurd hfirst (by decide)

/-- The digits without the zeros at their end are the digits of a number again. -/
theorem exists_trimmed {n : Nat} (hn : 0 < n) :
    ∃ c k, 0 < c ∧ c % 10 ≠ 0 ∧ n = c * 10 ^ k ∧
      (trimZeros (digitsOf n)).map Nat.digitChar = natText c ∧
      (digitsOf n).length = (natText c).length + k := by
  obtain ⟨k, hsplit⟩ := exists_trimZeros_append (digitsOf n)
  have htext : natText n = (trimZeros (digitsOf n)).map Nat.digitChar ++ List.replicate k '0' := by
    rw [← map_digitChar_digitsOf hn]
    refine (congrArg (List.map Nat.digitChar) hsplit).trans ?_
    rw [List.map_append, List.map_replicate]
    rfl
  have hne : (trimZeros (digitsOf n)).map Nat.digitChar ≠ [] := by
    intro hnil
    rw [hnil, List.nil_append] at htext
    refine head?_natText hn ?_
    cases k with
    | zero => exact absurd htext (natText_ne_nil n)
    | succ k => rw [htext, List.replicate_succ, List.head?_cons]
  obtain ⟨c, hc, hdigits⟩ := exists_of_natText_eq hne htext
  have hpos : 0 < c := by
    refine Nat.pos_of_ne_zero ?_
    rintro rfl
    rw [Nat.zero_mul] at hc
    omega
  refine ⟨c, k, hpos, fun hzero => ?_, hc, hdigits.symm, ?_⟩
  · obtain ⟨b, rfl⟩ : ∃ b, c = b * 10 := ⟨c / 10, by omega⟩
    rw [natText_mul_ten (by omega)] at hdigits
    have hlast := congrArg List.getLast? hdigits
    rw [List.getLast?_concat, List.getLast?_map] at hlast
    obtain ⟨d, hd, hchar⟩ := Option.map_eq_some_iff.1 hlast.symm
    rw [Nat.digitChar_eq_zero.1 hchar] at hd
    exact getLast?_trimZeros _ hd
  · rw [← List.length_map (f := Nat.digitChar), map_digitChar_digitsOf hn, htext,
      List.length_append, List.length_replicate, hdigits]

end Decimal

end DocExamples.Number
