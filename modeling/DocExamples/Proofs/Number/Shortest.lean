import DocExamples.Proofs.Number.Digits
import DocExamples.Proofs.Number.Rounding
import Mathlib.Algebra.Order.AbsoluteValue.Basic

/-!
# Decimals that read back

Two ways to find the digits of a double are in use. One takes the nearest of the decimals
that read back, of the shortest length at which there are any; the other rounds the double
to each length and takes the first decimal that reads back. Both find one: at seventeen
digits the decimals lie so dense that the nearest reads back.

They differ at most below a power of two. Everywhere else the sizes that read as a double
lie around it with the same room on both sides, so where any decimal of a length reads
back the nearest does.
-/

namespace DocExamples.Number.Decimal

open Double

/-! ## The interval of a number -/

theorem scaleTwo_snd (a b den : Nat) (e : Int) : (scaleTwo a den e).2 = (scaleTwo b den e).2 := by
  rw [scaleTwo, scaleTwo]
  split <;> rfl

theorem intervalOf_den_pos (m : Nat) (e : Int) : 0 < (intervalOf m e).den :=
  scaleTwo_den_pos (4 * m) (by decide) e

theorem intervalOf_value_pos {m : Nat} (hm : 0 < m) (e : Int) : 0 < (intervalOf m e).value :=
  scaleTwo_num_pos (by omega) 4 e

theorem intervalOf_value (m : Nat) (e : Int) :
    ((intervalOf m e).value : ℚ) / (intervalOf m e).den = magnitude m e := by
  have hscaled := scaleTwo_div (4 * m) 4 e
  rw [intervalOf]
  refine hscaled.trans ?_
  rw [magnitude, Nat.cast_mul]
  push_cast
  ring

theorem intervalOf_low {m : Nat} (hm : 0 < m) (e : Int) :
    ((intervalOf m e).low : ℚ) / (intervalOf m e).den = lowEnd m e := by
  have hlow : (intervalOf m e).low =
      (scaleTwo (if IsNarrow m e then 4 * m - 1 else 4 * m - 2) 4 e).1 := rfl
  have hden : (intervalOf m e).den =
      (scaleTwo (if IsNarrow m e then 4 * m - 1 else 4 * m - 2) 4 e).2 := scaleTwo_snd _ _ 4 e
  rw [hlow, hden, scaleTwo_div, lowEnd]
  congr 1
  split
  · rw [Nat.cast_sub (by omega)]
    push_cast
    ring
  · rw [Nat.cast_sub (by omega)]
    push_cast
    ring

theorem intervalOf_high (m : Nat) (e : Int) :
    ((intervalOf m e).high : ℚ) / (intervalOf m e).den = highEnd m e := by
  have hhigh : (intervalOf m e).high = (scaleTwo (4 * m + 2) 4 e).1 := rfl
  have hden : (intervalOf m e).den = (scaleTwo (4 * m + 2) 4 e).2 := scaleTwo_snd _ _ 4 e
  rw [hhigh, hden, scaleTwo_div, highEnd]
  push_cast
  ring

/-- The interval of a number holds the sizes that read as it. -/
theorem contains_iff {m : Nat} (hm : 0 < m) (e : Int) (num : Nat) {den : Nat} (hden : 0 < den) :
    (intervalOf m e).contains num den = true ↔ Reaches m e (num / den) := by
  have hd : (0 : ℚ) < den := Nat.cast_pos.2 hden
  have hi : (0 : ℚ) < (intervalOf m e).den := Nat.cast_pos.2 (intervalOf_den_pos m e)
  have hclosed : (intervalOf m e).closed = decide (m % 2 = 0) := rfl
  rw [Interval.contains, Reaches, ← intervalOf_low hm, ← intervalOf_high, hclosed,
    div_le_div_iff₀ hi hd, div_le_div_iff₀ hd hi, div_lt_div_iff₀ hi hd, div_lt_div_iff₀ hd hi]
  by_cases heven : m % 2 = 0
  · rw [if_pos heven, decide_eq_true heven, if_pos rfl, Bool.and_eq_true, decide_eq_true_iff,
      decide_eq_true_iff]
    norm_cast
  · rw [if_neg heven, decide_eq_false heven, if_neg Bool.false_ne_true, Bool.and_eq_true,
      decide_eq_true_iff, decide_eq_true_iff]
    norm_cast

/-! ## Where the point stands -/

/-- Powers of two next to powers of ten, as far as exponents of doubles go. -/
theorem pow_estimate : ∀ g < 1100,
    10 ^ (g * 30103 / 100000) ≤ 2 ^ (g + 1) ∧ 2 ^ g ≤ 10 ^ (g * 30103 / 100000 + 1) := by
  decide +kernel

theorem ten_zpow_add (x y : Int) : (10 : ℚ) ^ (x + y) = 10 ^ x * 10 ^ y :=
  zpow_add₀ (by norm_num) x y

theorem ten_zpow_le {x y : Int} : (10 : ℚ) ^ x ≤ 10 ^ y ↔ x ≤ y :=
  zpow_le_zpow_iff_right₀ (by norm_num)

theorem estimate_of_nat {g : Nat} (hg : g < 1100) : ∃ k : Nat,
    (g : Int) * 30103 / 100000 = k ∧ (-(g : Int)) * 30103 / 100000 ≤ -k ∧
      -k - 1 ≤ (-(g : Int)) * 30103 / 100000 ∧
      (10 : ℚ) ^ (k : Int) ≤ 2 * 2 ^ (g : Int) ∧ (2 : ℚ) ^ (g : Int) ≤ 10 * 10 ^ (k : Int) := by
  obtain ⟨hten, htwo⟩ := pow_estimate g hg
  refine ⟨g * 30103 / 100000, by omega, by omega, by omega, ?_, ?_⟩
  · rw [zpow_natCast, zpow_natCast, ← pow_succ']
    exact_mod_cast hten
  · rw [zpow_natCast, zpow_natCast, ← pow_succ']
    exact_mod_cast htwo

/-- The power of ten that the search for the point starts from is below the number, and four steps
up it is above. -/
theorem estimate_spec {f : Int} (hleast : -1100 < f) (hgreatest : f < 1100) :
    (10 : ℚ) ^ (f * 30103 / 100000 - 1 - 1) ≤ 2 ^ f ∧
      (2 : ℚ) ^ (f + 1) ≤ 10 ^ (f * 30103 / 100000 - 1 + 4) := by
  have htwo : (2 : ℚ) ^ (f + 1) = 2 ^ f * 2 := by rw [two_zpow_add, zpow_one]
  rw [htwo]
  rcases Int.le_total 0 f with hf | hf
  · obtain ⟨g, rfl⟩ := Int.eq_ofNat_of_zero_le hf
    obtain ⟨k, hk, -, -, hbelow, habove⟩ := estimate_of_nat (g := g) (by omega)
    have hpos := ten_zpow_pos k
    have hlow : (10 : ℚ) ^ ((k : Int) - 1 - 1) = 10 ^ (k : Int) / 100 := by
      rw [sub_sub, zpow_sub₀ (by norm_num)]
      norm_num
    have hhigh : (10 : ℚ) ^ ((k : Int) - 1 + 4) = 10 ^ (k : Int) * 1000 := by
      have hsum : (k : Int) - 1 + 4 = k + 3 := by omega
      rw [hsum, ten_zpow_add]
      norm_num
    rw [hk, hlow, hhigh]
    constructor <;> linarith
  · -- the division rounds down, so the estimate of a negative exponent may be one lower
    obtain ⟨g, hg⟩ := Int.eq_ofNat_of_zero_le (a := -f) (by omega)
    obtain rfl : f = -g := by omega
    obtain ⟨k, -, hupper, hlower, hbelow, habove⟩ := estimate_of_nat (g := g) (by omega)
    have hpos := ten_zpow_pos k
    have hpos' := two_zpow_pos g
    rw [zpow_neg]
    constructor
    · calc (10 : ℚ) ^ (-(g : Int) * 30103 / 100000 - 1 - 1) ≤ 10 ^ (-((k : Int) + 1)) :=
            ten_zpow_le.2 (by omega)
        _ ≤ (2 ^ (g : Int))⁻¹ := by
            rw [zpow_neg, ten_zpow_add, zpow_one]
            exact inv_anti₀ hpos' (by linarith)
    · calc ((2 : ℚ) ^ (g : Int))⁻¹ * 2 ≤ (10 ^ (k : Int) / 2)⁻¹ * 2 :=
            mul_le_mul_of_nonneg_right (inv_anti₀ (by linarith) (by linarith)) (by norm_num)
        _ ≤ (10 ^ (k : Int))⁻¹ * 10 ^ (2 : Int) := by
            have hinv := inv_pos.2 hpos
            have hsquare : (10 : ℚ) ^ (2 : Int) = 100 := by norm_num
            rw [inv_div, hsquare, div_eq_mul_inv]
            linarith
        _ = 10 ^ (-(k : Int) + 2) := by rw [ten_zpow_add, zpow_neg]
        _ ≤ 10 ^ (-(g : Int) * 30103 / 100000 - 1 + 4) := ten_zpow_le.2 (by omega)

theorem lt_ten_zpow_iff {num den : Nat} (hden : 0 < den) (p : Int) :
    (if 0 ≤ p then num < den * 10 ^ p.toNat else num * 10 ^ (-p).toNat < den) ↔
      (num / den : ℚ) < 10 ^ p := by
  have hd : (0 : ℚ) < den := Nat.cast_pos.2 hden
  split
  · next hp =>
      obtain ⟨k, rfl⟩ := Int.eq_ofNat_of_zero_le hp
      rw [Int.toNat_natCast, zpow_natCast, div_lt_iff₀ hd, mul_comm den]
      norm_cast
  · next hp =>
      obtain ⟨k, hk⟩ := Int.eq_ofNat_of_zero_le (a := -p) (by omega)
      obtain rfl : p = -k := by omega
      have hpow : (0 : ℚ) < 10 ^ k := by positivity
      rw [neg_neg, Int.toNat_natCast, zpow_neg, zpow_natCast, div_lt_iff₀ hd, inv_mul_eq_div,
        lt_div_iff₀ hpow]
      norm_cast

/-- The search for the point ends at the least power of ten above the number. -/
theorem go_spec {num den : Nat} (hden : 0 < den) {fuel : Nat} {p : Int}
    (hlow : (10 : ℚ) ^ (p - 1) ≤ num / den) (hhigh : (num / den : ℚ) < 10 ^ (p + fuel)) :
    (10 : ℚ) ^ (pointOf.go num den fuel p - 1) ≤ num / den ∧
      (num / den : ℚ) < 10 ^ pointOf.go num den fuel p := by
  induction fuel generalizing p with
  | zero =>
      rw [Nat.cast_zero, add_zero] at hhigh
      exact ⟨hlow, hhigh⟩
  | succ fuel ih =>
      have hbelow := @lt_ten_zpow_iff num den hden p
      rw [pointOf.go]
      by_cases hless : (num / den : ℚ) < 10 ^ p
      · rw [if_pos (hbelow.2 hless)]
        exact ⟨hlow, hless⟩
      · rw [if_neg (mt hbelow.1 hless)]
        refine ih ?_ ?_
        · rw [add_sub_cancel_right]
          exact not_lt.1 hless
        · rw [add_assoc, add_comm 1]
          exact_mod_cast hhigh

/-- Where the point of a number stands. -/
def pointAt (m : Nat) (e : Int) : Int := pointOf (intervalOf m e).value (intervalOf m e).den

section

variable {m : Nat} {e : Int} (hp : IsProper m e) (hm : 0 < m)

include hp hm

theorem magnitude_bounds : (2 : ℚ) ^ e ≤ magnitude m e ∧ magnitude m e < 2 ^ (e + 53) := by
  have hpos := two_zpow_pos e
  have hone : (1 : ℚ) ≤ m := by exact_mod_cast hm
  have hmantissa : (m : ℚ) < 2 ^ 53 := by exact_mod_cast hp.mantissa
  refine ⟨le_mul_of_one_le_left hpos.le hone, ?_⟩
  rw [two_zpow_add, mul_comm]
  exact mul_lt_mul_of_pos_right hmantissa hpos

/-- The power of ten next above a number is found. -/
theorem pointOf_spec :
    (10 : ℚ) ^ (pointAt m e - 1) ≤ magnitude m e ∧ magnitude m e < 10 ^ pointAt m e := by
  have hden := intervalOf_den_pos m e
  obtain ⟨hbelow, habove⟩ := floorLog_spec (intervalOf_value_pos hm e) hden
  rw [intervalOf_value] at hbelow habove
  obtain ⟨hleast, hgreatest⟩ := magnitude_bounds hp hm
  have hlow := two_zpow_lt.1 (hleast.trans_lt habove)
  have hhigh := two_zpow_lt.1 (hbelow.trans_lt hgreatest)
  have hexponent : (-1074 : Int) ≤ e ∧ e ≤ 971 := ⟨hp.least, hp.greatest⟩
  obtain ⟨hstart, hend⟩ := estimate_spec
    (f := floorLog (intervalOf m e).value (intervalOf m e).den) (by omega) (by omega)
  rw [← intervalOf_value, pointAt, pointOf]
  refine go_spec hden ?_ ?_
  · rw [intervalOf_value]
    exact hstart.trans hbelow
  · rw [intervalOf_value]
    exact_mod_cast habove.trans_le hend

end

/-! ## Rounding to a count of digits -/

/-- Sizes that are nearer to a number than its neighbours read as it. -/
theorem reaches_of_near {m : Nat} {e : Int} {q : ℚ}
    (h : |q - magnitude m e| < (if IsNarrow m e then 1 / 4 else 1 / 2) * 2 ^ e) :
    Reaches m e q := by
  have hpos := two_zpow_pos e
  have hgap : ((if IsNarrow m e then 1 / 4 else 1 / 2 : ℚ)) * 2 ^ e ≤ 1 / 2 * 2 ^ e := by
    refine mul_le_mul_of_nonneg_right ?_ hpos.le
    split <;> norm_num
  obtain ⟨hlow, hhigh⟩ := abs_lt.1 h
  have hbelow : lowEnd m e < q := by
    rw [lowEnd, sub_mul]
    rw [magnitude] at hlow
    linarith
  have habove : q < highEnd m e := by
    rw [highEnd, add_mul]
    rw [magnitude] at hhigh
    linarith
  rw [Reaches]
  split
  · exact ⟨hbelow.le, habove.le⟩
  · exact ⟨hbelow, habove⟩

/-- A number in units of a power of ten, as a fraction. -/
def inUnits (i : Interval) (p : Int) : Nat × Nat :=
  if 0 ≤ p then (i.value, i.den * 10 ^ p.toNat) else (i.value * 10 ^ (-p).toNat, i.den)

/-- Holds of a decimal that reads back. -/
def readsBack (i : Interval) (n : Nat) (p : Int) : Bool :=
  if 0 ≤ p then i.contains (n * 10 ^ p.toNat) 1 else i.contains n (10 ^ (-p).toNat)

theorem inUnits_den_pos (m : Nat) (e p : Int) : 0 < (inUnits (intervalOf m e) p).2 := by
  have hden := intervalOf_den_pos m e
  rw [inUnits]
  split
  · exact Nat.mul_pos hden (Nat.pow_pos (by decide))
  · exact hden

theorem inUnits_div (m : Nat) (e p : Int) :
    ((inUnits (intervalOf m e) p).1 : ℚ) / (inUnits (intervalOf m e) p).2 =
      magnitude m e / 10 ^ p := by
  rw [← intervalOf_value, inUnits]
  split
  · next hp =>
      obtain ⟨k, rfl⟩ := Int.eq_ofNat_of_zero_le hp
      rw [Int.toNat_natCast, zpow_natCast, Nat.cast_mul, Nat.cast_pow, Nat.cast_ofNat,
        div_mul_eq_div_div]
  · next hp =>
      obtain ⟨k, hk⟩ := Int.eq_ofNat_of_zero_le (a := -p) (by omega)
      obtain rfl : p = -k := by omega
      rw [neg_neg, Int.toNat_natCast, zpow_neg, zpow_natCast, Nat.cast_mul, Nat.cast_pow,
        Nat.cast_ofNat, div_inv_eq_mul]
      ring

theorem readsBack_iff {m : Nat} (hm : 0 < m) (e : Int) (n : Nat) (p : Int) :
    readsBack (intervalOf m e) n p = true ↔ Reaches m e (n * 10 ^ p) := by
  rw [readsBack]
  split
  · next hp =>
      obtain ⟨k, rfl⟩ := Int.eq_ofNat_of_zero_le hp
      rw [contains_iff hm e _ Nat.one_pos, Int.toNat_natCast, zpow_natCast, Nat.cast_mul,
        Nat.cast_pow, Nat.cast_ofNat, Nat.cast_one, div_one]
  · next hp =>
      obtain ⟨k, hk⟩ := Int.eq_ofNat_of_zero_le (a := -p) (by omega)
      obtain rfl : p = -k := by omega
      rw [contains_iff hm e _ (Nat.pow_pos (by decide)), neg_neg, Int.toNat_natCast, zpow_neg,
        zpow_natCast, Nat.cast_pow, Nat.cast_ofNat, div_eq_mul_inv]

theorem divideToEven_eq_ite {num den : Nat} (hden : 0 < den) :
    divideToEven num den =
      if 2 * num < (2 * (num / den) + 1) * den ∨
        (2 * num = (2 * (num / den) + 1) * den ∧ num / den % 2 = 0) then num / den
      else num / den + 1 := by
  have hsplit := Nat.div_add_mod num den
  have hrest := Nat.mod_lt num hden
  rw [divideToEven]
  generalize num / den = quotient at hsplit
  generalize num % den = rest at hsplit hrest
  have htwice : 2 * num = 2 * quotient * den + 2 * rest := by rw [← hsplit]; ring
  have hmiddle : (2 * quotient + 1) * den = 2 * quotient * den + den := by ring
  rw [htwice, hmiddle]
  generalize 2 * quotient * den = front
  split
  · rw [if_neg (by omega)]
  · rw [if_pos (by omega)]

/-- The nearest decimal is one of the two around a number. -/
theorem divideToEven_or {num den : Nat} (hden : 0 < den) :
    divideToEven num den = num / den ∨ divideToEven num den = num / den + 1 := by
  rw [divideToEven_eq_ite hden]
  split
  · exact .inl rfl
  · exact .inr rfl

/-- The decimal below a number, or the number itself. -/
def below (i : Interval) (p : Int) : Nat := (inUnits i p).1 / (inUnits i p).2

/-- The decimal nearest to a number. -/
def nearest (i : Interval) (p : Int) : Nat := divideToEven (inUnits i p).1 (inUnits i p).2

theorem roundedTo?_eq (i : Interval) (point : Int) (count : Nat) :
    roundedTo? i point count =
      if readsBack i (nearest i (point - count)) (point - count) then
        some (nearest i (point - count), point - count)
      else none := rfl

theorem choice_eq (inBelow inAbove : Bool) (nearer : Prop) [Decidable nearer] (n k : Nat)
    (p : Int) :
    (if (inBelow && inAbove) = true then some (if nearer then (n, p) else (k, p))
      else if inBelow = true then some (n, p) else if inAbove = true then some (k, p) else none) =
    if inBelow = true then
      if inAbove = true then some (if nearer then n else k, p) else some (n, p)
    else if inAbove = true then some (k, p) else none := by
  cases inBelow with
  | false => rfl
  | true =>
      cases inAbove with
      | false => rfl
      | true =>
          simp only [Bool.and_self, if_true]
          split <;> rfl

/-- Which decimal of a length is taken: the nearest one if both around the number read back. -/
theorem withDigits?_eq {i : Interval} (hden : 0 < i.den) (point : Int) (count : Nat) :
    withDigits? i point count =
      if below i (point - count) ≠ 0 &&
          readsBack i (below i (point - count)) (point - count) then
        if readsBack i (below i (point - count) + 1) (point - count) then
          some (nearest i (point - count), point - count)
        else some (below i (point - count), point - count)
      else if readsBack i (below i (point - count) + 1) (point - count) then
        some (below i (point - count) + 1, point - count)
      else none := by
  rw [withDigits?]
  generalize point - count = p
  have hpos : 0 < (inUnits i p).2 := by
    rw [inUnits]
    split
    · exact Nat.mul_pos hden (Nat.pow_pos (by decide))
    · exact hden
  rw [nearest, divideToEven_eq_ite hpos]
  by_cases hp : 0 ≤ p
  · simp only [below, inUnits, readsBack, if_pos hp, Nat.mul_one]
    exact choice_eq _ _ _ _ _ _
  · simp only [below, inUnits, readsBack, if_neg hp, Nat.mul_one]
    exact choice_eq _ _ _ _ _ _

theorem abs_divideToEven_sub_le (num : Nat) {den : Nat} (hden : 0 < den) :
    |(divideToEven num den : ℚ) - num / den| ≤ 1 / 2 := by
  have hd : (0 : ℚ) < den := Nat.cast_pos.2 hden
  have hsplit : (num : ℚ) = den * (num / den : Nat) + (num % den : Nat) := by
    exact_mod_cast (Nat.div_add_mod num den).symm
  have hquotient : (num : ℚ) / den = (num / den : Nat) + (num % den : Nat) / den := by
    rw [div_eq_iff hd.ne', add_mul, div_mul_cancel₀ _ hd.ne', mul_comm]
    exact hsplit
  rw [hquotient, divideToEven]
  generalize num / den = quotient
  have hrest := Nat.mod_lt num hden
  generalize num % den = rest at hrest
  split
  · next hmore =>
      have hhalf : (den : ℚ) ≤ 2 * rest := by
        have h : den ≤ 2 * rest := by omega
        exact_mod_cast h
      have hone : (rest : ℚ) / den ≤ 1 := (div_le_one hd).2 (by exact_mod_cast hrest.le)
      have hfraction : 1 / 2 ≤ (rest : ℚ) / den := by
        rw [le_div_iff₀ hd]
        linarith
      rw [abs_le]
      push_cast
      constructor <;> linarith
  · next hless =>
      have hhalf : (2 * rest : ℚ) ≤ den := by
        have h : 2 * rest ≤ den := by omega
        exact_mod_cast h
      have hzero : 0 ≤ (rest : ℚ) / den := by positivity
      have hfraction : (rest : ℚ) / den ≤ 1 / 2 := by
        rw [div_le_iff₀ hd]
        linarith
      rw [abs_le]
      constructor <;> linarith

/-- The nearest decimal is at most half a unit from a number. -/
theorem abs_nearest_sub_le (m : Nat) (e p : Int) :
    |(nearest (intervalOf m e) p : ℚ) * 10 ^ p - magnitude m e| ≤ 10 ^ p / 2 := by
  have hpos := ten_zpow_pos p
  have hle := abs_divideToEven_sub_le (inUnits (intervalOf m e) p).1 (inUnits_den_pos m e p)
  rw [inUnits_div] at hle
  have hscale : (nearest (intervalOf m e) p : ℚ) * 10 ^ p - magnitude m e =
      (nearest (intervalOf m e) p - magnitude m e / 10 ^ p) * 10 ^ p := by
    rw [sub_mul, div_mul_cancel₀ _ hpos.ne']
  rw [hscale, abs_mul, abs_of_pos hpos]
  calc _ ≤ 1 / 2 * (10 : ℚ) ^ p := mul_le_mul_of_nonneg_right hle hpos.le
    _ = 10 ^ p / 2 := by ring

theorem ne_zero_of_reaches {m n : Nat} {e p : Int} (hm : 0 < m) (h : Reaches m e (n * 10 ^ p)) :
    n ≠ 0 := by
  rintro rfl
  have hpos := h.pos hm
  rw [Nat.cast_zero, zero_mul] at hpos
  exact lt_irrefl 0 hpos

theorem nearest_or (m : Nat) (e p : Int) :
    nearest (intervalOf m e) p = below (intervalOf m e) p ∨
      nearest (intervalOf m e) p = below (intervalOf m e) p + 1 :=
  divideToEven_or (inUnits_den_pos m e p)

section

variable {m : Nat} {e : Int} (hp : IsProper m e) (hm : 0 < m)

include hp hm

/-- At seventeen digits the decimals lie dense enough. -/
theorem reaches_nearest :
    Reaches m e
      (nearest (intervalOf m e) (pointAt m e - (17 : Nat)) * 10 ^ (pointAt m e - (17 : Nat))) := by
  obtain ⟨hlow, -⟩ := pointOf_spec hp hm
  generalize pointAt m e = point at hlow
  have hunit : (10 : ℚ) ^ (point - 1) = 10 ^ (point - (17 : Nat)) * 10 ^ 16 := by
    have hsum : point - 1 = point - (17 : Nat) + 16 := by omega
    rw [hsum, ten_zpow_add]
    rfl
  have hmantissa : (m : ℚ) < 2 ^ 53 := by exact_mod_cast hp.mantissa
  have hpos := two_zpow_pos e
  rw [magnitude, hunit] at hlow
  -- what is left is that half a unit is less than the room on either side
  refine reaches_of_near ((abs_nearest_sub_le m e _).trans_lt ?_)
  generalize (10 : ℚ) ^ (point - (17 : Nat)) = unit at hlow
  generalize (2 : ℚ) ^ e = step at hlow hpos
  split
  · next hnarrow =>
      have hpower : (m : ℚ) = 2 ^ 52 := by
        rw [hnarrow.1]
        norm_num
      rw [hpower] at hlow
      linarith
  · nlinarith

theorem below_lt (count : Nat) :
    below (intervalOf m e) (pointAt m e - count) < 10 ^ count := by
  obtain ⟨-, hhigh⟩ := pointOf_spec hp hm
  generalize pointAt m e = point at hhigh
  have hden := inUnits_den_pos m e (point - count)
  have hd : (0 : ℚ) < (inUnits (intervalOf m e) (point - count)).2 := Nat.cast_pos.2 hden
  have hpos := ten_zpow_pos (point - count)
  have hless : ((inUnits (intervalOf m e) (point - count)).1 : ℚ) /
      (inUnits (intervalOf m e) (point - count)).2 < 10 ^ count := by
    rw [inUnits_div, div_lt_iff₀ hpos, ← zpow_natCast, ← ten_zpow_add]
    rwa [add_sub_cancel]
  rw [div_lt_iff₀ hd] at hless
  rw [below, Nat.div_lt_iff_lt_mul hden]
  exact_mod_cast hless

theorem nearest_le (count : Nat) :
    nearest (intervalOf m e) (pointAt m e - count) ≤ 10 ^ count := by
  have hbelow := below_lt hp hm count
  rcases nearest_or m e (pointAt m e - count) with h | h
  · omega
  · omega

/-! ## What is found -/

/-- Holds of a decimal with so many digits that reads back. -/
structure Found (m : Nat) (e : Int) (count n : Nat) (p : Int) : Prop where
  reads : Reaches m e (n * 10 ^ p)
  short : n ≤ 10 ^ count

theorem found_of_roundedTo? {count n : Nat} {p : Int}
    (h : roundedTo? (intervalOf m e) (pointAt m e) count = some (n, p)) :
    Found m e count n p := by
  rw [roundedTo?_eq] at h
  split at h
  · next hreads =>
      cases h
      exact ⟨(readsBack_iff hm e _ _).1 hreads, nearest_le hp hm count⟩
  · cases h

theorem found_of_withDigits? {count n : Nat} {p : Int}
    (h : withDigits? (intervalOf m e) (pointAt m e) count = some (n, p)) :
    Found m e count n p := by
  have hbelow := below_lt hp hm count
  rw [withDigits?_eq (intervalOf_den_pos m e)] at h
  split at h
  · next hin =>
      have hreads := (Bool.and_eq_true_iff.1 hin).2
      split at h
      · next habove =>
          cases h
          refine ⟨?_, nearest_le hp hm count⟩
          rcases nearest_or m e (pointAt m e - count) with heq | heq
          · rw [heq]
            exact (readsBack_iff hm e _ _).1 hreads
          · rw [heq]
            exact (readsBack_iff hm e _ _).1 habove
      · cases h
        exact ⟨(readsBack_iff hm e _ _).1 hreads, hbelow.le⟩
  · split at h
    · next habove =>
        cases h
        exact ⟨(readsBack_iff hm e _ _).1 habove, hbelow⟩
    · cases h

theorem roundedTo?_seventeen :
    roundedTo? (intervalOf m e) (pointAt m e) 17 ≠ none := by
  rw [roundedTo?_eq, if_pos ((readsBack_iff hm e _ _).2 (reaches_nearest hp hm))]
  exact Option.some_ne_none _

theorem withDigits?_seventeen :
    withDigits? (intervalOf m e) (pointAt m e) 17 ≠ none := by
  have hreads := reaches_nearest hp hm
  rw [withDigits?_eq (intervalOf_den_pos m e)]
  rcases nearest_or m e (pointAt m e - (17 : Nat)) with heq | heq
  · rw [heq] at hreads
    have hin : (below (intervalOf m e) (pointAt m e - (17 : Nat)) ≠ 0 &&
        readsBack (intervalOf m e) (below (intervalOf m e) (pointAt m e - (17 : Nat)))
          (pointAt m e - (17 : Nat))) = true :=
      Bool.and_eq_true_iff.2 ⟨decide_eq_true (ne_zero_of_reaches hm hreads),
        (readsBack_iff hm e _ _).2 hreads⟩
    rw [if_pos hin]
    split <;> exact Option.some_ne_none _
  · rw [heq] at hreads
    rw [if_pos ((readsBack_iff hm e _ _).2 hreads)]
    split
    · exact Option.some_ne_none _
    · rw [if_pos ((readsBack_iff hm e _ _).2 hreads)]
      exact Option.some_ne_none _

/-- What is known of the decimal that stands for a number: its digits are those of a whole number
without zeros at its end, there are at most seventeen of them, and it reads back. -/
structure Stands (m : Nat) (e : Int) (d : Decimal) (c : Nat) : Prop where
  spells : d.Spells c
  last : c % 10 ≠ 0
  short : c < 10 ^ 17
  reads : Reaches m e (c * 10 ^ (d.point - d.digits.length))

omit hp in
theorem stands_of_found {count n : Nat} {p : Int} (h : Found m e count n p) (hcount : count ≤ 17) :
    ∃ c, Stands m e ⟨trimZeros (digitsOf n), p + (digitsOf n).length⟩ c := by
  obtain ⟨c, k, hpos, hlast, hn, hdigits, hlength⟩ :=
    exists_trimmed (Nat.pos_of_ne_zero (ne_zero_of_reaches hm h.reads))
  have hspells : Spells ⟨trimZeros (digitsOf n), p + (digitsOf n).length⟩ c := ⟨hpos, hdigits⟩
  refine ⟨c, hspells, hlast, ?_, ?_⟩
  · have hle : c ≤ 10 ^ 17 := by
      calc c ≤ c * 10 ^ k := Nat.le_mul_of_pos_right c (Nat.pow_pos (by decide))
        _ = n := hn.symm
        _ ≤ 10 ^ count := h.short
        _ ≤ 10 ^ 17 := Nat.pow_le_pow_right (by decide) hcount
    omega
  · have hexponent : p + ((digitsOf n).length : Int) - (trimZeros (digitsOf n)).length = k + p := by
      have htrimmed := hspells.length
      dsimp only at htrimmed
      omega
    have hvalue : (c : ℚ) * 10 ^ ((k : Int) + p) = n * 10 ^ p := by
      rw [ten_zpow_add, zpow_natCast, hn]
      push_cast
      ring
    dsimp only
    rw [hexponent, hvalue]
    exact h.reads

omit hp in
/-- A search through the counts of digits ends with a decimal that stands for the number. -/
theorem exists_stands (find : Nat → Option (Nat × Int))
    (hfound : ∀ count n p, find count = some (n, p) → Found m e count n p)
    (hsome : find 17 ≠ none) :
    ∃ c, Stands m e (match (List.range 17).findSome? fun k => find (k + 1) with
      | some (n, p) => ⟨trimZeros (digitsOf n), p + (digitsOf n).length⟩
      | none => ⟨[], 0⟩) c := by
  cases hsearch : (List.range 17).findSome? fun k => find (k + 1) with
  | none => exact absurd (List.findSome?_eq_none_iff.1 hsearch 16 (by decide)) hsome
  | some found =>
      obtain ⟨k, hk, heq⟩ := List.exists_of_findSome?_eq_some hsearch
      exact stands_of_found hm (hfound _ _ _ heq) (List.mem_range.1 hk)

theorem exists_stands_rounded : ∃ c, Stands m e (rounded m e) c :=
  exists_stands hm (roundedTo? (intervalOf m e) (pointAt m e))
    (fun _ _ _ => found_of_roundedTo? hp hm) (roundedTo?_seventeen hp hm)

theorem exists_stands_shortest : ∃ c, Stands m e (shortest m e) c :=
  exists_stands hm (withDigits? (intervalOf m e) (pointAt m e))
    (fun _ _ _ => found_of_withDigits? hp hm) (withDigits?_seventeen hp hm)

end

/-! ## Where both ways agree -/

theorem reaches_iff_of_wide {m : Nat} {e : Int} (hwide : ¬ IsNarrow m e) (q : ℚ) :
    Reaches m e q ↔
      if m % 2 = 0 then |q - magnitude m e| ≤ 1 / 2 * 2 ^ e
      else |q - magnitude m e| < 1 / 2 * 2 ^ e := by
  rw [Reaches, lowEnd, highEnd, if_neg hwide, sub_mul, add_mul, abs_le, abs_lt, magnitude]
  split
  · constructor <;> rintro ⟨hlow, hhigh⟩ <;> constructor <;> linarith
  · constructor <;> rintro ⟨hlow, hhigh⟩ <;> constructor <;> linarith

/-- With the same room on both sides, what is nearer to a number reads back if what is farther
does. -/
theorem reaches_of_abs_le {m : Nat} {e : Int} (hwide : ¬ IsNarrow m e) {q r : ℚ}
    (h : |q - magnitude m e| ≤ |r - magnitude m e|) (hr : Reaches m e r) : Reaches m e q := by
  rw [reaches_iff_of_wide hwide] at hr ⊢
  by_cases heven : m % 2 = 0
  · rw [if_pos heven] at hr ⊢
    exact h.trans hr
  · rw [if_neg heven] at hr ⊢
    exact h.trans_lt hr

theorem nearest_le_other {m n : Nat} {e p : Int} (hn : n = below (intervalOf m e) p ∨
      n = below (intervalOf m e) p + 1) :
    |(nearest (intervalOf m e) p : ℚ) * 10 ^ p - magnitude m e| ≤
      |(n : ℚ) * 10 ^ p - magnitude m e| := by
  have hpos := ten_zpow_pos p
  have hhalf := abs_nearest_sub_le m e p
  by_cases heq : n = nearest (intervalOf m e) p
  · rw [heq]
  · -- the two are a whole unit apart, and the nearest takes at most half of it
    have hone : |(n : ℚ) - nearest (intervalOf m e) p| = 1 := by
      rcases nearest_or m e p with h | h
      · obtain rfl : n = nearest (intervalOf m e) p + 1 := by omega
        rw [Nat.cast_add, add_sub_cancel_left, Nat.cast_one, abs_one]
      · have hdown : nearest (intervalOf m e) p = n + 1 := by omega
        rw [hdown, Nat.cast_add, sub_add_cancel_left, Nat.cast_one, abs_neg, abs_one]
    have hunit : |(n : ℚ) * 10 ^ p - nearest (intervalOf m e) p * 10 ^ p| = 10 ^ p := by
      rw [← sub_mul, abs_mul, hone, abs_of_pos hpos, one_mul]
    have htriangle := abs_sub_le ((n : ℚ) * 10 ^ p) (magnitude m e)
      (nearest (intervalOf m e) p * 10 ^ p)
    rw [abs_sub_comm (magnitude m e)] at htriangle
    linarith

/-- Away from powers of two rounding finds the nearest of the shortest decimals. -/
theorem rounded_eq_shortest {m : Nat} (hm : 0 < m) {e : Int} (hwide : ¬ IsNarrow m e) :
    rounded m e = shortest m e := by
  have hcount : ∀ count, roundedTo? (intervalOf m e) (pointAt m e) count =
      withDigits? (intervalOf m e) (pointAt m e) count := by
    intro count
    rw [roundedTo?_eq, withDigits?_eq (intervalOf_den_pos m e)]
    generalize pointAt m e - count = p
    have hnearest : ∀ n, n = below (intervalOf m e) p ∨ n = below (intervalOf m e) p + 1 →
        readsBack (intervalOf m e) n p = true →
          readsBack (intervalOf m e) (nearest (intervalOf m e) p) p = true := by
      intro n hn hreads
      rw [readsBack_iff hm] at hreads ⊢
      exact reaches_of_abs_le hwide (nearest_le_other hn) hreads
    by_cases hreads : readsBack (intervalOf m e) (nearest (intervalOf m e) p) p = true
    · rw [if_pos hreads]
      rcases nearest_or m e p with heq | heq
      · rw [heq] at hreads ⊢
        have hzero := ne_zero_of_reaches hm ((readsBack_iff hm e _ _).1 hreads)
        rw [hreads, if_pos (Bool.and_eq_true_iff.2 ⟨decide_eq_true hzero, rfl⟩)]
        split <;> rfl
      · rw [heq] at hreads ⊢
        rw [if_pos hreads, if_pos hreads]
        split <;> rfl
    · -- if the nearest one does not read back, none of the two around the number does
      rw [if_neg hreads, if_neg, if_neg]
      · exact fun habove => hreads (hnearest _ (.inr rfl) habove)
      · exact fun hin => hreads (hnearest _ (.inl rfl) (Bool.and_eq_true_iff.1 hin).2)
  have hfun : (fun k => roundedTo? (intervalOf m e) (pointAt m e) (k + 1)) =
      fun k => withDigits? (intervalOf m e) (pointAt m e) (k + 1) := funext fun k => hcount (k + 1)
  show (match (List.range 17).findSome? fun k =>
      roundedTo? (intervalOf m e) (pointAt m e) (k + 1) with
    | some (n, p) => ⟨trimZeros (digitsOf n), p + (digitsOf n).length⟩
    | none => ⟨[], 0⟩) = shortest m e
  rw [hfun]
  rfl

end DocExamples.Number.Decimal
