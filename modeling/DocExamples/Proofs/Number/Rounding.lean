import DocExamples.Proofs.Number.Double
import Mathlib.Algebra.Order.Field.Power
import Mathlib.Data.Rat.Cast.Order
import Mathlib.Tactic.FieldSimp
import Mathlib.Tactic.Linarith
import Mathlib.Tactic.NormNum
import Mathlib.Tactic.Positivity
import Mathlib.Tactic.Ring

/-!
# Which sizes read as a number

The computation on doubles is one on whole numbers. What it is about are fractions, so
here each step is given its meaning as a fraction: `scaleTwo` multiplies with a power of
two, `floorLog` finds the power of two below, `divideToEven` rounds.

A positive double stands for an interval of sizes, the ones that are nearer to it than to
any other. `ofRatio_of_reaches` says that all of them read as that double. The interval
is narrower below a power of two, where the doubles lie twice as dense; there the
mantissa of what is read grows beyond its bound and is brought back.
-/

namespace DocExamples.Number.Double

/-! ## The steps as fractions -/

theorem two_zpow_pos (e : Int) : (0 : ℚ) < 2 ^ e := zpow_pos two_pos e

theorem two_zpow_le {e f : Int} : (2 : ℚ) ^ e ≤ 2 ^ f ↔ e ≤ f :=
  zpow_le_zpow_iff_right₀ one_lt_two

theorem two_zpow_lt {e f : Int} : (2 : ℚ) ^ e < 2 ^ f ↔ e < f :=
  zpow_lt_zpow_iff_right₀ one_lt_two

theorem two_zpow_add (e f : Int) : (2 : ℚ) ^ (e + f) = 2 ^ e * 2 ^ f :=
  zpow_add₀ two_ne_zero e f

theorem scaleTwo_div (num den : Nat) (e : Int) :
    ((scaleTwo num den e).1 : ℚ) / (scaleTwo num den e).2 = num / den * 2 ^ e := by
  rw [scaleTwo]
  split
  · next he =>
      obtain ⟨k, rfl⟩ := Int.eq_ofNat_of_zero_le he
      rw [Int.toNat_natCast, zpow_natCast, Nat.cast_mul, Nat.cast_pow, Nat.cast_ofNat]
      ring
  · next he =>
      obtain ⟨k, hk⟩ := Int.eq_ofNat_of_zero_le (a := -e) (by omega)
      obtain rfl : e = -k := by omega
      rw [neg_neg, Int.toNat_natCast, zpow_neg, zpow_natCast, Nat.cast_mul, Nat.cast_pow,
        Nat.cast_ofNat, div_mul_eq_div_div]
      ring

theorem log2_spec {n : Nat} (hn : 0 < n) :
    (2 : ℚ) ^ (n.log2 : Int) ≤ n ∧ (n : ℚ) < 2 ^ ((n.log2 : Int) + 1) := by
  have hlow : 2 ^ n.log2 ≤ n := Nat.log2_self_le (Nat.pos_iff_ne_zero.1 hn)
  have hhigh : n < 2 ^ (n.log2 + 1) := Nat.lt_log2_self
  exact ⟨by exact_mod_cast hlow, by exact_mod_cast hhigh⟩

theorem floorLog_spec {num den : Nat} (hnum : 0 < num) (hden : 0 < den) :
    (2 : ℚ) ^ floorLog num den ≤ num / den ∧ (num / den : ℚ) < 2 ^ (floorLog num den + 1) := by
  have hd : (0 : ℚ) < den := Nat.cast_pos.2 hden
  obtain ⟨hnumLow, hnumHigh⟩ := log2_spec hnum
  obtain ⟨hdenLow, hdenHigh⟩ := log2_spec hden
  -- the logarithms of the parts settle that of the fraction up to one
  generalize hguess : (num.log2 : Int) - den.log2 = guess
  have hlow : (2 : ℚ) ^ (guess - 1) ≤ num / den := by
    rw [le_div_iff₀ hd]
    calc (2 : ℚ) ^ (guess - 1) * den ≤ 2 ^ (guess - 1) * 2 ^ ((den.log2 : Int) + 1) :=
          mul_le_mul_of_nonneg_left hdenHigh.le (two_zpow_pos _).le
      _ = 2 ^ (num.log2 : Int) := by rw [← two_zpow_add]; congr 1; omega
      _ ≤ num := hnumLow
  have hhigh : (num / den : ℚ) < 2 ^ (guess + 1) := by
    rw [div_lt_iff₀ hd]
    calc (num : ℚ) < 2 ^ ((num.log2 : Int) + 1) := hnumHigh
      _ = 2 ^ (guess + 1) * 2 ^ (den.log2 : Int) := by rw [← two_zpow_add]; congr 1; omega
      _ ≤ 2 ^ (guess + 1) * den := mul_le_mul_of_nonneg_left hdenLow (two_zpow_pos _).le
  have hscaled := scaleTwo_div num den (-guess)
  have hpos : (0 : ℚ) < (scaleTwo num den (-guess)).2 :=
    Nat.cast_pos.2 (scaleTwo_den_pos num hden (-guess))
  have hone : (2 : ℚ) ^ (-guess) * 2 ^ guess = 1 := by
    rw [← two_zpow_add, neg_add_cancel, zpow_zero]
  have hback : (num / den : ℚ) * 2 ^ (-guess) * 2 ^ guess = num / den := by
    rw [mul_assoc, hone, mul_one]
  rw [floorLog, hguess]
  dsimp only
  split
  · next hless =>
      have hlt : (num / den : ℚ) * 2 ^ (-guess) < 1 := by
        rw [← hscaled, div_lt_one hpos]
        exact_mod_cast hless
      refine ⟨hlow, ?_⟩
      rw [sub_add_cancel, ← hback]
      exact mul_lt_of_lt_one_left (two_zpow_pos _) hlt
  · next hmore =>
      have hle : 1 ≤ (num / den : ℚ) * 2 ^ (-guess) := by
        rw [← hscaled, one_le_div hpos]
        exact_mod_cast Nat.le_of_not_lt hmore
      refine ⟨?_, hhigh⟩
      rw [← hback]
      exact le_mul_of_one_le_left (two_zpow_pos _).le hle

/-- A fraction that is at most a half from a whole number is rounded to it. A half goes to the even
number of the two. -/
theorem divideToEven_eq {num den n : Nat} (hden : 0 < den)
    (hlow : (n : ℚ) - 1 / 2 ≤ num / den) (hhigh : (num / den : ℚ) ≤ n + 1 / 2)
    (heven : n % 2 = 1 → (n : ℚ) - 1 / 2 < num / den ∧ (num / den : ℚ) < n + 1 / 2) :
    divideToEven num den = n := by
  have hd : (0 : ℚ) < den := Nat.cast_pos.2 hden
  have hlow' : 2 * n * den ≤ 2 * num + den := by
    rw [le_div_iff₀ hd] at hlow
    have h : (2 * n * den : ℚ) ≤ 2 * num + den := by linarith
    exact_mod_cast h
  have hhigh' : 2 * num ≤ (2 * n + 1) * den := by
    rw [div_le_iff₀ hd] at hhigh
    have h : (2 * num : ℚ) ≤ (2 * n + 1) * den := by linarith
    exact_mod_cast h
  have hodd : n % 2 = 1 → 2 * n * den < 2 * num + den ∧ 2 * num < (2 * n + 1) * den := by
    intro hn
    obtain ⟨hl, hh⟩ := heven hn
    rw [lt_div_iff₀ hd] at hl
    rw [div_lt_iff₀ hd] at hh
    have h1 : (2 * n * den : ℚ) < 2 * num + den := by linarith
    have h2 : (2 * num : ℚ) < (2 * n + 1) * den := by linarith
    exact ⟨by exact_mod_cast h1, by exact_mod_cast h2⟩
  have hsplit := Nat.div_add_mod num den
  have hrest := Nat.mod_lt num hden
  rw [divideToEven]
  generalize num / den = quotient at hsplit
  generalize num % den = rest at hsplit hrest
  have hle : quotient ≤ n := by
    by_contra hlt
    have hmul : (n + 1) * den ≤ quotient * den := Nat.mul_le_mul_right den (by omega)
    nlinarith
  have hge : n ≤ quotient + 1 := by
    by_contra hlt
    have hmul : (quotient + 2) * den ≤ n * den := Nat.mul_le_mul_right den (by omega)
    nlinarith
  -- `n` is the quotient or the next number, and the rest says which of them is taken
  obtain rfl | rfl : quotient = n ∨ quotient + 1 = n := by omega
  · have hhalf : 2 * rest ≤ den := by nlinarith
    refine if_neg ?_
    rintro (hmore | ⟨hequal, hodd'⟩)
    · omega
    · have hless := (hodd hodd').2
      nlinarith
  · have hhalf : den ≤ 2 * rest := by nlinarith
    refine if_pos ?_
    by_cases hequal : 2 * rest = den
    · refine .inr ⟨hequal, ?_⟩
      by_contra heven'
      have hmore := (hodd (by omega)).1
      nlinarith
    · exact .inl (by omega)

/-! ## The sizes around a number -/

/-- The parts of a finite number: the mantissa has at most 53 digits in base two, and less of them
only where the exponent cannot be smaller. -/
structure IsProper (m : Nat) (e : Int) : Prop where
  mantissa : m < 2 ^ 53
  least : leastExponent ≤ e
  greatest : e ≤ greatestExponent
  normal : 2 ^ 52 ≤ m ∨ e = leastExponent

/-- Holds of powers of two with smaller numbers twice as dense below them. -/
def IsNarrow (m : Nat) (e : Int) : Prop := m = 2 ^ 52 ∧ leastExponent < e

instance (m : Nat) (e : Int) : Decidable (IsNarrow m e) :=
  inferInstanceAs (Decidable (m = 2 ^ 52 ∧ leastExponent < e))

/-- The size of a finite number. -/
def magnitude (m : Nat) (e : Int) : ℚ := m * 2 ^ e

/-- The lower end of the sizes that read as a number. -/
def lowEnd (m : Nat) (e : Int) : ℚ := (m - if IsNarrow m e then 1 / 4 else 1 / 2) * 2 ^ e

/-- The upper end of the sizes that read as a number. -/
def highEnd (m : Nat) (e : Int) : ℚ := (m + 1 / 2) * 2 ^ e

/-- Holds of the sizes that read as a number. The ends belong to them if the mantissa is even. -/
def Reaches (m : Nat) (e : Int) (q : ℚ) : Prop :=
  if m % 2 = 0 then lowEnd m e ≤ q ∧ q ≤ highEnd m e else lowEnd m e < q ∧ q < highEnd m e

theorem Reaches.bounds {m : Nat} {e : Int} {q : ℚ} (h : Reaches m e q) :
    lowEnd m e ≤ q ∧ q ≤ highEnd m e := by
  rw [Reaches] at h
  split at h
  · exact h
  · exact ⟨h.1.le, h.2.le⟩

theorem Reaches.strict {m : Nat} {e : Int} {q : ℚ} (h : Reaches m e q) (hodd : m % 2 = 1) :
    lowEnd m e < q ∧ q < highEnd m e := by
  rwa [Reaches, if_neg (by omega)] at h

theorem le_lowEnd (m : Nat) (e : Int) : (m - 1 / 2) * 2 ^ e ≤ lowEnd m e := by
  refine mul_le_mul_of_nonneg_right ?_ (two_zpow_pos e).le
  split <;> linarith

theorem lowEnd_pos {m : Nat} (hm : 0 < m) (e : Int) : 0 < lowEnd m e := by
  have hone : (1 : ℚ) ≤ m := by exact_mod_cast hm
  refine lt_of_lt_of_le (mul_pos ?_ (two_zpow_pos e)) (le_lowEnd m e)
  linarith

theorem Reaches.pos {m : Nat} {e : Int} {q : ℚ} (h : Reaches m e q) (hm : 0 < m) : 0 < q :=
  lt_of_lt_of_le (lowEnd_pos hm e) h.bounds.1

/-- A number with an odd mantissa reads only sizes below the next power of two. -/
theorem Reaches.lt_zpow {m : Nat} {e : Int} {q : ℚ} (h : Reaches m e q) (hp : IsProper m e) :
    q < 2 ^ (e + 53) := by
  have hm : (m : ℚ) + 1 ≤ 2 ^ 53 := by exact_mod_cast hp.mantissa
  calc q ≤ (m + 1 / 2) * 2 ^ e := h.bounds.2
    _ < 2 ^ 53 * 2 ^ e := mul_lt_mul_of_pos_right (by linarith) (two_zpow_pos e)
    _ = 2 ^ (e + 53) := by rw [two_zpow_add, mul_comm]; rfl


/-! ## Reading a size -/

theorem divideToEven_scaleTwo {num den n : Nat} (hden : 0 < den) (e : Int)
    (hlow : ((n : ℚ) - 1 / 2) * 2 ^ e ≤ num / den)
    (hhigh : (num / den : ℚ) ≤ (n + 1 / 2) * 2 ^ e)
    (heven : n % 2 = 1 →
      ((n : ℚ) - 1 / 2) * 2 ^ e < num / den ∧ (num / den : ℚ) < (n + 1 / 2) * 2 ^ e) :
    divideToEven (scaleTwo num den (-e)).1 (scaleTwo num den (-e)).2 = n := by
  have hpos := two_zpow_pos e
  have hscaled : ((scaleTwo num den (-e)).1 : ℚ) / (scaleTwo num den (-e)).2 =
      num / den / 2 ^ e := by
    rw [scaleTwo_div, zpow_neg, ← div_eq_mul_inv]
  refine divideToEven_eq (scaleTwo_den_pos num hden (-e)) ?_ ?_ ?_
  · rwa [hscaled, le_div_iff₀ hpos]
  · rwa [hscaled, div_le_iff₀ hpos]
  · intro hodd
    rw [hscaled, lt_div_iff₀ hpos, div_lt_iff₀ hpos]
    exact heven hodd

theorem ofRatio_eq {num den : Nat} (hnum : 0 < num) (hden : 0 < den) {e : Int} {n : Nat}
    (he : max leastExponent (floorLog num den - 52) = e)
    (hn : divideToEven (scaleTwo num den (-e)).1 (scaleTwo num den (-e)).2 = n)
    (negative : Bool) :
    ofRatio negative num den =
      if n = 2 ^ 53 then
        if greatestExponent < e + 1 then .infinite negative else .finite negative (2 ^ 52) (e + 1)
      else if greatestExponent < e then .infinite negative else .finite negative n e := by
  rw [ofRatio, if_neg (by omega)]
  dsimp only
  rw [he, hn]
  split <;> rfl

/-- Of the numbers whose exponent can be smaller, only a power of two reads sizes below it. -/
theorem Reaches.eq_of_lt {m : Nat} {e : Int} {q : ℚ} (h : Reaches m e q) (hp : IsProper m e)
    (hmore : leastExponent < e) (hsmall : q < 2 ^ (e + 52)) : m = 2 ^ 52 := by
  have hpower : (2 : ℚ) ^ (e + 52) = 2 ^ 52 * 2 ^ e := by rw [two_zpow_add, mul_comm]; rfl
  have hpos := two_zpow_pos e
  by_contra hne
  have hlarge : 2 ^ 52 + 1 ≤ m := by
    have hnormal := hp.normal
    omega
  have hlarge' : (2 ^ 52 + 1 : ℚ) ≤ m := by exact_mod_cast hlarge
  have hle := (le_lowEnd m e).trans h.bounds.1
  nlinarith

/-- Just below a power of two the next smaller exponent is found, and the mantissa carries. -/
theorem ofRatio_of_below {num den : Nat} (hnum : 0 < num) (hden : 0 < den) {e : Int}
    (hmore : leastExponent < e) (hgreatest : e ≤ greatestExponent)
    (hlow : ((2 : ℚ) ^ 52 - 1 / 4) * 2 ^ e ≤ num / den)
    (hsmall : (num / den : ℚ) < 2 ^ (e + 52)) (negative : Bool) :
    ofRatio negative num den = .finite negative (2 ^ 52) e := by
  obtain ⟨hfloor, hceil⟩ := floorLog_spec hnum hden
  have hpos := two_zpow_pos e
  have hpos' := two_zpow_pos (e - 1)
  have hpower : (2 : ℚ) ^ (e + 52) = 2 ^ 52 * 2 ^ e := by rw [two_zpow_add, mul_comm]; rfl
  have hpower' : (2 : ℚ) ^ (e + 51) = 2 ^ 51 * 2 ^ e := by rw [two_zpow_add, mul_comm]; rfl
  have hhalf : (2 : ℚ) ^ e = 2 * 2 ^ (e - 1) := by
    rw [zpow_sub_one₀ two_ne_zero]
    ring
  have he : max leastExponent (floorLog num den - 52) = e - 1 := by
    have hlog : floorLog num den < e + 52 := two_zpow_lt.1 (hfloor.trans_lt hsmall)
    have hge : (2 : ℚ) ^ (e + 51) ≤ num / den := by
      rw [hpower']
      nlinarith
    have hlog' := two_zpow_lt.1 (hge.trans_lt hceil)
    omega
  have hn : divideToEven (scaleTwo num den (-(e - 1))).1 (scaleTwo num den (-(e - 1))).2 =
      2 ^ 53 := by
    rw [hhalf] at hlow
    rw [hpower, hhalf] at hsmall
    refine divideToEven_scaleTwo hden (e - 1) ?_ ?_ fun hodd => absurd hodd (by decide)
    · push_cast
      linarith
    · push_cast
      linarith
  rw [ofRatio_eq hnum hden he hn, if_pos rfl, if_neg (by omega), sub_add_cancel]

/-- The sizes around a number read as that number. -/
theorem ofRatio_of_reaches {m num den : Nat} {e : Int} (hp : IsProper m e) (hm : 0 < m)
    (hden : 0 < den) (h : Reaches m e (num / den)) (negative : Bool) :
    ofRatio negative num den = .finite negative m e := by
  have hd : (0 : ℚ) < den := Nat.cast_pos.2 hden
  have hnum : 0 < num := by
    have hpos := h.pos hm
    rw [lt_div_iff₀ hd, zero_mul] at hpos
    exact_mod_cast hpos
  by_cases hbelow : (num / den : ℚ) < 2 ^ (e + 52) ∧ leastExponent < e
  · obtain ⟨hsmall, hmore⟩ := hbelow
    obtain rfl := h.eq_of_lt hp hmore hsmall
    have hlow := h.bounds.1
    rw [lowEnd, if_pos ⟨rfl, hmore⟩] at hlow
    exact ofRatio_of_below hnum hden hmore hp.greatest (by exact_mod_cast hlow) hsmall negative
  · obtain ⟨hfloor, hceil⟩ := floorLog_spec hnum hden
    obtain ⟨hleast, hgreatest⟩ : leastExponent ≤ e ∧ e ≤ greatestExponent :=
      ⟨hp.least, hp.greatest⟩
    have hlt : floorLog num den < e + 53 := two_zpow_lt.1 (hfloor.trans_lt (h.lt_zpow hp))
    have he : max leastExponent (floorLog num den - 52) = e := by
      rcases Int.lt_or_eq_of_le hleast with hmore | rfl
      · have hge : (2 : ℚ) ^ (e + 52) ≤ num / den := by
          by_contra hsmall
          exact hbelow ⟨not_le.1 hsmall, hmore⟩
        have hlog := two_zpow_lt.1 (hge.trans_lt hceil)
        omega
      · omega
    have hn := divideToEven_scaleTwo hden e ((le_lowEnd m e).trans h.bounds.1) h.bounds.2
      fun hodd => ⟨(le_lowEnd m e).trans_lt (h.strict hodd).1, (h.strict hodd).2⟩
    have hmantissa := hp.mantissa
    rw [ofRatio_eq hnum hden he hn, if_neg (by omega), if_neg (by omega)]

/-! ## Reading a decimal -/

theorem ten_zpow_pos (x : Int) : (0 : ℚ) < 10 ^ x := zpow_pos (by norm_num) x

theorem eight_zpow (x : Int) : (8 : ℚ) ^ x = 2 ^ (3 * x) := by
  have hcube : (8 : ℚ) = 2 ^ (3 : Int) := by norm_num
  rw [hcube, ← zpow_mul]

theorem two_zpow_le_ten_zpow {x : Int} (hx : 0 ≤ x) : (2 : ℚ) ^ (3 * x) ≤ 10 ^ x := by
  rw [← eight_zpow]
  exact zpow_le_zpow_left₀ hx (by norm_num) (by norm_num)

theorem ten_zpow_le_two_zpow {x : Int} (hx : x ≤ 0) : (10 : ℚ) ^ x ≤ 2 ^ (3 * x) := by
  obtain ⟨k, rfl⟩ : ∃ k, x = -k := ⟨-x, by omega⟩
  rw [mul_neg, zpow_neg, zpow_neg]
  exact inv_anti₀ (two_zpow_pos _) (two_zpow_le_ten_zpow (by omega))

theorem Reaches.ge_zpow {m : Nat} {e : Int} {q : ℚ} (h : Reaches m e q) (hp : IsProper m e)
    (hm : 0 < m) : (2 : ℚ) ^ (-1075 : Int) ≤ q := by
  have hone : (1 : ℚ) ≤ m := by exact_mod_cast hm
  have hleast : (-1074 : Int) ≤ e := hp.least
  calc (2 : ℚ) ^ (-1075 : Int) ≤ 2 ^ (e - 1) := two_zpow_le.2 (by omega)
    _ = 1 / 2 * 2 ^ e := by rw [zpow_sub_one₀ two_ne_zero]; ring
    _ ≤ (m - 1 / 2) * 2 ^ e := mul_le_mul_of_nonneg_right (by linarith) (two_zpow_pos e).le
    _ ≤ q := (le_lowEnd m e).trans h.bounds.1

/-- A decimal among the sizes around a number is read as that number. -/
theorem ofDecimal_of_reaches {m c : Nat} {e x : Int} (hp : IsProper m e) (hm : 0 < m)
    (hc : c < 2 ^ 60) (h : Reaches m e (c * 10 ^ x)) (negative : Bool) :
    ofDecimal negative c x = .finite negative m e := by
  have hpos := h.pos hm
  have hc0 : 0 < c := by
    rcases Nat.eq_zero_or_pos c with rfl | hc0
    · rw [Nat.cast_zero, zero_mul] at hpos
      exact absurd hpos (lt_irrefl 0)
    · exact hc0
  have hlog : c.log2 < 60 := (Nat.log2_lt (Nat.pos_iff_ne_zero.1 hc0)).2 hc
  have hupper : x < 383 := by
    by_contra hlarge
    have hgreatest : e ≤ 971 := hp.greatest
    have hone : (1 : ℚ) ≤ c := by exact_mod_cast hc0
    have hmore : (2 : ℚ) ^ (3 * x) ≤ c * 10 ^ x :=
      (two_zpow_le_ten_zpow (by omega)).trans (le_mul_of_one_le_left (ten_zpow_pos x).le hone)
    have hless := two_zpow_lt.1 (hmore.trans_lt (h.lt_zpow hp))
    omega
  have hlower : -400 ≤ x := by
    by_contra hsmall
    have hc' : (c : ℚ) < 2 ^ (60 : Int) := by exact_mod_cast hc
    have hless : (c : ℚ) * 10 ^ x < 2 ^ (60 + 3 * x) := by
      rw [two_zpow_add]
      exact mul_lt_mul hc' (ten_zpow_le_two_zpow (by omega)) (ten_zpow_pos x) (two_zpow_pos _).le
    have hmore := two_zpow_lt.1 ((h.ge_zpow hp hm).trans_lt hless)
    omega
  rw [ofDecimal, if_neg (by omega), if_neg (by omega), if_neg (by omega)]
  split
  · next hx =>
      refine ofRatio_of_reaches hp hm Nat.one_pos ?_ negative
      obtain ⟨k, rfl⟩ := Int.eq_ofNat_of_zero_le hx
      rw [zpow_natCast] at h
      rw [Int.toNat_natCast, Nat.cast_one, div_one]
      exact_mod_cast h
  · next hx =>
      refine ofRatio_of_reaches hp hm (Nat.pow_pos (by decide)) ?_ negative
      obtain ⟨k, hk⟩ := Int.eq_ofNat_of_zero_le (a := -x) (by omega)
      obtain rfl : x = -k := by omega
      rw [zpow_neg, zpow_natCast, ← div_eq_mul_inv] at h
      rw [neg_neg, Int.toNat_natCast]
      exact_mod_cast h

end DocExamples.Number.Double
