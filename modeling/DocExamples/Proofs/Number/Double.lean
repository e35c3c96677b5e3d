import DocExamples.Number.Arithmetic

/-!
# Whole numbers as doubles

The nearest double of a whole number can be far from it, but it is never on the other
side of zero: `isLess_zero_ofInt` says that a count is positive exactly if its double
is. Rounding starts from a quotient that is at least one, and that is all the
argument uses.
-/

namespace DocExamples.Number.Double

theorem scaleTwo_den_pos (num : Nat) {den : Nat} (hden : 0 < den) (e : Int) :
    0 < (scaleTwo num den e).2 := by
  rw [scaleTwo]
  split
  · exact hden
  · exact Nat.mul_pos hden (Nat.two_pow_pos _)

/-- Scaling down by no more than the leading digit keeps the quotient at least one. -/
theorem scaleTwo_le {n k : Nat} {e : Int} (hn : 2 ^ k ≤ n) (he : -(k : Int) ≤ e) :
    (scaleTwo n 1 e).2 ≤ (scaleTwo n 1 e).1 := by
  have hpos := Nat.two_pow_pos k
  rw [scaleTwo]
  split
  · exact Nat.mul_pos (by omega) (Nat.two_pow_pos _)
  · have hexp : (-e).toNat ≤ k := by omega
    have hpow := Nat.pow_le_pow_right (by decide : 0 < 2) hexp
    show 1 * 2 ^ (-e).toNat ≤ n
    omega

theorem floorLog_one {n : Nat} (hn : n ≠ 0) : floorLog n 1 = n.log2 := by
  have hguess : (n.log2 : Int) - ((1 : Nat).log2 : Int) = n.log2 := Int.sub_zero _
  have hle := scaleTwo_le (Nat.log2_self_le hn) (Int.le_refl _)
  rw [floorLog, hguess]
  exact if_neg (Nat.not_lt.2 hle)

theorem divideToEven_pos {num den : Nat} (hden : 0 < den) (h : den ≤ num) :
    0 < divideToEven num den := by
  have hquotient : 0 < num / den := Nat.div_pos h hden
  rw [divideToEven]
  split <;> omega

/-- A positive whole number has a positive double, or one beyond all others. -/
theorem ofRatio_one {n : Nat} (hn : n ≠ 0) :
    (∃ m e, 0 < m ∧ ofRatio false n 1 = .finite false m e) ∨
      ofRatio false n 1 = .infinite false := by
  have hlog := floorLog_one hn
  have hle := scaleTwo_le (e := -(max leastExponent (floorLog n 1 - 52)))
    (Nat.log2_self_le hn) (by rw [hlog, leastExponent]; omega)
  have hm := divideToEven_pos (scaleTwo_den_pos n Nat.one_pos
    (-(max leastExponent (floorLog n 1 - 52)))) hle
  have hround : ∀ m e, 0 < m → (∃ m' e', 0 < m' ∧
      (if greatestExponent < e then .infinite false else Double.finite false m e) =
        .finite false m' e') ∨
      (if greatestExponent < e then .infinite false else Double.finite false m e) =
        .infinite false := by
    intro m e hm
    split
    · exact .inr rfl
    · exact .inl ⟨m, e, hm, rfl⟩
  rw [ofRatio, if_neg (by omega)]
  dsimp only
  split
  · exact hround _ _ (Nat.two_pow_pos 52)
  · exact hround _ _ hm

theorem isLess_finite (m k : Nat) (e f : Int) :
    isLess (.finite false m e) (.finite false k f) =
      decide (((scaleTwo m 1 e).1 : Int) * (scaleTwo k 1 f).2 <
        (scaleTwo k 1 f).1 * (scaleTwo m 1 e).2) := rfl

theorem scaleTwo_num_pos {num : Nat} (hnum : 0 < num) (den : Nat) (e : Int) :
    0 < (scaleTwo num den e).1 := by
  rw [scaleTwo]
  split
  · exact Nat.mul_pos hnum (Nat.two_pow_pos _)
  · exact hnum

theorem scaleTwo_zero (den : Nat) (e : Int) : (scaleTwo 0 den e).1 = 0 := by
  rw [scaleTwo]
  split
  · exact Nat.zero_mul _
  · rfl

theorem isLess_zero_finite (m : Nat) (e : Int) :
    isLess zero (.finite false m e) = decide (0 < m) := by
  have hden := scaleTwo_den_pos 0 Nat.one_pos leastExponent
  rw [zero, isLess_finite, scaleTwo_zero, decide_eq_decide, Int.natCast_zero, Int.zero_mul]
  constructor
  · intro h
    refine Nat.pos_of_ne_zero ?_
    rintro rfl
    rw [scaleTwo_zero, Int.natCast_zero, Int.zero_mul] at h
    exact Int.lt_irrefl 0 h
  · intro hm
    exact Int.mul_pos (Int.natCast_pos.2 (scaleTwo_num_pos hm 1 e)) (Int.natCast_pos.2 hden)

/-- A count is positive exactly if its double is. -/
theorem isLess_zero_ofInt (n : Nat) : isLess zero (.ofInt n) = decide (0 < n) := by
  have hsign : ofInt n = ofRatio false n 1 := by
    rw [ofInt, Int.natAbs_natCast, decide_eq_false (by omega)]
  cases n with
  | zero =>
    rw [hsign]
    exact isLess_zero_finite 0 leastExponent
  | succ n =>
    rw [hsign, decide_eq_true (Nat.succ_pos n)]
    rcases ofRatio_one (Nat.succ_ne_zero n) with ⟨m, e, hm, heq⟩ | heq
    · rw [heq, isLess_zero_finite, decide_eq_true hm]
    · rw [heq]
      rfl

end DocExamples.Number.Double
