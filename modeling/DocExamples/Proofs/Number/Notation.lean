import DocExamples.Proofs.Number.Digits

/-!
# One decimal in two notations

Scripts and lines of output lay the same digits out by rules of their own. They agree on
numbers of middling size, where both write a point, and on very large and very small ones,
where both write an exponent of two digits or more. In between lies a band of small numbers
which one side writes with a point and the other with an exponent, or which both write with
an exponent of one digit that only one side pads. There no two texts are the same.
-/

namespace DocExamples.Number.Layout

variable {l l' : Layout} {d : Decimal}

theorem text_finite (l : Layout) {m : Nat} (hm : 0 < m) (e : Int) (negative : Bool) :
    l.text (.finite negative m e) =
      (if negative then ['-'] else []) ++ l.decimalText (l.digits m e) := by
  obtain ⟨m, rfl⟩ := Nat.exists_eq_succ_of_ne_zero (Nat.ne_of_gt hm)
  rfl

/-- The digits in front of an exponent. -/
def front (d : Decimal) : List Char :=
  let ds := d.digits.map digitChar
  ds.take 1 ++ if (ds.drop 1).isEmpty then [] else '.' :: ds.drop 1

/-- Holds of a decimal that a format writes without an exponent. -/
def IsPlain (l : Layout) (d : Decimal) : Prop := l.leastPoint ≤ d.point ∧ d.point ≤ l.greatestPoint

theorem decimalText_of_not_isPlain (h : ¬ IsPlain l d) :
    l.decimalText d = front d ++ 'e' :: l.exponentText (d.point - 1) := by
  have houtside : d.point < l.leastPoint ∨ l.greatestPoint < d.point := by
    rw [IsPlain] at h
    omega
  exact if_pos houtside

theorem decimalText_of_isPlain (h : IsPlain l d) :
    l.decimalText d =
      if d.point ≤ 0 then
        "0.".toList ++ List.replicate (-d.point).toNat '0' ++ d.digits.map digitChar
      else if (d.digits.map digitChar).length ≤ d.point.toNat then
        d.digits.map digitChar ++
          List.replicate (d.point.toNat - (d.digits.map digitChar).length) '0' ++
            (if l.keepsFraction then ".0".toList else [])
      else
        (d.digits.map digitChar).take d.point.toNat ++
          '.' :: (d.digits.map digitChar).drop d.point.toNat := by
  obtain ⟨hleast, hgreatest⟩ := h
  exact if_neg (by omega)

/-! ## Exponents -/

theorem exponentText_of_wide (hl : l.exponentWidth ≤ 2) (hl' : l'.exponentWidth ≤ 2) {e : Int}
    (he : 10 ≤ e.natAbs) : l.exponentText e = l'.exponentText e := by
  have hlong : ¬ (natText e.natAbs).length ≤ 1 := by
    rw [length_natText_le Nat.one_pos]
    omega
  have hpad : l.exponentWidth - (natText e.natAbs).length =
      l'.exponentWidth - (natText e.natAbs).length := by omega
  rw [exponentText, exponentText, hpad]

theorem exponentText_data_ne_script {e : Int} (he : e.natAbs < 10) :
    data.exponentText e ≠ script.exponentText e := by
  have hone : (natText e.natAbs).length = 1 := by rw [natText_of_lt he, List.length_singleton]
  intro h
  have hlength := congrArg List.length h
  rw [exponentText, exponentText, hone] at hlength
  simp only [List.length_cons, List.length_append, List.length_replicate, hone, data, script]
    at hlength
  omega

section

variable {c : Nat} (h : d.Spells c)

include h

/-! ## One notation -/

theorem startsDigit_decimalText (l : Layout) :
    ∃ first more, l.decimalText d = first :: more ∧ first.isDigit = true := by
  have hdigits : d.digits.map digitChar = natText c := h.digits
  obtain ⟨first, more, htext⟩ := List.exists_cons_of_ne_nil (natText_ne_nil c)
  have hfirst : first.isDigit = true := by
    refine isDigit_of_mem_natText (n := c) ?_
    rw [htext]
    exact List.mem_cons_self
  by_cases hplain : IsPlain l d
  · rw [decimalText_of_isPlain hplain, hdigits, htext]
    split
    · exact ⟨'0', _, rfl, rfl⟩
    · split
      · exact ⟨first, _, rfl, hfirst⟩
      · next hpos _ =>
          obtain ⟨k, hk⟩ := Int.eq_succ_of_zero_lt (Int.not_le.1 hpos)
          have hwhole : d.point.toNat = k + 1 := by omega
          rw [hwhole]
          exact ⟨first, _, rfl, hfirst⟩
  · rw [decimalText_of_not_isPlain hplain, front, hdigits, htext]
    exact ⟨first, _, rfl, hfirst⟩

theorem mem_decimalText_of_isPlain (hplain : IsPlain l d) {x : Char} (hx : x ∈ l.decimalText d) :
    x.isDigit = true ∨ x = '.' := by
  have hdigits : d.digits.map digitChar = natText c := h.digits
  have hzeros : ∀ n, x ∈ List.replicate n '0' → x.isDigit = true := by
    intro n hmem
    rw [List.eq_of_mem_replicate hmem]
    rfl
  rw [decimalText_of_isPlain hplain, hdigits] at hx
  split at hx
  · rw [List.mem_append, List.mem_append] at hx
    rcases hx with (hmem | hmem) | hmem
    · have hall : "0.".toList.all (fun y => y.isDigit || y == '.') = true := by decide
      simpa using List.all_eq_true.1 hall x hmem
    · exact .inl (hzeros _ hmem)
    · exact .inl (isDigit_of_mem_natText hmem)
  · split at hx
    · rw [List.mem_append, List.mem_append] at hx
      rcases hx with (hmem | hmem) | hmem
      · exact .inl (isDigit_of_mem_natText hmem)
      · exact .inl (hzeros _ hmem)
      · have hall : ".0".toList.all (fun y => y.isDigit || y == '.') = true := by decide
        split at hmem
        · simpa using List.all_eq_true.1 hall x hmem
        · exact absurd hmem List.not_mem_nil
    · rw [List.mem_append, List.mem_cons] at hx
      rcases hx with hmem | heq | hmem
      · exact .inl (isDigit_of_mem_natText (List.mem_of_mem_take hmem))
      · exact .inr heq
      · exact .inl (isDigit_of_mem_natText (List.mem_of_mem_drop hmem))

theorem mem_front {x : Char} (hx : x ∈ front d) : x.isDigit = true ∨ x = '.' := by
  have hdigits : d.digits.map digitChar = natText c := h.digits
  rw [front, hdigits, List.mem_append] at hx
  rcases hx with hmem | hmem
  · exact .inl (isDigit_of_mem_natText (List.mem_of_mem_take hmem))
  · split at hmem
    · exact absurd hmem List.not_mem_nil
    · rcases List.mem_cons.1 hmem with heq | hmem
      · exact .inr heq
      · exact .inl (isDigit_of_mem_natText (List.mem_of_mem_drop hmem))

omit h in
theorem mem_exponentText {e : Int} {x : Char} (hx : x ∈ l.exponentText e) :
    x.isDigit = true ∨ x = '-' ∨ x = '+' := by
  rw [exponentText, List.mem_cons, List.mem_append] at hx
  rcases hx with hsign | hmem | hmem
  · rw [hsign]
    split <;> decide
  · rw [List.eq_of_mem_replicate hmem]
    exact .inl rfl
  · exact .inl (isDigit_of_mem_natText hmem)

theorem mem_decimalText {x : Char} (hx : x ∈ l.decimalText d) :
    x.isDigit = true ∨ x ∈ ['-', '+', '.', 'e'] := by
  by_cases hplain : IsPlain l d
  · refine (mem_decimalText_of_isPlain h hplain hx).imp_right ?_
    rintro rfl
    decide
  · rw [decimalText_of_not_isPlain hplain, List.mem_append, List.mem_cons] at hx
    rcases hx with hmem | rfl | hmem
    · refine (mem_front h hmem).imp_right ?_
      rintro rfl
      decide
    · exact .inr (by decide)
    · refine (mem_exponentText hmem).imp_right ?_
      rintro (rfl | rfl) <;> decide

/-! ## Both notations -/

/-- The same digits make the same text on both sides, but for numbers of four to eight zeros
behind the point. -/
theorem decimalText_data_eq_script_iff (hshort : d.digits.length ≤ 17)
    (hwhole : d.point ≤ 0 ∨ d.point < d.digits.length ∨ 21 < d.point) :
    data.decimalText d = script.decimalText d ↔ ¬ (-8 ≤ d.point ∧ d.point ≤ -4) := by
  have hdata : IsPlain data d ↔ -3 ≤ d.point ∧ d.point ≤ 16 := Iff.rfl
  have hscript : IsPlain script d ↔ -5 ≤ d.point ∧ d.point ≤ 21 := Iff.rfl
  by_cases hin : IsPlain script d
  · by_cases hin' : IsPlain data d
    · -- a point on both sides
      have hband := hdata.1 hin'
      refine iff_of_true ?_ (by omega)
      rw [decimalText_of_isPlain hin, decimalText_of_isPlain hin']
      split
      · rfl
      · rw [if_neg (by rw [List.length_map]; omega)]
        exact (if_neg (by rw [List.length_map]; omega)).symm
    · -- an exponent in the line only
      rw [hdata] at hin'
      have hband := hscript.1 hin
      refine iff_of_false (fun heq => ?_) (by omega)
      have hmem : 'e' ∈ data.decimalText d := by
        rw [decimalText_of_not_isPlain (by rw [hdata]; exact hin')]
        exact List.mem_append_right _ List.mem_cons_self
      exact absurd (mem_decimalText_of_isPlain h hin (heq ▸ hmem)) (by decide)
  · -- an exponent on both sides
    rw [hscript] at hin
    have hin' : ¬ IsPlain data d := by
      rw [hdata]
      omega
    have hin'' : ¬ IsPlain script d := by
      rw [hscript]
      omega
    rw [decimalText_of_not_isPlain hin', decimalText_of_not_isPlain hin'',
      List.append_cancel_left_eq, List.cons_inj_right]
    by_cases hdigit : (d.point - 1).natAbs < 10
    · exact iff_of_false (exponentText_data_ne_script hdigit) (by omega)
    · exact iff_of_true (exponentText_of_wide (Nat.le_refl 2) (by decide) (by omega)) (by omega)

end

end DocExamples.Number.Layout
