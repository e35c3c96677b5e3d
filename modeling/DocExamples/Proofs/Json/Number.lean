import DocExamples.Proofs.Json.Reading
import DocExamples.Proofs.Number.Digits

/-!
# Numbers that are written and read

A number in a text ends where something stands that cannot go on with it, so what is read of
it depends on its own characters only. Whole numbers are read as they were, up to the bound
on digits. Of a decimal the reader sees two things, whatever notation it stands in: its
digits as one whole number and the power of ten that it is multiplied with. Only where no
point and no exponent is written does it come out whole.
-/

namespace DocExamples.Json

open Number

theorem isDigit_eq (c : Char) : isDigit c = c.isDigit := rfl

/-! ## Runs of digits -/

/-- Holds of a text that a run of digits in front of it does not go on with. -/
def EndsDigits (rest : List Char) : Prop := ∀ c, rest.head? = some c → isDigit c = false

theorem EndsNumber.endsDigits {rest : List Char} (h : EndsNumber rest) : EndsDigits rest :=
  fun c hc => (h c hc).1

theorem endsDigits_cons {c : Char} (h : isDigit c = false) (rest : List Char) :
    EndsDigits (c :: rest) := by
  intro d hd
  rwa [← Option.some.inj hd]

theorem span_isDigit {ds rest : List Char} (hds : ∀ c ∈ ds, isDigit c = true)
    (hrest : EndsDigits rest) : (ds ++ rest).span isDigit = (ds, rest) := by
  have hstop : rest.takeWhile isDigit = [] ∧ rest.dropWhile isDigit = rest := by
    cases rest with
    | nil => exact ⟨rfl, rfl⟩
    | cons c rest =>
        have hc := hrest c rfl
        exact ⟨List.takeWhile_cons_of_neg (by rw [hc]; exact Bool.false_ne_true),
          List.dropWhile_cons_of_neg (by rw [hc]; exact Bool.false_ne_true)⟩
  rw [List.span_eq_takeWhile_dropWhile, List.takeWhile_append_of_pos hds,
    List.dropWhile_append_of_pos hds, hstop.1, hstop.2, List.append_nil]

theorem readFraction_of_ends {rest : List Char} (h : rest.head? ≠ some '.') :
    readFraction rest = ([], rest) := by
  cases rest with
  | nil => rfl
  | cons c rest =>
      rw [readFraction]
      rintro more heq
      exact h (congrArg List.head? heq)

theorem readFraction_point {ds rest : List Char} (hne : ds ≠ [])
    (hds : ∀ c ∈ ds, isDigit c = true) (hrest : EndsDigits rest) :
    readFraction ('.' :: (ds ++ rest)) = (ds, rest) := by
  obtain ⟨c, more, rfl⟩ := List.exists_cons_of_ne_nil hne
  rw [readFraction, span_isDigit hds hrest]

theorem readExponent_of_ends {rest : List Char} (h : EndsNumber rest) :
    readExponent rest = none := by
  cases rest with
  | nil => rfl
  | cons c rest =>
      obtain ⟨-, -, hsmall, hbig⟩ := h c rfl
      refine if_neg ?_
      rintro (heq | heq)
      · exact hsmall heq
      · exact hbig heq

theorem readExponent_signed {ds rest : List Char} (hne : ds ≠ [])
    (hds : ∀ c ∈ ds, isDigit c = true) (hrest : EndsDigits rest) (negative : Bool) :
    readExponent ('e' :: (if negative then '-' else '+') :: (ds ++ rest)) =
      some (negative, ds, rest) := by
  obtain ⟨c, more, rfl⟩ := List.exists_cons_of_ne_nil hne
  cases negative with
  | false =>
      show readExponent ('e' :: '+' :: (c :: more ++ rest)) = _
      rw [readExponent, if_pos (.inl rfl)]
      simp only [span_isDigit hds hrest]
  | true =>
      show readExponent ('e' :: '-' :: (c :: more ++ rest)) = _
      rw [readExponent, if_pos (.inl rfl)]
      simp only [span_isDigit hds hrest]

/-! ## Numbers without their sign -/

/-- Holds of the digits in front of a point: no zero stands before others. -/
structure IsWhole (ws : List Char) : Prop where
  digits : ∀ c ∈ ws, isDigit c = true
  head : ws = ['0'] ∨ ws ≠ [] ∧ ws.head? ≠ some '0'

theorem isWhole_natText (n : Nat) : IsWhole (natText n) := by
  refine ⟨fun c => isDigit_of_mem_natText, ?_⟩
  rcases Nat.eq_zero_or_pos n with rfl | hn
  · exact .inl rfl
  · exact .inr ⟨natText_ne_nil n, head?_natText hn⟩

/-- What the parts of a number stand for: the digits in front of the point, those behind it, and
the exponent, if one is written. -/
def ofParts (negative : Bool) (ws fs : List Char) : Option Int → Json
  | none =>
    if fs = [] then .int (if negative then -(Text.natOfDigits ws : Int) else Text.natOfDigits ws)
    else .float (Double.ofDecimal negative (Text.natOfDigits (ws ++ fs)) (0 - fs.length))
  | some shift =>
    .float (Double.ofDecimal negative (Text.natOfDigits (ws ++ fs)) (shift - fs.length))

section

variable {ws fs after rest : List Char} (hws : IsWhole ws) (hafter : EndsDigits after)
  (hfraction : readFraction after = (fs, rest)) (negative : Bool)

include hws hafter hfraction

theorem readMagnitude_of_plain (hrest : EndsNumber rest) :
    readMagnitude negative (ws ++ after) = some (ofParts negative ws fs none, rest) := by
  have hexponent := readExponent_of_ends hrest
  rcases hws.head with rfl | ⟨hne, hhead⟩
  · rw [List.singleton_append, readMagnitude]
    simp only [hfraction, hexponent]
    cases fs <;> rfl
  · rw [readMagnitude]
    · simp only [span_isDigit hws.digits hafter, hfraction, hexponent,
        List.isEmpty_eq_false_iff.2 hne]
      cases fs <;> rfl
    · intro more heq
      obtain ⟨c, inner, rfl⟩ := List.exists_cons_of_ne_nil hne
      exact hhead (congrArg some (List.cons.inj heq).1)

theorem readMagnitude_of_exponent {minus : Bool} {digits last : List Char}
    (hexponent : readExponent rest = some (minus, digits, last)) :
    readMagnitude negative (ws ++ after) =
      some (ofParts negative ws fs (some (if minus then -(Text.natOfDigits digits : Int)
        else Text.natOfDigits digits)), last) := by
  rcases hws.head with rfl | ⟨hne, hhead⟩
  · rw [List.singleton_append, readMagnitude]
    simp only [hfraction, hexponent]
    cases fs <;> rfl
  · rw [readMagnitude]
    · simp only [span_isDigit hws.digits hafter, hfraction, hexponent,
        List.isEmpty_eq_false_iff.2 hne]
      cases fs <;> rfl
    · intro more heq
      obtain ⟨c, inner, rfl⟩ := List.exists_cons_of_ne_nil hne
      exact hhead (congrArg some (List.cons.inj heq).1)

end

/-! ## Numbers with their sign -/

theorem dropWord_of_ne {d c : Char} (h : d ≠ c) (word s : List Char) :
    dropWord (d :: word) (c :: s) = none := by
  refine if_neg ?_
  rw [List.isPrefixOf_cons_cons, beq_false_of_ne h, Bool.false_and]
  exact Bool.false_ne_true

theorem readWord_of_startsNumber {s : List Char} (h : StartsNumber s) : readWord s = none := by
  obtain ⟨c, more, rfl, hc⟩ := h
  have hdrop : ∀ d word, d ≠ '-' → isDigit d = false → dropWord (d :: word) (c :: more) = none := by
    intro d word hminus hdigit
    refine dropWord_of_ne ?_ _ _
    rintro rfl
    rcases hc with heq | heq
    · exact hminus heq
    · rw [hdigit] at heq
      exact Bool.false_ne_true heq
  have hnull : dropWord "null".toList (c :: more) = none := hdrop _ _ (by decide) rfl
  have htrue : dropWord "true".toList (c :: more) = none := hdrop _ _ (by decide) rfl
  have hfalse : dropWord "false".toList (c :: more) = none := hdrop _ _ (by decide) rfl
  have hnan : dropWord "NaN".toList (c :: more) = none := hdrop _ _ (by decide) rfl
  have hinfinity : dropWord "Infinity".toList (c :: more) = none := hdrop _ _ (by decide) rfl
  rw [readWord, hnull, htrue, hfalse, hnan, hinfinity]
  rfl

/-- A number with its sign is read as its digits are, unless it is whole and too long. -/
theorem readPlain_signed {negative : Bool} {body rest : List Char} {j : Json}
    (hstarts : ∃ c more, body = c :: more ∧ isDigit c = true)
    (hread : readMagnitude negative body = some (j, rest))
    (hwritable : ∀ n, j = .int n → isWritable n = true) :
    readPlain ((if negative then ['-'] else []) ++ body) = .ok (j, rest) := by
  obtain ⟨c, more, rfl, hc⟩ := hstarts
  have hnumber : readNumber ((if negative then ['-'] else []) ++ c :: more) = some (j, rest) := by
    cases negative with
    | true =>
        have hword : dropWord "Infinity".toList (c :: more) = none := by
          refine dropWord_of_ne ?_ _ _
          rintro rfl
          exact absurd hc (by decide)
        show readNumber ('-' :: c :: more) = _
        simp only [readNumber, hword]
        exact hread
    | false =>
        refine Eq.trans ?_ hread
        rw [readNumber.eq_def]
        split
        · next heq =>
            rw [(List.cons.inj heq).1] at hc
            exact absurd hc (by decide)
        · rfl
  have hword : readWord ((if negative then ['-'] else []) ++ c :: more) = none := by
    refine readWord_of_startsNumber ?_
    cases negative with
    | true => exact ⟨_, _, rfl, .inl rfl⟩
    | false => exact ⟨_, _, rfl, .inr hc⟩
  rw [readPlain, hword, hnumber]
  cases j with
  | int n => exact if_pos (hwritable n rfl)
  | _ => rfl

/-! ## Whole numbers -/

theorem readMagnitude_natText (negative : Bool) (n : Nat) {rest : List Char}
    (hrest : EndsNumber rest) :
    readMagnitude negative (natText n ++ rest) =
      some (.int (if negative then -(n : Int) else n), rest) := by
  have hfraction : readFraction rest = ([], rest) :=
    readFraction_of_ends fun hpoint => (hrest _ hpoint).2.1 rfl
  rw [readMagnitude_of_plain (isWhole_natText n) hrest.endsDigits hfraction negative hrest,
    ofParts, if_pos rfl, natOfDigits_natText]

theorem intText_eq (n : Int) :
    intText n = (if n < 0 then ['-'] else []) ++ natText n.natAbs := by
  rw [intText]
  split <;> rfl

/-- A whole number with no more digits than allowed is read as it was. -/
theorem readsNumber_int (style : Style) {n : Int} (h : isWritable n = true) :
    ReadsNumber style (.int n) (.int n) := by
  obtain ⟨c, more, htext⟩ := List.exists_cons_of_ne_nil (natText_ne_nil n.natAbs)
  have hc : isDigit c = true := by
    refine isDigit_of_mem_natText (n := n.natAbs) ?_
    rw [htext]
    exact List.mem_cons_self
  have hsign : intText n = (if decide (n < 0) then ['-'] else []) ++ natText n.natAbs := by
    rw [intText_eq]
    simp only [decide_eq_true_eq]
  have hvalue : (if decide (n < 0) then -(n.natAbs : Int) else n.natAbs) = n := by
    by_cases hn : n < 0
    · rw [if_pos (decide_eq_true hn)]
      omega
    · rw [if_neg (by rwa [decide_eq_true_iff])]
      omega
  refine ⟨?_, fun rest hrest => ?_⟩
  · rw [write, intText]
    split
    · exact ⟨_, _, rfl, .inl rfl⟩
    · exact ⟨c, more, htext, .inr hc⟩
  · have hread := readMagnitude_natText (decide (n < 0)) n.natAbs hrest
    rw [hvalue] at hread
    rw [write, hsign, List.append_assoc]
    refine readPlain_signed ⟨c, more ++ rest, by rw [htext, List.cons_append], hc⟩ hread ?_
    exact fun k hk => Json.int.inj hk ▸ h

/-! ## Decimals -/

/-- Holds of a decimal that a format writes without a point and an exponent. -/
def LooksWhole (l : Layout) (d : Decimal) : Prop :=
  0 < d.point ∧ l.leastPoint ≤ d.point ∧ d.point ≤ l.greatestPoint ∧ d.digits.length ≤ d.point

instance (l : Layout) (d : Decimal) : Decidable (LooksWhole l d) :=
  inferInstanceAs (Decidable (_ ∧ _ ∧ _ ∧ _))

/-- What a decimal with the digits of a whole number is read as. -/
def ofDigits (l : Layout) (negative : Bool) (d : Decimal) (c : Nat) : Json :=
  if LooksWhole l d then
    let n : Nat := c * 10 ^ (d.point - d.digits.length).toNat
    .int (if negative then -(n : Int) else n)
  else .float (Double.ofDecimal negative c (d.point - d.digits.length))

theorem readExponent_exponentText (l : Layout) (e : Int) {rest : List Char}
    (hrest : EndsNumber rest) :
    ∃ digits, readExponent ('e' :: l.exponentText e ++ rest) = some (decide (e < 0), digits, rest) ∧
      (if decide (e < 0) then -(Text.natOfDigits digits : Int)
        else Text.natOfDigits digits) = e := by
  refine ⟨List.replicate (l.exponentWidth - (natText e.natAbs).length) '0' ++ natText e.natAbs,
    ?_, ?_⟩
  · have hdigits : ∀ c ∈ List.replicate (l.exponentWidth - (natText e.natAbs).length) '0' ++
        natText e.natAbs, isDigit c = true := by
      intro c hc
      rcases List.mem_append.1 hc with hzero | hin
      · rw [List.eq_of_mem_replicate hzero]
        rfl
      · exact isDigit_of_mem_natText hin
    have hne := List.append_ne_nil_of_right_ne_nil
      (List.replicate (l.exponentWidth - (natText e.natAbs).length) '0') (natText_ne_nil e.natAbs)
    have hread := readExponent_signed hne hdigits hrest.endsDigits (decide (e < 0))
    simp only [decide_eq_true_eq] at hread
    exact hread
  · rw [natOfDigits_zeros_append fun c => isDigit_of_mem_natText, natOfDigits_natText]
    by_cases he : e < 0
    · rw [if_pos (decide_eq_true he)]
      omega
    · rw [if_neg (by rwa [decide_eq_true_iff])]
      omega

section

variable {l : Layout} {d : Decimal} {c : Nat} (h : d.Spells c) (negative : Bool)
  {rest : List Char} (hrest : EndsNumber rest)

include h hrest

theorem readMagnitude_exponentForm :
    readMagnitude negative ((natText c).take 1 ++
        (if ((natText c).drop 1).isEmpty then [] else '.' :: (natText c).drop 1) ++
        'e' :: l.exponentText (d.point - 1) ++ rest) =
      some (.float (Double.ofDecimal negative c (d.point - d.digits.length)), rest) := by
  obtain ⟨digits, hexponent, hshift⟩ := readExponent_exponentText l (d.point - 1) hrest
  have hvalue := natOfDigits_natText c
  have hdigits : ∀ x ∈ natText c, isDigit x = true := fun _ => isDigit_of_mem_natText
  have hhead := head?_natText h.pos
  have hlength := h.length
  obtain ⟨first, more, htext⟩ := List.exists_cons_of_ne_nil (natText_ne_nil c)
  rw [htext] at hvalue hdigits hhead hlength ⊢
  have hwhole : IsWhole [first] := by
    refine ⟨fun x hx => ?_, .inr ⟨List.cons_ne_nil _ _, hhead⟩⟩
    rw [List.mem_singleton.1 hx]
    exact hdigits first List.mem_cons_self
  have hends : EndsDigits ('e' :: l.exponentText (d.point - 1) ++ rest) := endsDigits_cons rfl _
  have hfraction : EndsDigits ((if more.isEmpty then [] else '.' :: more) ++
        ('e' :: l.exponentText (d.point - 1) ++ rest)) ∧
      readFraction ((if more.isEmpty then [] else '.' :: more) ++
        ('e' :: l.exponentText (d.point - 1) ++ rest)) =
          (more, 'e' :: l.exponentText (d.point - 1) ++ rest) := by
    cases more with
    | nil => exact ⟨hends, rfl⟩
    | cons x more =>
        exact ⟨endsDigits_cons rfl _, readFraction_point (List.cons_ne_nil x more)
          (fun y hy => hdigits y (List.mem_cons_of_mem first hy)) hends⟩
  have hread := readMagnitude_of_exponent hwhole hfraction.1 hfraction.2 negative hexponent
  have hjoined : Text.natOfDigits ([first] ++ more) = c := hvalue
  rw [hshift, ofParts, hjoined] at hread
  have hplace : d.point - 1 - (more.length : Int) = d.point - d.digits.length := by
    rw [hlength, List.length_cons]
    omega
  rw [hplace] at hread
  rw [List.append_assoc, List.append_assoc]
  exact hread

theorem readMagnitude_zeroForm (hpoint : d.point ≤ 0) :
    readMagnitude negative ("0.".toList ++ List.replicate (-d.point).toNat '0' ++ natText c ++
        rest) =
      some (.float (Double.ofDecimal negative c (d.point - d.digits.length)), rest) := by
  have hdigits : ∀ x ∈ List.replicate (-d.point).toNat '0' ++ natText c, isDigit x = true := by
    intro x hx
    rcases List.mem_append.1 hx with hzero | hin
    · rw [List.eq_of_mem_replicate hzero]
      rfl
    · exact isDigit_of_mem_natText hin
  have hne := List.append_ne_nil_of_right_ne_nil (List.replicate (-d.point).toNat '0')
    (natText_ne_nil c)
  have hread := readMagnitude_of_plain (isWhole_natText 0) (endsDigits_cons rfl _)
    (readFraction_point hne hdigits hrest.endsDigits) negative hrest
  have hvalue : Text.natOfDigits (natText 0 ++ (List.replicate (-d.point).toNat '0' ++
      natText c)) = c := by
    have hzero : natText 0 = List.replicate 1 '0' := rfl
    rw [hzero, natOfDigits_zeros_append hdigits,
      natOfDigits_zeros_append fun x => isDigit_of_mem_natText, natOfDigits_natText]
  have hplace : 0 - ((List.replicate (-d.point).toNat '0' ++ natText c).length : Int) =
      d.point - d.digits.length := by
    rw [List.length_append, List.length_replicate, h.length]
    omega
  rw [ofParts, if_neg hne, hvalue, hplace] at hread
  rw [List.append_assoc, List.append_assoc, ← List.append_assoc (List.replicate _ _)]
  exact hread

theorem readMagnitude_wholeForm (hpoint : d.digits.length ≤ d.point) :
    readMagnitude negative (natText c ++
        List.replicate (d.point.toNat - (natText c).length) '0' ++ rest) =
      some (.int (if negative then -((c * 10 ^ (d.point - d.digits.length).toNat : Nat) : Int)
        else (c * 10 ^ (d.point - d.digits.length).toNat : Nat)), rest) := by
  have hlength := h.length
  have hzeros : d.point.toNat - (natText c).length = (d.point - d.digits.length).toNat := by omega
  rw [hzeros, ← natText_mul_pow h.pos]
  exact readMagnitude_natText negative _ hrest

theorem readMagnitude_pointForm (hpos : 0 < d.point) (hpoint : d.point < d.digits.length) :
    readMagnitude negative ((natText c).take d.point.toNat ++
        '.' :: (natText c).drop d.point.toNat ++ rest) =
      some (.float (Double.ofDecimal negative c (d.point - d.digits.length)), rest) := by
  have hlength := h.length
  have hdigits : ∀ x ∈ natText c, isDigit x = true := fun _ => isDigit_of_mem_natText
  have hwhole : IsWhole ((natText c).take d.point.toNat) := by
    refine ⟨fun x hx => hdigits x (List.mem_of_mem_take hx), .inr ⟨?_, ?_⟩⟩
    · rw [Ne, List.take_eq_nil_iff]
      rintro (hzero | hnil)
      · omega
      · exact natText_ne_nil c hnil
    · rw [List.head?_take, if_neg (by omega)]
      exact head?_natText h.pos
  have hne : (natText c).drop d.point.toNat ≠ [] := by
    rw [Ne, List.drop_eq_nil_iff]
    omega
  have hread := readMagnitude_of_plain hwhole (endsDigits_cons rfl _)
    (readFraction_point hne (fun x hx => hdigits x (List.mem_of_mem_drop hx)) hrest.endsDigits)
    negative hrest
  have hplace : 0 - (((natText c).drop d.point.toNat).length : Int) =
      d.point - d.digits.length := by
    rw [List.length_drop, ← h.length]
    omega
  rw [ofParts, if_neg hne, List.take_append_drop, natOfDigits_natText, hplace] at hread
  rw [List.append_assoc]
  exact hread

/-- A decimal is read as its digits and its power of ten say, whatever notation a format takes for
it; it comes out whole if neither a point nor an exponent is written. -/
theorem readMagnitude_decimalText (hfraction : l.keepsFraction = false) :
    readMagnitude negative (l.decimalText d ++ rest) = some (ofDigits l negative d c, rest) := by
  have hdigits : d.digits.map Layout.digitChar = natText c := h.digits
  have hlength := h.length
  rw [Layout.decimalText, ofDigits, hdigits]
  dsimp only
  by_cases hexponent : d.point < l.leastPoint ∨ l.greatestPoint < d.point
  · have hnot : ¬ LooksWhole l d := fun ⟨_, _, _, _⟩ => by omega
    rw [if_pos hexponent, if_neg hnot]
    exact readMagnitude_exponentForm h negative hrest
  · rw [if_neg hexponent]
    by_cases hpoint : d.point ≤ 0
    · have hnot : ¬ LooksWhole l d := fun ⟨_, _, _, _⟩ => by omega
      rw [if_pos hpoint, if_neg hnot]
      exact readMagnitude_zeroForm h negative hrest hpoint
    · rw [if_neg hpoint]
      by_cases hwhole : (natText c).length ≤ d.point.toNat
      · have hlooks : LooksWhole l d := ⟨by omega, by omega, by omega, by omega⟩
        rw [if_pos hwhole, if_pos hlooks, hfraction]
        refine Eq.trans ?_ (readMagnitude_wholeForm h negative hrest (by omega))
        exact congrArg (readMagnitude negative <| · ++ rest) (List.append_nil _)
      · have hnot : ¬ LooksWhole l d := fun ⟨_, _, _, _⟩ => by omega
        rw [if_neg hwhole, if_neg hnot]
        exact readMagnitude_pointForm h negative hrest (by omega) (by omega)

end

end DocExamples.Json
