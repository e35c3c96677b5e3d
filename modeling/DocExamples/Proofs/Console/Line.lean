import DocExamples.Proofs.Json.Comparison
import DocExamples.Proofs.Json.Number
import DocExamples.Proofs.Number.Notation
import DocExamples.Proofs.Number.Shortest
import DocExamples.Proofs.Sandbox.Exchange

/-!
# Lines of output and what scripts wrote

A script hands the values of a line over as JSON, and the host reads them and writes each of
them again. Names, texts and the marks between values come out as they went in. Numbers
are written anew, by the rules of the host: a number without a point and an exponent is
read as a whole number and comes out as it was, any other is read as the number that the
script had. Its digits are the same on both sides, powers of two apart, and it changes its
notation only if it is small: from four to eight zeros behind the point the line has an
exponent of two digits, where the script writes the zeros or one digit.
-/

namespace DocExamples.Console

open Number Json

/-! ## Numbers of scripts -/

/-- The whole number that a decimal stands for, if no digit stands behind its point. -/
def wholeOf (d : Decimal) : Nat :=
  Text.natOfDigits (d.digits.map Layout.digitChar) * 10 ^ (d.point - d.digits.length).toNat

/-- What the host reads where a script writes a number. -/
def hostNumber : Json → Json
  | .float (.finite negative m e) =>
    if m = 0 then .int 0
    else if LooksWhole Layout.script (Decimal.rounded m e) then
      .int (if negative then -(wholeOf (Decimal.rounded m e) : Int)
        else wholeOf (Decimal.rounded m e))
    else .float (.finite negative m e)
  | n => n

/-- Holds of the numbers that scripts write as JSON. -/
def IsScriptNumber (n : Json) : Prop :=
  ∃ negative m e, n = .float (.finite negative m e) ∧ Double.IsProper m e

/-- Holds of a decimal with four to eight zeros between its point and its digits. -/
def IsSmall (d : Decimal) : Prop := -8 ≤ d.point ∧ d.point ≤ -4

instance (d : Decimal) : Decidable (IsSmall d) := inferInstanceAs (Decidable (_ ∧ _))

/-- The sign in front of a number. -/
def sign (negative : Bool) : List Char := if negative then ['-'] else []

theorem write_float {style : Style} {m : Nat} (hm : 0 < m) (e : Int) (negative : Bool) :
    write style (.float (.finite negative m e)) =
      sign negative ++ style.numbers.decimalText (style.numbers.digits m e) :=
  Layout.text_finite _ hm e negative

theorem write_zero (e : Int) (negative : Bool) :
    write Style.script (.float (.finite negative 0 e)) = natText 0 := by
  cases negative <;> rfl

theorem write_int (style : Style) {n : Nat} (hn : 0 < n) (negative : Bool) :
    write style (.int (if negative then -(n : Int) else n)) = sign negative ++ natText n := by
  rw [write, intText_eq]
  cases negative with
  | true => rw [if_pos rfl, if_pos (by omega), Int.natAbs_neg, Int.natAbs_natCast]; rfl
  | false =>
      rw [if_neg Bool.false_ne_true, if_neg (by omega), Int.natAbs_natCast]
      rfl

section

variable {d : Decimal} {c : Nat} (h : d.Spells c)

include h

theorem wholeOf_eq : wholeOf d = c * 10 ^ (d.point - d.digits.length).toNat := by
  have hdigits : d.digits.map Layout.digitChar = natText c := h.digits
  rw [wholeOf, hdigits, natOfDigits_natText]

theorem wholeOf_pos : 0 < wholeOf d := by
  rw [wholeOf_eq h]
  exact Nat.mul_pos h.pos (Nat.pow_pos (by decide))

theorem natText_wholeOf : natText (wholeOf d) =
    natText c ++ List.replicate (d.point - d.digits.length).toNat '0' := by
  rw [wholeOf_eq h, natText_mul_pow h.pos]

theorem decimalText_of_looksWhole (hwhole : LooksWhole Layout.script d) :
    Layout.script.decimalText d = natText (wholeOf d) := by
  have hdigits : d.digits.map Layout.digitChar = natText c := h.digits
  have hlength := h.length
  obtain ⟨hpos, hleast, hgreatest, hlong⟩ := hwhole
  have hzeros : d.point.toNat - (natText c).length = (d.point - d.digits.length).toNat := by omega
  rw [Layout.decimalText_of_isPlain ⟨hleast, hgreatest⟩, if_neg (by omega), hdigits,
    if_pos (by omega), hzeros, natText_wholeOf h]
  exact List.append_nil _

theorem isWritable_wholeOf (hwhole : LooksWhole Layout.script d) (negative : Bool) :
    isWritable (if negative then -(wholeOf d : Int) else wholeOf d) = true := by
  have hlength := h.length
  obtain ⟨hpos, -, hgreatest, hlong⟩ := hwhole
  have hmost : d.point ≤ 21 := hgreatest
  have hshort : (natText (wholeOf d)).length ≤ digitLimit := by
    rw [natText_wholeOf h, List.length_append, List.length_replicate, digitLimit]
    omega
  have hlt := (length_natText_le (by decide)).1 hshort
  rw [isWritable, decide_eq_true_iff]
  cases negative with
  | true => rwa [if_pos rfl, Int.natAbs_neg, Int.natAbs_natCast]
  | false => rwa [if_neg Bool.false_ne_true, Int.natAbs_natCast]

end

section

variable {m : Nat} {e : Int} (negative : Bool)

theorem hostNumber_of_looksWhole (hm : 0 < m)
    (hwhole : LooksWhole Layout.script (Decimal.rounded m e)) :
    hostNumber (.float (.finite negative m e)) =
      .int (if negative then -(wholeOf (Decimal.rounded m e) : Int)
        else wholeOf (Decimal.rounded m e)) :=
  (if_neg (Nat.ne_of_gt hm)).trans (if_pos hwhole)

theorem hostNumber_of_not_looksWhole (hm : 0 < m)
    (hwhole : ¬ LooksWhole Layout.script (Decimal.rounded m e)) :
    hostNumber (.float (.finite negative m e)) = .float (.finite negative m e) :=
  (if_neg (Nat.ne_of_gt hm)).trans (if_neg hwhole)

/-- The number that is read in the digits a script has written is the script's own. -/
theorem ofDigits_eq_hostNumber (hp : Double.IsProper m e) (hm : 0 < m) {c : Nat}
    (hc : Decimal.Stands m e (Decimal.rounded m e) c) :
    Json.ofDigits Layout.script negative (Decimal.rounded m e) c =
      hostNumber (.float (.finite negative m e)) := by
  rw [Json.ofDigits]
  split
  · next hwhole => rw [hostNumber_of_looksWhole negative hm hwhole, wholeOf_eq hc.spells]
  · next hwhole =>
      rw [hostNumber_of_not_looksWhole negative hm hwhole]
      exact congrArg Json.float
        (Double.ofDecimal_of_reaches hp hm (hc.short.trans (by decide)) hc.reads negative)

end

/-- The host reads every number of a script. -/
theorem readsNumber_hostNumber {n : Json} (h : IsScriptNumber n) :
    ReadsNumber Style.script n (hostNumber n) := by
  obtain ⟨negative, m, e, rfl, hp⟩ := h
  rcases Nat.eq_zero_or_pos m with rfl | hm
  · refine ⟨?_, fun rest hrest => ?_⟩
    · rw [write_zero]
      exact ⟨'0', [], rfl, .inr rfl⟩
    · rw [write_zero]
      refine @readPlain_signed false _ rest _ ⟨'0', rest, rfl, rfl⟩
        (readMagnitude_natText false 0 hrest) ?_
      rintro _ ⟨⟩
      exact decide_eq_true (Nat.pow_pos (by decide))
  · obtain ⟨c, hc⟩ := Decimal.exists_stands_rounded hp hm
    obtain ⟨first, more, htext, hfirst⟩ := Layout.startsDigit_decimalText hc.spells Layout.script
    have hwrite : write Style.script (.float (.finite negative m e)) =
        sign negative ++ Layout.script.decimalText (Decimal.rounded m e) :=
      write_float hm e negative
    refine ⟨?_, fun rest hrest => ?_⟩
    · rw [hwrite, htext]
      cases negative with
      | true => exact ⟨'-', first :: more, rfl, .inl rfl⟩
      | false => exact ⟨first, more, rfl, .inr hfirst⟩
    · rw [hwrite, List.append_assoc, ← ofDigits_eq_hostNumber negative hp hm hc]
      refine readPlain_signed ⟨first, more ++ rest, by rw [htext]; rfl, hfirst⟩
        (readMagnitude_decimalText hc.spells negative hrest rfl) ?_
      intro k hk
      rw [Json.ofDigits] at hk
      split at hk
      · next hwhole =>
          rw [← wholeOf_eq hc.spells] at hk
          rw [← Json.int.inj hk]
          exact isWritable_wholeOf hc.spells hwhole negative
      · cases hk

/-! ## The characters of numbers -/

theorem isNumberMark_of_isDigit {x : Char} (h : x.isDigit = true) : isNumberMark x = true := by
  rw [isNumberMark, isDigit_eq, h, Bool.true_or]

theorem isNumberText_sign_append (negative : Bool) {s : List Char} (hs : IsNumberText s) :
    IsNumberText (sign negative ++ s) := by
  intro x hx
  rcases List.mem_append.1 hx with hsign | hmem
  · cases negative with
    | true =>
        rw [List.mem_singleton.1 hsign]
        rfl
    | false => exact absurd hsign List.not_mem_nil
  · exact hs x hmem

theorem isNumberText_natText (n : Nat) : IsNumberText (natText n) :=
  fun _ hx => isNumberMark_of_isDigit (isDigit_of_mem_natText hx)

theorem isNumberText_decimalText {d : Decimal} {c : Nat} (h : d.Spells c) (l : Layout) :
    IsNumberText (l.decimalText d) := by
  intro x hx
  rcases Layout.mem_decimalText h hx with hdigit | hmark
  · exact isNumberMark_of_isDigit hdigit
  · have hall : ['-', '+', '.', 'e'].all isNumberMark = true := by decide
    exact List.all_eq_true.1 hall x hmark

theorem isNumeral_hostNumber {n : Json} (h : IsScriptNumber n) : IsNumeral hostNumber n := by
  obtain ⟨negative, m, e, rfl, hp⟩ := h
  rcases Nat.eq_zero_or_pos m with rfl | hm
  · refine ⟨isNumberText_natText 0, ?_⟩
    rw [write_zero]
    exact isNumberText_natText 0
  · obtain ⟨c, hc⟩ := Decimal.exists_stands_rounded hp hm
    obtain ⟨k, hk⟩ := Decimal.exists_stands_shortest hp hm
    refine ⟨?_, ?_⟩
    · by_cases hwhole : LooksWhole Layout.script (Decimal.rounded m e)
      · rw [hostNumber_of_looksWhole negative hm hwhole, write_int _ (wholeOf_pos hc.spells)]
        exact isNumberText_sign_append negative (isNumberText_natText _)
      · rw [hostNumber_of_not_looksWhole negative hm hwhole, write_float hm]
        exact isNumberText_sign_append negative (isNumberText_decimalText hk.spells _)
    · rw [write_float hm]
      exact isNumberText_sign_append negative (isNumberText_decimalText hc.spells _)

/-! ## One number -/

/-- A number keeps its text unless it is small, where both sides find the same digits. -/
theorem sameText_hostNumber_iff {m : Nat} {e : Int} (negative : Bool) (hp : Double.IsProper m e)
    (hdigits : Double.IsNarrow m e → Decimal.rounded m e = Decimal.shortest m e) :
    SameText hostNumber (.float (.finite negative m e)) ↔
      ¬ (0 < m ∧ IsSmall (Decimal.rounded m e)) := by
  rcases Nat.eq_zero_or_pos m with rfl | hm
  · refine iff_of_true ?_ fun h => absurd h.1 (Nat.lt_irrefl 0)
    rw [SameText, write_zero]
    rfl
  · have hsame : Decimal.rounded m e = Decimal.shortest m e := by
      by_cases hnarrow : Double.IsNarrow m e
      · exact hdigits hnarrow
      · exact Decimal.rounded_eq_shortest hm hnarrow
    obtain ⟨c, hc⟩ := Decimal.exists_stands_rounded hp hm
    have hscript : write Style.script (.float (.finite negative m e)) =
        sign negative ++ Layout.script.decimalText (Decimal.rounded m e) :=
      write_float hm e negative
    by_cases hwhole : LooksWhole Layout.script (Decimal.rounded m e)
    · refine iff_of_true ?_ ?_
      · rw [SameText, hscript, hostNumber_of_looksWhole negative hm hwhole,
          write_int _ (wholeOf_pos hc.spells), decimalText_of_looksWhole hc.spells hwhole]
      · rintro ⟨-, -, hsmall⟩
        have hpos : 0 < (Decimal.rounded m e).point := hwhole.1
        omega
    · have hhost : write Style.compact (.float (.finite negative m e)) =
          sign negative ++ Layout.data.decimalText (Decimal.rounded m e) := by
        rw [hsame]
        exact write_float hm e negative
      have hlength := hc.spells.length
      have hshort := (length_natText_le (by decide)).2 hc.short
      have hpoint : ¬ (0 < (Decimal.rounded m e).point ∧ (-5 : Int) ≤ (Decimal.rounded m e).point ∧
          (Decimal.rounded m e).point ≤ 21 ∧
          ((Decimal.rounded m e).digits.length : Int) ≤ (Decimal.rounded m e).point) := hwhole
      rw [SameText, hostNumber_of_not_looksWhole negative hm hwhole, hscript, hhost,
        List.append_cancel_left_eq,
        Layout.decimalText_data_eq_script_iff hc.spells (by omega) (by omega), IsSmall]
      exact not_congr (and_iff_right hm).symm

/-! ## Lines -/

/-- A value as the script that wrote it has it; a text stands for itself. -/
def ownText : Json → List Char
  | .str s => s.toList
  | value => write Style.script value

/-- The line a script has in mind: its own texts, with a blank between them. -/
def ownLine (values : List Json) : String :=
  String.ofList (Text.joinWith [' '] (values.map ownText))

theorem shown_hostNumber {n : Json} (h : ∀ s, n ≠ .str s) :
    shown (hostNumber n) = write Style.compact (hostNumber n) := by
  have hkept : hostNumber n = n → shown (hostNumber n) = write Style.compact (hostNumber n) := by
    intro heq
    rw [heq]
    cases n with
    | str s => exact absurd rfl (h s)
    | _ => rfl
  cases n with
  | float x =>
      cases x with
      | finite negative m e =>
          rw [hostNumber]
          split
          · rfl
          · split <;> rfl
      | _ => exact hkept rfl
  | _ => exact hkept rfl

theorem shown_renumber {value : Json} (h : ∀ s, value ≠ .str s) :
    shown (value.renumber hostNumber) = write Style.compact (value.renumber hostNumber) := by
  cases value with
  | int n => exact shown_hostNumber h
  | float x => exact shown_hostNumber h
  | str s => exact absurd rfl (h s)
  | _ => rfl

theorem ownText_of_ne {value : Json} (h : ∀ s, value ≠ .str s) :
    ownText value = write Style.script value := by
  cases value with
  | str s => exact absurd rfl (h s)
  | _ => rfl

theorem shown_eq_ownText {value : Json} (h : ∀ n ∈ value.numbers, SameText hostNumber n) :
    shown (value.renumber hostNumber) = ownText value := by
  by_cases hstr : ∃ s, value = .str s
  · obtain ⟨s, rfl⟩ := hstr
    rfl
  · have hne := not_exists.1 hstr
    rw [shown_renumber hne, ownText_of_ne hne, write_congr h]

theorem agreeOnly_shown {value : Json} (hnumbers : ∀ n ∈ value.numbers, IsScriptNumber n) :
    AgreeOnly (∀ n ∈ value.numbers, SameText hostNumber n) (shown (value.renumber hostNumber))
      (ownText value) := by
  by_cases hstr : ∃ s, value = .str s
  · obtain ⟨s, rfl⟩ := hstr
    exact .of_agree (fun n hn => absurd hn List.not_mem_nil) _
  · have hne := not_exists.1 hstr
    rw [shown_renumber hne, ownText_of_ne hne]
    exact agreeOnly_write fun n hn => isNumeral_hostNumber (hnumbers n hn)

/-- A line is the one that the script has in mind exactly if each of its numbers keeps its text. -/
theorem line_eq_ownLine_iff {values : List Json}
    (hnumbers : ∀ n ∈ itemsNumbers values, IsScriptNumber n) :
    line (values.map (renumber hostNumber)) = ownLine values ↔
      ∀ n ∈ itemsNumbers values, SameText hostNumber n := by
  have hsplit : ∀ p : Json → Prop, (∀ n ∈ itemsNumbers values, p n) ↔
      ∀ value ∈ values, ∀ n ∈ value.numbers, p n := by
    intro p
    rw [itemsNumbers_eq_flatMap]
    simp only [List.mem_flatMap]
    exact ⟨fun h value hvalue n hn => h n ⟨value, hvalue, hn⟩,
      fun h n ⟨value, hvalue, hn⟩ => h value hvalue n hn⟩
  rw [hsplit] at hnumbers ⊢
  rw [line, ownLine, List.map_map, String.ofList_inj]
  constructor
  · intro h
    have hjoined := AgreeOnly.joinWith (fun value hvalue => agreeOnly_shown (hnumbers value hvalue))
      (c := ' ') rfl []
    exact (hjoined [] [] endsMarks_nil endsMarks_nil (congrArg (· ++ []) h)).1
  · intro h
    exact congrArg _ (List.map_congr_left fun value hvalue => shown_eq_ownText (h value hvalue))

/-! ## Payloads -/

/-- The text in which a script hands the values of a line over. -/
def payload (values : List Json) : String := String.ofList (write Style.script (.arr values))

section

variable {values : List Json} (hnumbers : ∀ n ∈ itemsNumbers values, IsScriptNumber n)
  (hapart : ItemsApart values)

include hnumbers hapart

theorem lineOf_payload (hshallow : itemsHeight values < deepest) :
    Sandbox.lineOf (payload values) = .ok (line (values.map (renumber hostNumber))) := by
  have hread := (@read_write _ isReadable_script hostNumber (.arr values)
    (fun n hn => readsNumber_hostNumber (hnumbers n hn)) hapart).1 hshallow
  rw [Sandbox.lineOf, payload, String.toList_ofList, hread, renumber, renumberItems_eq_map]
  rfl

theorem lineOf_payload_of_deep (hdeep : deepest ≤ itemsHeight values) :
    ∃ nest, Sandbox.lineOf (payload values) = .error (.notJson (.tooDeep nest)) := by
  obtain ⟨nest, hread⟩ := (@read_write _ isReadable_script hostNumber (.arr values)
    (fun n hn => readsNumber_hostNumber (hnumbers n hn)) hapart).2 (Nat.lt_succ_of_le hdeep)
  refine ⟨nest, ?_⟩
  rw [Sandbox.lineOf, payload, String.toList_ofList, hread]

/-- The host prints the line of a payload unless its values nest too deep. The line has the values
as the script wrote them exactly if every number of them keeps its text; where both sides find
the same digits of a number, it does so unless it is small. The texts among the values are texts of
whole characters: a half of a pair that stands alone would be read as the replacement character. -/
theorem line_of_payload :
    (itemsHeight values < deepest →
      ∃ line, Sandbox.lineOf (payload values) = .ok line ∧
        (line = ownLine values ↔ ∀ n ∈ itemsNumbers values, SameText hostNumber n)) ∧
      (deepest ≤ itemsHeight values →
        ∃ nest, Sandbox.lineOf (payload values) = .error (.notJson (.tooDeep nest))) ∧
      ∀ negative m e, .float (.finite negative m e) ∈ itemsNumbers values →
        (Double.IsNarrow m e → Decimal.rounded m e = Decimal.shortest m e) →
          (SameText hostNumber (.float (.finite negative m e)) ↔
            ¬ (0 < m ∧ IsSmall (Decimal.rounded m e))) := by
  refine ⟨fun hshallow => ⟨_, lineOf_payload hnumbers hapart hshallow,
    line_eq_ownLine_iff hnumbers⟩, lineOf_payload_of_deep hnumbers hapart,
    fun negative m e hmem hdigits => ?_⟩
  obtain ⟨negative', m', e', heq, hp⟩ := hnumbers _ hmem
  cases heq
  exact sameText_hostNumber_iff negative hp hdigits

end

theorem line_of_payload_of_nested :
    Sandbox.lineOf (payload [.str "a\"b", .arr [.float (.finite false 5629499534213120 (-51)),
        .obj [("x", .null)]]]) = .ok "a\"b [2.5,\x7b\"x\":null\x7d]" := by
  have hproper : Double.IsProper 5629499534213120 (-51) :=
    ⟨by decide, by decide, by decide, .inl (by decide)⟩
  obtain ⟨hok, -, hsame⟩ := @line_of_payload
    [.str "a\"b", .arr [.float (.finite false 5629499534213120 (-51)), .obj [("x", .null)]]]
    (List.forall_mem_singleton.2 ⟨_, _, _, rfl, hproper⟩)
    ⟨trivial, ⟨trivial, ⟨by decide, trivial, trivial⟩, trivial⟩, trivial⟩
  have hkept := (hsame false _ _ (List.mem_singleton_self _) (by decide)).2 (by decide +kernel)
  obtain ⟨line, hline, hown⟩ := hok (by decide)
  rw [hline, hown.2 (List.forall_mem_singleton.2 hkept)]
  decide +kernel

theorem small_number_not_kept :
    payload [.float (.finite false 5902958103587057 (-69))] = "[0.00001]" ∧
      (Sandbox.lineOf "[0.00001]").toOption = some "1e-05" ∧
        ownLine [.float (.finite false 5902958103587057 (-69))] = "0.00001" := by
  decide +kernel

end DocExamples.Console
