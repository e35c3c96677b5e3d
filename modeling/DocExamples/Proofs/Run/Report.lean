import DocExamples.Proofs.Document.Reading
import DocExamples.Proofs.Number.Digits
import DocExamples.Run.Engine
import Mathlib.Data.List.TakeDrop

/-!
# What a report says

What an engine reports is one text, and it may be any text: a script throws what it likes, so the
words of a message may look like a frame, or like half of one. This file says what is read in it
all the same.

The position is that of the last frame of evaluated code, whatever stands before it. Frames are
searched from left to right, each behind the end of the one before it, so the question is whether
something in front can run into the last frame and hide it. It cannot: a frame has one opening
parenthesis, at the end of its mark, and one closing parenthesis, at its end, and a frame that
began further left and reached into the mark of another would have a parenthesis too many or end
where there is none.

The digits of a position are read as numbers up to a bound on their length, so a report whose
position is longer than that cannot be turned into a failure of the code at all. Of all others the
text without the blanks at its end is shown, save where that text is one line and has blanks behind
it: the message keeps them and the stack does not, so the one does not begin with the other, and
both are shown.
-/

namespace DocExamples

namespace Position

/-- Holds of a position whose numbers are short enough to be read. -/
structure IsReadable (p : Position) : Prop where
  line : p.line.length ≤ Number.digitLimit
  column : ∀ digits, p.column = some digits → digits.length ≤ Number.digitLimit

/-- Holds of a text of digits, one at least. -/
structure IsNumeral (s : List Char) : Prop where
  ne_nil : s ≠ []
  digits : ∀ c ∈ s, Text.isDigit c = true

/-- A position as it stands behind the name of a file. -/
def written (p : Position) : List Char :=
  ':' :: p.line ++ p.column.elim [] (':' :: ·)

/-! ## Frames of evaluated code -/

/-- A frame of evaluated code: the mark and, in parentheses, the name of a file and a position. -/
structure EvalFrame where
  name : List Char
  position : Position
  name_plain : ∀ c ∈ name, !isParenthesis c
  line_numeral : IsNumeral position.line
  column_numeral : ∀ column, position.column = some column → IsNumeral column

namespace EvalFrame

/-- What stands between the parentheses of a frame. -/
def place (f : EvalFrame) : List Char := f.name ++ f.position.written

/-- A frame as it is written. -/
def text (f : EvalFrame) : List Char := evalMark ++ (f.place ++ [')'])

end EvalFrame

theorem not_isParenthesis_of_isDigit {c : Char} (h : Text.isDigit c = true) :
    !isParenthesis c := by
  rw [Bool.not_eq_true', Bool.eq_false_iff]
  intro hparenthesis
  rcases Bool.or_eq_true_iff.1 hparenthesis with hc | hc <;>
    exact absurd h (by rw [eq_of_beq hc]; decide)

theorem IsNumeral.plain {s : List Char} (h : IsNumeral s) : ∀ c ∈ s, !isParenthesis c :=
  fun c hc => not_isParenthesis_of_isDigit (h.digits c hc)

theorem EvalFrame.place_plain (f : EvalFrame) : ∀ c ∈ f.place, !isParenthesis c := by
  intro c hc
  rcases List.mem_append.1 hc with hname | hwritten
  · exact f.name_plain c hname
  rcases List.mem_append.1 hwritten with hline | hcolumn
  · rcases List.mem_cons.1 hline with rfl | hline
    · rfl
    · exact f.line_numeral.plain c hline
  cases hp : f.position.column with
  | none => rw [hp] at hcolumn; exact absurd hcolumn List.not_mem_nil
  | some column =>
      rw [hp] at hcolumn
      rcases List.mem_cons.1 hcolumn with rfl | hcolumn
      · rfl
      · exact (f.column_numeral column hp).plain c hcolumn

/-! ## The position that a place ends with -/

theorem span_of_boundary {p : Char → Bool} {front : List Char} (h : ∀ c ∈ front, p c) {c : Char}
    (hc : p c = false) (rest : List Char) :
    (front ++ c :: rest).span p = (front, c :: rest) := by
  rw [List.span_eq_takeWhile_dropWhile, List.takeWhile_append_of_pos h,
    List.dropWhile_append_of_pos h, List.takeWhile_cons_of_neg (by rw [hc]; exact nofun),
    List.dropWhile_cons_of_neg (by rw [hc]; exact nofun), List.append_nil]

theorem of_span_eq {p : Char → Bool} {s front rest : List Char} (h : s.span p = (front, rest)) :
    s = front ++ rest ∧ ∀ c ∈ front, p c := by
  rw [List.span_eq_takeWhile_dropWhile] at h
  obtain ⟨rfl, rfl⟩ := Prod.mk.inj h
  exact ⟨List.takeWhile_append_dropWhile.symm, fun c hc => List.mem_takeWhile_imp hc⟩

theorem lastNumber?_eq_some {digits : List Char} (h : IsNumeral digits) (before : List Char) :
    lastNumber? (digits.reverse ++ ':' :: before) = some (digits, before) := by
  have hdigits : ∀ c ∈ digits.reverse, Text.isDigit c = true :=
    fun c hc => h.digits c (List.mem_reverse.1 hc)
  have hspan : (digits.reverse ++ ':' :: before).span Text.isDigit =
      (digits.reverse, ':' :: before) := span_of_boundary hdigits (by decide) before
  obtain ⟨c, rest, hreverse⟩ :=
    List.exists_cons_of_ne_nil (mt List.reverse_eq_nil_iff.1 h.ne_nil)
  rw [lastNumber?, hspan, hreverse]
  show some ((c :: rest).reverse, before) = some (digits, before)
  rw [← hreverse, List.reverse_reverse]

/-- What is read as a number is one, and its colon stands in front of it. -/
theorem of_lastNumber?_eq_some {reversed digits before : List Char}
    (h : lastNumber? reversed = some (digits, before)) :
    reversed = digits.reverse ++ ':' :: before ∧ IsNumeral digits := by
  rw [lastNumber?] at h
  split at h
  next => exact nomatch h
  next front rest hne hspan =>
    obtain ⟨rfl, hfront⟩ := of_span_eq hspan
    obtain ⟨rfl, rfl⟩ := Prod.mk.inj (Option.some.inj h)
    rw [List.reverse_reverse]
    exact ⟨rfl, fun hnil => hne (List.reverse_eq_nil_iff.1 hnil),
      fun c hc => hfront c (List.mem_reverse.1 hc)⟩
  next => exact nomatch h

theorem lastNumber?_eq_none {reversed : List Char} (h : ':' ∉ reversed) :
    lastNumber? reversed = none := by
  rw [Option.eq_none_iff_forall_ne_some]
  rintro ⟨digits, before⟩ hsome
  obtain ⟨rfl, -⟩ := of_lastNumber?_eq_some hsome
  exact h (List.mem_append_right _ List.mem_cons_self)

theorem ofPlace?_place {f : EvalFrame} (hname : ':' ∉ f.name) :
    ofPlace? (fun _ => true) f.place = some f.position := by
  obtain ⟨name, ⟨line, column⟩, hplain, hline, hcolumn⟩ := f
  dsimp only at hname hline hcolumn
  have halone : lastNumber? name.reverse = none :=
    lastNumber?_eq_none fun h => hname (List.mem_reverse.1 h)
  cases column with
  | none =>
      have hreverse : (name ++ written ⟨line, none⟩).reverse =
          line.reverse ++ ':' :: name.reverse := by
        simp only [written, Option.elim_none, List.append_nil, List.reverse_append,
          List.reverse_cons, List.append_assoc, List.singleton_append]
      simp only [EvalFrame.place, ofPlace?, hreverse, lastNumber?_eq_some hline, halone, if_true]
  | some column =>
      have hreverse : (name ++ written ⟨line, some column⟩).reverse =
          column.reverse ++ ':' :: (line.reverse ++ ':' :: name.reverse) := by
        simp only [written, Option.elim_some, List.reverse_append, List.reverse_cons,
          List.append_assoc, List.cons_append, List.nil_append]
      simp only [EvalFrame.place, ofPlace?, hreverse, lastNumber?_eq_some (hcolumn column rfl),
        lastNumber?_eq_some hline, if_true]

/-- A place with a position is a name with a position behind it. -/
theorem exists_name_of_ofPlace? {place : List Char} {p : Position}
    (h : ofPlace? (fun _ => true) place = some p) :
    ∃ name, place = name ++ p.written ∧ IsNumeral p.line ∧
      ∀ column, p.column = some column → IsNumeral column := by
  rw [ofPlace?] at h
  split at h
  · exact nomatch h
  next last before hlast =>
    obtain ⟨hreverse, hnumeral⟩ := of_lastNumber?_eq_some hlast
    have halone : place = before.reverse ++ written ⟨last, none⟩ := by
      rw [← List.reverse_reverse place, hreverse]
      simp [written]
    simp only [if_true] at h
    split at h
    · next line before' hline =>
        obtain ⟨rfl, hlineNumeral⟩ := of_lastNumber?_eq_some hline
        cases h
        refine ⟨before'.reverse, ?_, hlineNumeral, fun column hcolumn => ?_⟩
        · rw [halone]
          simp [written]
        · cases hcolumn
          exact hnumeral
    · cases h
      exact ⟨before.reverse, halone, hnumeral, fun column hcolumn => nomatch hcolumn⟩

/-! ## A frame at the front of a text -/

theorem EvalFrame.length_text (f : EvalFrame) :
    f.text.length = evalMark.length + f.place.length + 1 := by
  rw [text, List.length_append, List.length_append, List.length_singleton, Nat.add_assoc]

theorem evalFrame?_text {f : EvalFrame} (hname : ':' ∉ f.name) (rest : List Char) :
    evalFrame? (f.text ++ rest) = some (f.position, f.text.length) := by
  have htext : f.text ++ rest = evalMark ++ (f.place ++ ')' :: rest) := by
    rw [EvalFrame.text, List.append_assoc, List.append_assoc, List.singleton_append]
  have hspan : (f.place ++ ')' :: rest).span (fun c => !isParenthesis c) = (f.place, ')' :: rest) :=
    span_of_boundary f.place_plain rfl rest
  rw [htext, evalFrame?, if_pos (List.isPrefixOf_iff_prefix.2 (List.prefix_append _ _)),
    List.drop_left, hspan]
  simp only [ofPlace?_place hname, Option.map_some, f.length_text]

/-- What is taken for a frame is one. -/
theorem exists_frame_of_evalFrame? {s : List Char} {p : Position} {length : Nat}
    (h : evalFrame? s = some (p, length)) :
    ∃ (f : EvalFrame) (rest : List Char), s = f.text ++ rest ∧ length = f.text.length := by
  rw [evalFrame?] at h
  split at h
  · next hbegins =>
      obtain ⟨tail, rfl⟩ := List.isPrefixOf_iff_prefix.1 hbegins
      rw [List.drop_left] at h
      split at h
      · next place rest hspan =>
          obtain ⟨p', hp', heq⟩ := Option.map_eq_some_iff.1 h
          obtain ⟨rfl, rfl⟩ := Prod.mk.inj heq
          obtain ⟨name, hplace, hline, hcolumn⟩ := exists_name_of_ofPlace? hp'
          obtain ⟨rfl, hplain⟩ := of_span_eq hspan
          let f : EvalFrame := ⟨name, p', fun c hc => hplain c (hplace ▸ List.mem_append_left _ hc),
            hline, hcolumn⟩
          have hfplace : f.place = place := hplace.symm
          refine ⟨f, rest, ?_, ?_⟩
          · rw [EvalFrame.text, hfplace, List.append_assoc, List.append_assoc,
              List.singleton_append]
          · rw [f.length_text, hfplace]
      · exact nomatch h
  · exact nomatch h

/-- Every end of a frame holds its closing parenthesis. -/
theorem EvalFrame.close_mem {f : EvalFrame} {front inside : List Char}
    (h : f.text = front ++ inside) (hne : inside ≠ []) : ')' ∈ inside := by
  have hlast : f.text.getLast? = some ')' := by
    rw [text, ← List.append_assoc, List.getLast?_concat]
  rw [h, List.getLast?_append_of_ne_nil _ hne] at hlast
  exact List.mem_of_getLast? hlast

/-- The mark of a frame stands at its front and nowhere else, for it ends with the one opening
parenthesis that a frame has. -/
theorem EvalFrame.eq_nil_of_mark {f : EvalFrame} {front tail : List Char}
    (h : f.text = front ++ (evalMark ++ tail)) : front = [] := by
  let words := "at <eval> ".toList
  have hmark : evalMark = words ++ ['('] := rfl
  have hnot : '(' ∉ f.place ++ [')'] := by
    intro hmem
    rcases List.mem_append.1 hmem with hplace | hlast
    · exact absurd (f.place_plain _ hplace) (by decide)
    · exact absurd hlast (by decide)
  have htwice : words ++ '(' :: (f.place ++ [')']) = (front ++ words) ++ '(' :: tail := by
    have htext : words ++ '(' :: (f.place ++ [')']) = f.text := by
      rw [text, hmark, List.append_assoc, List.singleton_append]
    rw [htext, h, hmark, List.append_assoc, List.append_assoc, List.singleton_append]
  have hwords := ((List.append_cons_inj_of_notMem (by decide : '(' ∉ words) hnot).1 htwice).1
  exact List.self_eq_append_left.1 hwords

/-- A frame that begins in front of another ends in front of it. -/
theorem EvalFrame.length_le_of_append_eq {f g : EvalFrame} {front rest behind : List Char}
    (hne : front ≠ []) (h : f.text ++ rest = front ++ (g.text ++ behind)) :
    f.text.length ≤ front.length := by
  rcases List.append_eq_append_iff.1 h with ⟨more, hfront, -⟩ | ⟨inside, hf, hg⟩
  · rw [hfront, List.length_append]
    exact Nat.le_add_right _ _
  cases inside with
  | nil => rw [hf, List.append_nil]
  | cons c inside =>
      -- What of `f` reaches into `g` would hold the mark of `g`, or lie in it and close.
      rw [EvalFrame.text, List.append_assoc] at hg
      rcases List.append_eq_append_iff.1 hg with ⟨tail, hinside, -⟩ | ⟨tail, hmark, -⟩
      · rw [hinside] at hf
        exact absurd (EvalFrame.eq_nil_of_mark hf) hne
      · have hclose := EvalFrame.close_mem hf (List.cons_ne_nil c inside)
        exact absurd (hmark ▸ List.mem_append_left tail hclose) (by decide : ')' ∉ evalMark)

/-! ## The last frame of a text -/

theorem frames_eq_nil {s : List Char} (h : ∀ rest, rest <:+ s → evalFrame? rest = none)
    (atStart : Bool) : frames (fun _ => evalFrame?) atStart 0 s = [] := by
  induction s generalizing atStart with
  | nil => rfl
  | cons c s ih =>
      rw [frames, h _ (List.suffix_refl _)]
      exact ih (fun rest hrest => h rest (hrest.trans (List.suffix_cons c s))) _

/-- Behind a frame the search goes on as from the start of a text. -/
theorem frames_inside (frame? : Bool → List Char → Option (Position × Nat))
    (front rest : List Char) (atStart : Bool) :
    ∃ atStart', frames frame? atStart front.length (front ++ rest) =
      frames frame? atStart' 0 rest := by
  induction front generalizing atStart with
  | nil => exact ⟨atStart, rfl⟩
  | cons c front ih => exact ih (c == '\n')

/-- What stands in front of a frame does not hide it, if the search stands in front of it too. -/
theorem getLast?_frames {f : EvalFrame} (hname : ':' ∉ f.name) {behind : List Char}
    (hbehind : ∀ rest, rest <:+ behind → evalFrame? rest = none) (front : List Char)
    {inside : Nat} (hinside : inside ≤ front.length) (atStart : Bool) :
    (frames (fun _ => evalFrame?) atStart inside (front ++ (f.text ++ behind))).getLast? =
      some f.position := by
  induction front generalizing inside atStart with
  | nil =>
      obtain rfl : inside = 0 := Nat.le_zero.1 hinside
      obtain ⟨c, tail, htext⟩ : ∃ c tail, f.text = c :: tail := ⟨_, _, rfl⟩
      have hframe := evalFrame?_text hname behind
      rw [htext, List.cons_append] at hframe
      obtain ⟨atStart', hrest⟩ := frames_inside (fun _ => evalFrame?) tail behind (c == '\n')
      rw [List.nil_append, htext, List.cons_append, frames, hframe]
      dsimp only
      rw [List.length_cons, Nat.add_sub_cancel, hrest, frames_eq_nil hbehind]
      rfl
  | cons c front ih =>
      cases inside with
      | succ inside => exact ih (Nat.le_of_succ_le_succ hinside) _
      | zero =>
          rw [List.cons_append, frames]
          cases hframe : evalFrame? (c :: (front ++ (f.text ++ behind))) with
          | none => exact ih (Nat.zero_le _) _
          | some found =>
              obtain ⟨p, length⟩ := found
              obtain ⟨g, rest, htext, rfl⟩ := exists_frame_of_evalFrame? hframe
              have hlength : g.text.length ≤ (c :: front).length :=
                EvalFrame.length_le_of_append_eq (List.cons_ne_nil c front) htext.symm
              have hlast := ih (Nat.sub_le_of_le_add hlength) (c == '\n')
              dsimp only
              rw [List.getLast?_cons, hlast]
              rfl

/-- The position of a report is that of its last frame of evaluated code. -/
theorem ofReport?_outermost {f : EvalFrame} (hname : ':' ∉ f.name) (front : List Char)
    {behind : List Char} (hbehind : ∀ other : EvalFrame, ¬ other.text <:+: behind) :
    ofReport? (front ++ f.text ++ behind) = some f.position := by
  have hnone : ∀ rest, rest <:+ behind → evalFrame? rest = none := by
    intro rest hrest
    rw [Option.eq_none_iff_forall_ne_some]
    rintro ⟨p, length⟩ hsome
    obtain ⟨other, tail, rfl, -⟩ := exists_frame_of_evalFrame? hsome
    exact hbehind other ((List.prefix_append _ _).isInfix.trans hrest.isInfix)
  rw [ofReport?, List.append_assoc, getLast?_frames hname hnone front (Nat.zero_le _)]
  rfl

/-- A text without a parenthesis has no frame of evaluated code. -/
theorem not_infix_of_not_mem {s : List Char} (h : '(' ∉ s) (f : EvalFrame) : ¬ f.text <:+: s :=
  fun hpart => h (hpart.subset (List.mem_append_left _ (by decide)))

end Position

/-! ## Reading a report -/

theorem Number.ofDigits_eq_error {digits : List Char} (h : digitLimit < digits.length) :
    ofDigits digits = .error (.toRead digits.length) :=
  if_neg (Nat.not_le.2 h)

namespace EvaluationError

/-- A report whose position can be read gives the numbers of the position. -/
theorem ofReport_of_isReadable {text : String} {p : Position}
    (h : Position.ofReport? text.toList = some p) (hp : p.IsReadable) :
    ofReport text = .ok { unplaced text with
      line := some (Text.natOfDigits p.line)
      column := p.column.map Text.natOfDigits } := by
  obtain ⟨line, column⟩ := p
  rw [ofReport, h]
  dsimp only [bind, Except.bind]
  rw [Number.ofDigits_eq_ok hp.line]
  cases column with
  | none => rfl
  | some column =>
      dsimp only
      rw [Number.ofDigits_eq_ok (hp.column column rfl)]
      rfl

/-- A report whose position cannot be read gives nothing but the length of a number in it that is
too long. -/
theorem ofReport_of_not_isReadable {text : String} {p : Position}
    (h : Position.ofReport? text.toList = some p) (hp : ¬ p.IsReadable) :
    ∃ digits, (digits = p.line ∨ p.column = some digits) ∧ Number.digitLimit < digits.length ∧
      ofReport text = .error (.toRead digits.length) := by
  obtain ⟨line, column⟩ := p
  rw [ofReport, h]
  dsimp only [bind, Except.bind]
  rcases Nat.lt_or_ge Number.digitLimit line.length with hline | hline
  · exact ⟨line, .inl rfl, hline, by rw [Number.ofDigits_eq_error hline]⟩
  rw [Number.ofDigits_eq_ok hline]
  cases column with
  | none => exact absurd ⟨hline, fun digits hdigits => nomatch hdigits⟩ hp
  | some column =>
      rcases Nat.lt_or_ge Number.digitLimit column.length with hcolumn | hcolumn
      · refine ⟨column, .inr rfl, hcolumn, ?_⟩
        dsimp only
        rw [Number.ofDigits_eq_error hcolumn]
      · refine absurd ⟨hline, fun digits hdigits => ?_⟩ hp
        cases hdigits
        exact hcolumn

/-- A report can be read unless it names a position with a number that is too long. -/
theorem ofReport_eq_ok_iff (text : String) :
    (∃ e, ofReport text = .ok e) ↔
      ∀ p, Position.ofReport? text.toList = some p → p.IsReadable := by
  constructor
  · rintro ⟨e, he⟩ p hp
    by_contra hlong
    obtain ⟨digits, -, -, herror⟩ := ofReport_of_not_isReadable hp hlong
    rw [he] at herror
    exact nomatch herror
  · intro h
    cases hposition : Position.ofReport? text.toList with
    | none => exact ⟨unplaced text, by rw [ofReport, hposition]⟩
    | some p => exact ⟨_, ofReport_of_isReadable hposition (h p hposition)⟩

/-- The position of a report makes no difference to its message and its stack. -/
theorem eq_unplaced_of_ofReport {text : String} {e : EvaluationError} (h : ofReport text = .ok e) :
    e.message = (unplaced text).message ∧ e.stack = (unplaced text).stack := by
  have hreadable := (ofReport_eq_ok_iff text).1 ⟨e, h⟩
  cases hposition : Position.ofReport? text.toList with
  | none =>
      rw [ofReport, hposition] at h
      cases h
      exact ⟨rfl, rfl⟩
  | some p =>
      rw [ofReport_of_isReadable hposition (hreadable p hposition)] at h
      cases h
      exact ⟨rfl, rfl⟩

end EvaluationError

/-- What a report stands for is a failure of the code exactly if the report can be read. -/
theorem Raised.ofReport_eq_evaluation_iff (text : String) :
    (∃ e, ofReport text = .evaluation e) ↔
      ∀ p, Position.ofReport? text.toList = some p → p.IsReadable := by
  rw [← EvaluationError.ofReport_eq_ok_iff, ofReport]
  cases EvaluationError.ofReport text with
  | ok e => exact iff_of_true ⟨e, rfl⟩ ⟨e, rfl⟩
  | error t => exact iff_of_false (fun ⟨_, h⟩ => nomatch h) fun ⟨_, h⟩ => nomatch h

/-- A report may end with a frame whose line is too long a number. -/
theorem EvaluationError.ofReport_of_long_line {digits : List Char}
    (hdigits : ∀ c ∈ digits, Text.isDigit c) (hlong : Number.digitLimit < digits.length)
    (text : String) :
    ofReport (text ++ "at <eval> (x:" ++ String.ofList digits ++ ")") =
      .error (.toRead digits.length) := by
  have hne : digits ≠ [] := fun h => absurd hlong (by rw [h]; decide)
  let frame : Position.EvalFrame :=
    ⟨['x'], ⟨digits, none⟩, List.all_eq_true.1 (by decide), ⟨hne, hdigits⟩,
      fun column hcolumn => nomatch hcolumn⟩
  have htext : (text ++ "at <eval> (x:" ++ String.ofList digits ++ ")").toList =
      text.toList ++ frame.text ++ [] := by
    have hmark : "at <eval> (x:".toList = Position.evalMark ++ ['x', ':'] := rfl
    have hlast : ")".toList = [')'] := rfl
    simp only [String.toList_append, hmark, hlast, String.toList_ofList, frame,
      Position.EvalFrame.text, Position.EvalFrame.place, Position.written, Option.elim_none,
      List.append_assoc, List.cons_append, List.nil_append, List.append_nil]
  have hname : ':' ∉ ['x'] := by decide
  have hposition := Position.ofReport?_outermost (f := frame) hname text.toList
    (Position.not_infix_of_not_mem List.not_mem_nil)
  rw [← htext] at hposition
  obtain ⟨_, rfl | hcolumn, -, herror⟩ :=
    ofReport_of_not_isReadable hposition fun h => absurd h.line (Nat.not_le.2 hlong)
  · exact herror
  · exact nomatch hcolumn

theorem Raised.ofReport_of_long_line {digits : List Char} (hdigits : ∀ c ∈ digits, Text.isDigit c)
    (hlong : Number.digitLimit < digits.length) (text : String) :
    ofReport (text ++ "at <eval> (x:" ++ String.ofList digits ++ ")") =
      .other (Number.TooLong.toRead digits.length).failure := by
  rw [ofReport, EvaluationError.ofReport_of_long_line hdigits hlong]

namespace EvaluationError

/-- The position of a report is that of its last frame of evaluated code, whatever stands before
that frame. It is a pair of numbers if these can be read; if not, the report is refused. -/
theorem position_of_outermost (front behind : String) (frame : Position.EvalFrame)
    (hname : ':' ∉ frame.name)
    (hbehind : ∀ other : Position.EvalFrame, ¬ other.text <:+: behind.toList) :
    let text := front ++ String.ofList frame.text ++ behind
    (frame.position.IsReadable → ofReport text = .ok
      { message := String.ofList (text.toList.takeWhile (· ≠ '\n'))
        stack := String.ofList (Text.stripRight text.toList)
        line := some (Text.natOfDigits frame.position.line)
        column := frame.position.column.map Text.natOfDigits }) ∧
      (¬ frame.position.IsReadable → ∃ digits,
        (digits = frame.position.line ∨ frame.position.column = some digits) ∧
          Number.digitLimit < digits.length ∧ ofReport text = .error (.toRead digits.length)) := by
  intro text
  have htext : text.toList = front.toList ++ frame.text ++ behind.toList := by
    rw [String.toList_append, String.toList_append, String.toList_ofList]
  have hposition := Position.ofReport?_outermost hname front.toList hbehind
  rw [← htext] at hposition
  exact ⟨ofReport_of_isReadable hposition, ofReport_of_not_isReadable hposition⟩

/-- Neither a frame in a message nor half of one, nor the frame of a function, is taken for the
outermost frame. -/
theorem position_of_outermost_of_feigned_frames :
    let frame : Position.EvalFrame :=
      ⟨"<input>".toList, ⟨['7'], some ['1']⟩, List.all_eq_true.1 (by decide),
        ⟨List.cons_ne_nil _ _, List.all_eq_true.1 (by decide)⟩,
        fun _ h => Option.some.inj h ▸ ⟨List.cons_ne_nil _ _, List.all_eq_true.1 (by decide)⟩⟩
    ':' ∉ frame.name ∧ (∀ other : Position.EvalFrame, ¬ other.text <:+: "\n".toList) ∧
      frame.position.IsReadable ∧
      ofReport "at <eval> (x:1:2), at <eval> (\n  at f (y:2:9)\n  at <eval> (<input>:7:1)\n" = .ok
        { message := "at <eval> (x:1:2), at <eval> ("
          stack := "at <eval> (x:1:2), at <eval> (\n  at f (y:2:9)\n  at <eval> (<input>:7:1)"
          line := some 7
          column := some 1 } := by
  intro frame
  have hname : ':' ∉ frame.name := by decide
  have hbehind : ∀ other : Position.EvalFrame, ¬ other.text <:+: "\n".toList :=
    Position.not_infix_of_not_mem (by decide)
  have hreadable : frame.position.IsReadable :=
    ⟨by decide, fun _ h => Option.some.inj h ▸ by decide⟩
  let front := "at <eval> (x:1:2), at <eval> (\n  at f (y:2:9)\n  "
  have htext : front ++ String.ofList frame.text ++ "\n" =
      "at <eval> (x:1:2), at <eval> (\n  at f (y:2:9)\n  at <eval> (<input>:7:1)\n" := by
    decide +kernel
  have hreport := (position_of_outermost front "\n" frame hname hbehind).1 hreadable
  refine ⟨hname, hbehind, hreadable, (congrArg ofReport htext).symm.trans (hreport.trans ?_)⟩
  exact congrArg Except.ok (by decide +kernel)

/-- A line is not read if its digits are too many, whatever number they write. -/
theorem long_line_not_read :
    let digits := List.replicate 4300 '0' ++ ['7']
    let text := "at <eval> (x:" ++ String.ofList digits ++ ")"
    (∀ c ∈ digits, Text.isDigit c = true) ∧ Text.natOfDigits digits = 7 ∧
      ofReport text = .error (.toRead 4301) ∧ ∀ e, ofReport text ≠ .ok e := by
  intro digits text
  have hdigits : ∀ c ∈ digits, Text.isDigit c = true := by
    intro c hc
    rcases List.mem_append.1 hc with hzero | hseven
    · rw [List.eq_of_mem_replicate hzero]
      decide
    · rw [List.mem_singleton.1 hseven]
      decide
  have hlength : digits.length = 4301 := by
    rw [List.length_append, List.length_replicate, List.length_singleton]
  have hlong : Number.digitLimit < digits.length := by
    rw [hlength]
    decide
  have herror : ofReport text = .error (.toRead 4301) := by
    have h := ofReport_of_long_line hdigits hlong ""
    rwa [hlength, String.empty_append] at h
  refine ⟨hdigits, ?_, herror, fun e he => ?_⟩
  · exact Number.natOfDigits_zeros_append (List.all_eq_true.1 (by decide)) 4300
  · rw [herror] at he
    exact nomatch he

/-! ## What is shown of a report -/

/-- Holds of a text of one line with blanks behind its words, and nothing but blanks below. -/
def IsPadded (s : List Char) : Prop :=
  ∃ c blanks, s = Text.stripRight s ++ c :: blanks ∧ c ≠ '\n' ∧ '\n' ∉ Text.stripRight s

/-- The first line of a text stays in the front of the text if the front goes on to its end. -/
theorem line_prefix_iff (words blanks : List Char) :
    (words ++ blanks).takeWhile (· ≠ '\n') <+: words ↔
      '\n' ∈ words ∨ ∀ c ∈ blanks.head?, c = '\n' := by
  by_cases hline : '\n' ∈ words
  · refine iff_of_true ?_ (.inl hline)
    rw [List.takeWhile_append]
    split
    · next hlength =>
        have hfront : words.takeWhile (· ≠ '\n') <+: words := List.takeWhile_prefix _
        have hall := List.takeWhile_eq_self_iff.1 (hfront.eq_of_length hlength)
        exact absurd (hall _ hline) (by decide)
    · exact List.takeWhile_prefix _
  · have hwords : ∀ c ∈ words, decide (c ≠ '\n') = true :=
      fun c hc => decide_eq_true fun heq => hline (heq ▸ hc)
    rw [List.takeWhile_append_of_pos hwords, or_iff_right hline]
    cases blanks with
    | nil => simp
    | cons c blanks =>
        by_cases hc : c = '\n'
        · simp [hc]
        · refine iff_of_false (fun hbegins => ?_) fun h => hc (h c rfl)
          have hkept : (c :: blanks).takeWhile (· ≠ '\n') = c :: blanks.takeWhile (· ≠ '\n') :=
            List.takeWhile_cons_of_pos (decide_eq_true hc)
          have hlength := hbegins.length_le
          rw [hkept, List.length_append, List.length_cons] at hlength
          omega

/-- The first line of a text stays when the text is trimmed, unless the text is padded. -/
theorem line_prefix_stripRight_iff (s : List Char) :
    s.takeWhile (· ≠ '\n') <+: Text.stripRight s ↔ ¬ IsPadded s := by
  obtain ⟨blanks, hs⟩ : ∃ blanks, s = Text.stripRight s ++ blanks :=
    ⟨_, (Text.dropTrailing_append_rtakeWhile Text.isBlank s).symm⟩
  have hpadded : IsPadded s ↔ ∃ c ∈ blanks.head?, c ≠ '\n' ∧ '\n' ∉ Text.stripRight s := by
    constructor
    · rintro ⟨c, rest, hcons, hboth⟩
      have hblanks : blanks = c :: rest := List.append_cancel_left (hs.symm.trans hcons)
      exact ⟨c, by rw [hblanks]; rfl, hboth⟩
    · rintro ⟨c, hc, hboth⟩
      obtain ⟨rest, hblanks⟩ := List.head?_eq_some_iff.1 hc
      exact ⟨c, rest, hblanks ▸ hs, hboth⟩
  have hline : s.takeWhile (· ≠ '\n') <+: Text.stripRight s ↔
      '\n' ∈ Text.stripRight s ∨ ∀ c ∈ blanks.head?, c = '\n' := by
    rw [← line_prefix_iff, ← hs]
  rw [hline, hpadded]
  push Not
  constructor
  · rintro (hmem | hall) c hc hne
    · exact hmem
    · exact absurd (hall c hc) hne
  · intro h
    by_cases hmem : '\n' ∈ Text.stripRight s
    · exact .inl hmem
    · exact .inr fun c hc => not_not.1 fun hne => hmem (h c hc hne)

theorem stripRight_eq_nil_iff (s : List Char) :
    Text.stripRight s = [] ↔ Text.isAllBlank s = true := by
  rw [Text.stripRight, Text.dropTrailing, List.reverse_eq_nil_iff, List.dropWhile_eq_nil_iff,
    Text.isAllBlank, List.all_eq_true]
  exact forall_congr' fun c => by rw [List.mem_reverse]

/-- What is shown of a report that has words: its trimmed text, and in front of it the first line
if the text is padded. -/
theorem diagnostic_eq {text : String} {e : EvaluationError} (he : ofReport text = .ok e)
    (hwords : Text.isAllBlank text.toList = false) :
    (¬ IsPadded text.toList → e.diagnostic.toList = Text.stripRight text.toList) ∧
      (IsPadded text.toList → e.diagnostic.toList =
        text.toList.takeWhile (· ≠ '\n') ++ '\n' :: Text.stripRight text.toList) := by
  obtain ⟨hmessage, hstack⟩ := eq_unplaced_of_ofReport he
  have hne : e.stack ≠ "" := by
    intro hempty
    have hnil : Text.stripRight text.toList = [] := by
      rw [← String.toList_ofList (l := Text.stripRight text.toList)]
      exact (congrArg String.toList (hstack.symm.trans hempty)).trans rfl
    rw [(stripRight_eq_nil_iff _).1 hnil] at hwords
    exact nomatch hwords
  have hbegins : e.message.toList.isPrefixOf e.stack.toList = true ↔ ¬ IsPadded text.toList := by
    rw [List.isPrefixOf_iff_prefix, hmessage, hstack, unplaced, String.toList_ofList,
      String.toList_ofList, line_prefix_stripRight_iff]
  rw [diagnostic, if_neg hne]
  constructor
  · intro hpadded
    rw [if_pos (hbegins.2 hpadded), hstack, unplaced, String.toList_ofList]
  · intro hpadded
    rw [if_neg fun h => hbegins.1 h hpadded, String.toList_append, String.toList_append, hmessage,
      hstack, unplaced, String.toList_ofList, List.append_assoc]
    dsimp only
    rw [String.toList_ofList, String.toList_ofList]
    rfl

/-- What is shown of a report that has words and can be read is its text without the blanks at its
end, unless that text is one line with blanks behind it. Then the line is shown twice. -/
theorem diagnostic_of_report (text : String) (hwords : Text.isAllBlank text.toList = false) :
    ((∃ e, ofReport text = .ok e) ↔
        ∀ p, Position.ofReport? text.toList = some p → p.IsReadable) ∧
      ∀ e, ofReport text = .ok e →
        (e.diagnostic.toList = Text.stripRight text.toList ↔ ¬ IsPadded text.toList) ∧
        (IsPadded text.toList → e.diagnostic.toList =
          text.toList.takeWhile (· ≠ '\n') ++ '\n' :: Text.stripRight text.toList) := by
  refine ⟨ofReport_eq_ok_iff text, fun e he => ?_⟩
  obtain ⟨honce, htwice⟩ := diagnostic_eq he hwords
  refine ⟨⟨fun h hpadded => ?_, honce⟩, htwice⟩
  have hlength := congrArg List.length (h.symm.trans (htwice hpadded))
  rw [List.length_append, List.length_cons] at hlength
  omega

/-- Blanks inside of a report stay, also those behind its first line. -/
theorem diagnostic_of_report_of_blanks :
    let text := "Error: a \n\n  b\n    at <eval> (<input>:3)\n \n"
    Text.isAllBlank text.toList = false ∧
      ∃ e, ofReport text = .ok e ∧ e.line = some 3 ∧
        e.diagnostic = "Error: a \n\n  b\n    at <eval> (<input>:3)" := by
  intro text
  have hwords : Text.isAllBlank text.toList = false := by decide +kernel
  have hposition : Position.ofReport? text.toList = some ⟨['3'], none⟩ := by decide +kernel
  have hreadable : ∀ p, Position.ofReport? text.toList = some p → p.IsReadable := by
    intro p hp
    rw [hposition] at hp
    cases hp
    exact ⟨by decide, fun _ h => nomatch h⟩
  have hpadded : ¬ IsPadded text.toList := by
    rintro ⟨_, _, _, _, hline⟩
    exact hline (by decide +kernel)
  obtain ⟨hread, hshown⟩ := diagnostic_of_report text hwords
  obtain ⟨e, he⟩ := hread.2 hreadable
  refine ⟨hwords, e, he, ?_, String.toList_injective ?_⟩
  · rw [ofReport_of_isReadable hposition (hreadable _ hposition)] at he
    cases he
    decide
  · rw [(hshown e he).1.2 hpadded]
    decide +kernel

/-- One line with a blank behind it is shown twice, once with the blank and once without. -/
theorem padded_line_shown_twice :
    ∃ e, ofReport "x " = .ok e ∧ e.diagnostic = "x \nx" ∧
      String.ofList (Text.stripRight "x ".toList) = "x" :=
  ⟨unplaced "x ", by decide +kernel, by decide +kernel, by decide +kernel⟩

end EvaluationError

end DocExamples
