import DocExamples.Proofs.Document.Frame

/-!
# What stands outside comments

What counts as a comment is decided twice when an annotation of a value is taken. The
line is scanned for its comments, literals respected; and the code that is to be compared
is trimmed and asked for its first characters only. This file has both answers side by
side.

`Comment.outside` is what the scan leaves of a line: the characters that belong to no
comment. A line of which it leaves nothing but blanks starts with a comment, and there the
two answers agree. They differ for a line that starts with a comment and goes on with
code.

The scan of a line is the scan of its front, as long as the comment of the line lies behind
that front. `scanFrom_of_start_append` says so for a front and one blank, which is how an
annotation stands behind its code.
-/

namespace DocExamples

namespace Text

theorem getLast?_strip_ne {s : List Char} {c : Char} (hc : isBlank c = true) :
    (strip s).getLast? ≠ some c := by
  intro h
  obtain ⟨front, hfront⟩ := List.getLast?_eq_some_iff.1 h
  have hne : List.rdropWhile isBlank (stripLeft s) ≠ [] := by
    intro hnil
    rw [show strip s = [] from hnil] at h
    cases h
  refine List.rdropWhile_last_not isBlank (stripLeft s) hne ?_
  have hlast : (strip s).getLast hne = c := List.getLast_of_getLast?_eq_some h
  rw [← hlast] at hc
  exact hc

theorem isAllBlank_append {s t : List Char} :
    isAllBlank (s ++ t) = (isAllBlank s && isAllBlank t) := List.all_append

theorem stripLeft_append_of_not {s : List Char} (h : isAllBlank s = false) (t : List Char) :
    stripLeft (s ++ t) = stripLeft s ++ t ∧ indentOf (s ++ t) = indentOf s := by
  obtain ⟨c, hc, hblank⟩ := List.all_eq_false.1 h
  have hne : stripLeft s ≠ [] := fun hnil => hblank (List.dropWhile_eq_nil_iff.1 hnil c hc)
  have hlength : (indentOf s).length ≠ s.length := by
    have hsum := congrArg List.length (indentOf_append_stripLeft s)
    rw [List.length_append] at hsum
    have hpos := List.length_pos_iff.2 hne
    omega
  constructor
  · rw [stripLeft, List.dropWhile_append, if_neg]
    · rfl
    · rw [List.isEmpty_iff]
      exact hne
  · rw [indentOf, List.takeWhile_append]
    exact if_neg hlength

end Text

namespace Comment

/-! ## The comment of a line -/

/-- A comment that runs to the end of a line does not start where a block comment is open. -/
theorem le_start_of_comment {before rest : List Char} {i : Nat}
    (h : (scanFrom .comment before rest).start = some i) : before.length + 2 ≤ i := by
  induction rest generalizing before with
  | nil => cases h
  | cons c rest ih =>
      by_cases hmark : ∃ more, c = '*' ∧ rest = '/' :: more
      · obtain ⟨more, rfl, rfl⟩ := hmark
        have hcode : (scanFrom .code ('/' :: '*' :: before) more).start = some i := h
        obtain ⟨k, hi, -⟩ := startsComment_of_start hcode
        exact hi ▸ Nat.le_add_right _ k
      · rw [scanFrom] at h
        · exact Nat.le_of_succ_le (ih h)
        · exact fun more hc hrest => hmark ⟨more, hc, hrest⟩

/-- Where the comment of a line starts one blank behind some text of it, the text itself
has no comment that runs to its end, and it leaves none open. -/
theorem scanFrom_of_start_append {mode : Mode} {before line tail : List Char}
    (h : (scanFrom mode before (line ++ ' ' :: tail)).start =
      some (before.length + (line.length + 1))) :
    scanFrom mode before line = ⟨false, none⟩ := by
  -- in each step the scan of the longer line goes the way of the scan of its front, since
  -- the blank completes no mark
  fun_induction scanFrom mode before line with
  | case1 before => exact absurd (le_start_of_comment h) (by simp)
  | case2 before rest ih =>
      exact ih (h.trans (congrArg some (by simp only [List.length_cons]; omega)))
  | case3 before c rest hmark ih =>
      rw [List.cons_append, scanFrom] at h
      · exact ih (h.trans (congrArg some (by simp only [List.length_cons]; omega)))
      · intro more hc hrest
        obtain ⟨more', hrest'⟩ := eq_cons_of_append_cons (by decide) hrest
        exact hmark more' hc hrest'
  | case4 before => rfl
  | case5 before rest =>
      exact absurd (Option.some.inj h) (by simp only [List.length_cons]; omega)
  | case6 before rest ih =>
      exact ih (h.trans (congrArg some (by simp only [List.length_cons]; omega)))
  | case7 before c rest hline hblock ih =>
      rw [List.cons_append, scanFrom] at h
      · exact ih (h.trans (congrArg some (by simp only [List.length_cons]; omega)))
      · intro more hc hrest
        obtain ⟨more', hrest'⟩ := eq_cons_of_append_cons (by decide) hrest
        exact hline more' hc hrest'
      · intro more hc hrest
        obtain ⟨more', hrest'⟩ := eq_cons_of_append_cons (by decide) hrest
        exact hblock more' hc hrest'
  | case8 => rfl
  | case9 => rfl
  | case10 delimiter inClass before c rest ih =>
      exact ih (h.trans (congrArg some (by simp only [List.length_cons]; omega)))
  | case11 delimiter inClass before c rest hlast hescape ih =>
      have hc : c ≠ '\\' := by
        rintro rfl
        cases rest with
        | nil => exact hlast rfl rfl
        | cons d more => exact hescape d more rfl rfl
      rw [List.cons_append, scanFrom] at h
      · exact ih (h.trans (congrArg some (by simp only [List.length_cons]; omega)))
      · exact fun hslash _ => hc hslash
      · exact fun _ _ hslash _ => hc hslash

theorem scanFrom_start_of_startsComment {line : List Char}
    (h : Expectation.startsComment (Text.stripLeft line) = true) (before : List Char) :
    (scanFrom .code before line).start = some (before.length + (Text.indentOf line).length) := by
  induction line generalizing before with
  | nil => cases h
  | cons c rest ih =>
      cases hc : Text.isBlank c with
      | true =>
          rw [Text.stripLeft, List.dropWhile_cons_of_pos hc] at h
          rw [scanFrom_code_of_blank hc, ih h (c :: before), Text.indentOf, Text.indentOf,
            List.takeWhile_cons_of_pos hc, List.length_cons, List.length_cons, Nat.succ_add,
            Nat.add_succ]
      | false =>
          have hneg : ¬ Text.isBlank c = true := by rw [hc]; exact Bool.false_ne_true
          rw [Text.stripLeft, List.dropWhile_cons_of_neg hneg] at h
          obtain ⟨more, hmore⟩ := List.isPrefixOf_iff_prefix.1 h
          rw [Text.indentOf, List.takeWhile_cons_of_neg hneg, ← hmore]
          rfl

/-! ## The rest of a line -/

/-- The characters of the rest of a line that stand outside its comments. The marks of a
comment belong to it. -/
def outsideFrom : Mode → List Char → List Char → List Char
  | .comment, _, [] => []
  | .comment, before, '*' :: '/' :: rest => outsideFrom .code ('/' :: '*' :: before) rest
  | .comment, before, c :: rest => outsideFrom .comment (c :: before) rest
  | .code, _, [] => []
  | .code, _, '/' :: '/' :: _ => []
  | .code, before, '/' :: '*' :: rest => outsideFrom .comment ('*' :: '/' :: before) rest
  | .code, before, c :: rest =>
    c :: outsideFrom (if opensLiteral before c then .literal c false else .code) (c :: before) rest
  | .literal _ _, _, [] => []
  | .literal _ _, _, ['\\'] => ['\\']
  | .literal delimiter inClass, before, '\\' :: c :: rest =>
    '\\' :: c :: outsideFrom (.literal delimiter inClass) (c :: '\\' :: before) rest
  | .literal delimiter inClass, before, c :: rest =>
    c :: outsideFrom (afterLiteralChar delimiter inClass c) (c :: before) rest

/-- The characters of a line that stand outside its comments, where the line starts inside a
block comment or outside. -/
def outside (line : Line) (inComment : Bool) : List Char :=
  outsideFrom (if inComment then .comment else .code) [] line

theorem outsideFrom_subset (mode : Mode) (before rest : List Char) :
    outsideFrom mode before rest ⊆ rest := by
  fun_induction outsideFrom mode before rest with
  | case1 => exact List.Subset.refl _
  | case2 before rest ih =>
      exact List.Subset.trans ih
        (List.Subset.trans (List.subset_cons_self _ _) (List.subset_cons_self _ _))
  | case3 before c rest _ ih => exact List.Subset.trans ih (List.subset_cons_self _ _)
  | case4 => exact List.Subset.refl _
  | case5 => exact List.nil_subset _
  | case6 before rest ih =>
      exact List.Subset.trans ih
        (List.Subset.trans (List.subset_cons_self _ _) (List.subset_cons_self _ _))
  | case7 before c rest _ _ ih => exact List.cons_subset_cons c ih
  | case8 => exact List.Subset.refl _
  | case9 => exact List.Subset.refl _
  | case10 delimiter inClass before c rest ih =>
      exact List.cons_subset_cons _ (List.cons_subset_cons c ih)
  | case11 delimiter inClass before c rest _ _ ih => exact List.cons_subset_cons c ih

theorem outsideFrom_code_cons {c : Char} {rest : List Char}
    (hline : ¬ ['/', '/'] <+: c :: rest) (hblock : ¬ ['/', '*'] <+: c :: rest)
    (before : List Char) :
    outsideFrom .code before (c :: rest) =
      c :: outsideFrom (if opensLiteral before c then .literal c false else .code)
        (c :: before) rest := by
  rw [outsideFrom]
  · exact not_pair_iff.1 hline
  · exact not_pair_iff.1 hblock

/-- A line that is all comment starts with a comment. -/
theorem isPrefix_of_outsideFrom {before line : List Char}
    (h : Text.isAllBlank (outsideFrom .code before line) = true) :
    Text.isAllBlank line = true ∨ ['/', '/'] <+: Text.stripLeft line ∨
      ['/', '*'] <+: Text.stripLeft line := by
  induction line generalizing before with
  | nil => exact .inl rfl
  | cons c rest ih =>
      by_cases hline : ['/', '/'] <+: c :: rest
      · obtain ⟨more, hmore⟩ := hline
        rw [← hmore]
        exact .inr (.inl ⟨more, rfl⟩)
      by_cases hblock : ['/', '*'] <+: c :: rest
      · obtain ⟨more, hmore⟩ := hblock
        rw [← hmore]
        exact .inr (.inr ⟨more, rfl⟩)
      rw [outsideFrom_code_cons hline hblock, Text.isAllBlank, List.all_cons,
        Bool.and_eq_true] at h
      obtain ⟨hc, hrest⟩ := h
      rw [opensLiteral_of_blank hc] at hrest
      rw [Text.isAllBlank, List.all_cons, hc, Bool.true_and, Text.stripLeft,
        List.dropWhile_cons_of_pos hc]
      exact ih hrest

end Comment

namespace Expectation

theorem startsComment_of_withMarks? {words : List String} {line : Line} {a : Expectation}
    (h : withMarks? words line = some a) (hcode : Text.isAllBlank a.code = false) :
    startsComment (Text.stripLeft line) = false ∧
      ∃ comment, line = a.code ++ comment ∧ startsComment comment = true := by
  rw [withMarks?] at h
  split at h
  · cases h
  · next code comment hsplit =>
      obtain ⟨expected, -, rfl⟩ := Option.map_eq_some_iff.1 h
      rw [splitComment] at hsplit
      split at hsplit
      · cases hsplit
        cases hcode
      · next hstart =>
          obtain ⟨i, hi, heq⟩ := Option.map_eq_some_iff.1 hsplit
          cases heq
          obtain ⟨k, hik, hcomment⟩ := Comment.startsComment_of_start hi
          rw [List.length_nil, Nat.zero_add] at hik
          subst hik
          exact ⟨Bool.not_eq_true _ ▸ hstart, _, (List.take_append_drop i line).symm, hcomment⟩

theorem continuation?_of_code {words : List String} {line : Line} {a : Expectation}
    (h : withMarks? words line = some a) (hcode : Text.isAllBlank a.code = false) :
    continuation? line = none := by
  rw [continuation?, (startsComment_of_withMarks? h hcode).1]
  rfl

end Expectation

/-! ## The expression of a line -/

namespace Assertion

/-- Holds of the characters that an expression does not end with. -/
def endsBefore (c : Char) : Bool := c == ';' || Text.isBlank c

/-- The marks of a line that is taken for a comment: those that open one, and the star that
further lines of a block comment start with. -/
def commentMarks : List (List Char) := ["//".toList, "/*".toList, "*".toList]

/-- Holds of a line that starts, behind its blanks, with such a mark. -/
def StartsMarked (line : Line) : Prop := ∃ mark ∈ commentMarks, mark <+: Text.stripLeft line

/-- A line has no expression when it holds blanks and semicolons only, or when it starts
like a comment. -/
theorem expression?_eq_none_iff {line : Line} :
    expression? line = none ↔ (∀ c ∈ line, endsBefore c = true) ∨ StartsMarked line := by
  have hbody : expression? line = none ↔
      Text.dropTrailing endsBefore (Text.stripLeft line) = [] ∨
        ∃ mark ∈ commentMarks, mark <+: Text.dropTrailing endsBefore (Text.stripLeft line) := by
    have hends : (fun c => c == ';' || Text.isBlank c) = endsBefore := rfl
    simp only [expression?, hends, commentMarks, ite_eq_left_iff, reduceCtorEq, imp_false,
      not_not, Bool.or_eq_true, List.isEmpty_iff, List.isPrefixOf_iff_prefix, or_assoc,
      List.mem_cons, List.not_mem_nil, or_false, exists_eq_or_imp, exists_eq_left]
  have hmarks : ∀ mark ∈ commentMarks, mark.getLast?.any (fun c => !endsBefore c) = true := by
    decide
  have hempty : Text.dropTrailing endsBefore (Text.stripLeft line) = [] ↔
      ∀ c ∈ line, endsBefore c = true := by
    rw [Text.dropTrailing, List.reverse_eq_nil_iff, List.dropWhile_eq_nil_iff]
    simp only [List.mem_reverse]
    refine ⟨fun h c hc => ?_, fun h c hc => h c (Text.stripLeft_subset line hc)⟩
    rw [← Text.indentOf_append_stripLeft line, List.mem_append] at hc
    rcases hc with hindent | hrest
    · rw [endsBefore, List.mem_takeWhile_imp hindent, Bool.or_true]
    · exact h c hrest
  rw [hbody, hempty, StartsMarked]
  exact or_congr_right (exists_congr fun mark => and_congr_right fun h =>
    Text.prefix_dropTrailing_iff (hmarks mark h) _)

/-- The expression of a line is what stands between its indentation and the blanks and
semicolons at its end. -/
theorem expression?_eq_some {line e : List Char} (h : expression? line = some e) :
    e = Text.dropTrailing endsBefore (Text.stripLeft line) ∧ e ≠ [] := by
  simp only [expression?] at h
  split at h
  · cases h
  · next hnot =>
      obtain rfl := Option.some.inj h
      refine ⟨rfl, fun hnil => hnot ?_⟩
      rw [hnil]
      rfl

end Assertion

/-!
# A line cut at its comment

An annotation is a line comment, and it is split off its line before anyone looks at what it
says. That is sound only if the place of the cut does not depend on what the comment says.
The scan does move in jumps, over escapes, marks and whole literals, but none of them gets
past the place where a line comment starts, because that is a point where the scan stood in
code. So the text in front of the comment, which is all that the cut leaves of the line, is
scanned the same way with any comment behind it and with none.
-/

namespace Expectation

open Comment

/-- The code of a line in front of its comment; a line that has only blanks there has none. -/
def codeBefore (front : Line) : Line := if Text.isAllBlank front then [] else front

/-- The annotations that a line is searched for: of a value, of console values and of a
console line. -/
def matchers : List (Line → Option Expectation) := [returned?, logged?, output?]

/-- A comment is cut off behind any text that a scan leaves in code. -/
theorem splitComment_of_start {front tail : Line}
    (h : lineCommentStart (front ++ '/' :: '/' :: tail) = some front.length) :
    splitComment (front ++ '/' :: '/' :: tail) =
      some (codeBefore front, '/' :: '/' :: tail) := by
  rw [splitComment, codeBefore]
  cases hblank : Text.isAllBlank front with
  | true =>
      rw [Text.stripLeft_append_of_isAllBlank hblank]
      rfl
  | false =>
      obtain ⟨-, hindent⟩ := Text.stripLeft_append_of_not hblank ('/' :: '/' :: tail)
      have hshort : (Text.indentOf front).length ≠ front.length := by
        intro hlength
        have hall : Text.indentOf front = front :=
          (List.takeWhile_prefix Text.isBlank).eq_of_length hlength
        rw [Text.isAllBlank, List.all_eq_true.2 (List.takeWhile_eq_self_iff.1 hall)] at hblank
        cases hblank
      -- a comment at the first character that is no blank would start too far in front
      have hnot : ¬ startsComment (Text.stripLeft (front ++ '/' :: '/' :: tail)) = true := by
        intro hstarts
        have hstart := scanFrom_start_of_startsComment hstarts []
        rw [hindent, List.length_nil, Nat.zero_add] at hstart
        exact hshort (Option.some.inj (hstart.symm.trans h))
      rw [if_neg hnot, h]
      simp only [Option.map_some, List.take_left, List.drop_left, Bool.false_eq_true, if_false]

theorem code_of_matchers {line code comment : Line} (h : splitComment line = some (code, comment)) :
    ∀ matcher ∈ matchers, ∀ a, matcher line = some a → a.code = code := by
  have hmarks : ∀ words a, withMarks? words line = some a → a.code = code := by
    intro words a ha
    rw [withMarks?, h] at ha
    obtain ⟨expected, -, rfl⟩ := Option.map_eq_some_iff.1 ha
    rfl
  simp only [matchers, List.forall_mem_cons, List.not_mem_nil, false_imp_iff, implies_true, and_true]
  exact ⟨fun a ha => hmarks _ a (eq_some_of_nonEmpty ha),
    fun a ha => hmarks _ a (eq_some_of_nonEmpty ha), fun a ha => hmarks _ a ha⟩

/-- A line with a comment has two slashes where it starts. The text in front ends in code and
has no line comment of its own, and with any other comment behind it the line has its comment
at the same place. So what an annotation leaves of the line as its code depends on this text
alone, has no line comment, and is the same for all kinds of annotations. -/
theorem comment_cut {line : Line} {i : Nat} (h : lineCommentStart line = some i) :
    line = line.take i ++ "//".toList ++ line.drop (i + 2) ∧
      scan (line.take i) false = ⟨false, none⟩ ∧
      lineCommentStart (codeBefore (line.take i)) = none ∧
      ∀ tail, scan (line.take i ++ "//".toList ++ tail) false = ⟨false, some i⟩ ∧
        ∀ matcher ∈ matchers, ∀ a, matcher (line.take i ++ "//".toList ++ tail) = some a →
          a.code = codeBefore (line.take i) := by
  obtain ⟨front, more, hline, hi, hwalk⟩ := exists_front_of_start (a := .start line) h
  obtain rfl : line = front ++ '/' :: '/' :: more := hline
  obtain rfl : i = front.length := hi.trans (Nat.zero_add _)
  simp only [Point.start, List.append_nil] at hwalk
  have hfront : scan front false = ⟨false, none⟩ := by
    have hreach := hwalk [] (.nil _)
    rw [List.append_nil] at hreach
    exact Reaches.scan_eq hreach
  have htail : ∀ tail, scan (front ++ '/' :: '/' :: tail) false = ⟨false, some front.length⟩ := by
    intro tail
    have hscan : scan (front ++ '/' :: '/' :: tail) false = ⟨false, some front.reverse.length⟩ :=
      Reaches.scan_eq (hwalk ('/' :: '/' :: tail) (.cons '/' _ _))
    rwa [List.length_reverse] at hscan
  have hcode : lineCommentStart (codeBefore front) = none := by
    rw [codeBefore]
    split
    · rfl
    · exact congrArg Scan.start hfront
  have hslashes : ∀ tail, front ++ "//".toList ++ tail = front ++ '/' :: '/' :: tail :=
    fun tail => List.append_assoc front ['/', '/'] tail
  have hbehind : (front ++ '/' :: '/' :: more).drop (front.length + 2) = more := by
    rw [List.drop_length_add_append]
    rfl
  rw [List.take_left, hbehind]
  refine ⟨(hslashes more).symm, hfront, hcode, fun tail => ?_⟩
  rw [hslashes]
  exact ⟨htail tail, code_of_matchers (splitComment_of_start (congrArg Scan.start (htail tail)))⟩

/-- A comment behind a literal with slashes and a block comment. -/
theorem comment_cut_behind_literal :
    lineCommentStart "f('//') /* x */ // => 2".toList = some 16 ∧
      scan "f('//') /* x */ ".toList false = ⟨false, none⟩ ∧
      ∀ tail, scan ("f('//') /* x */ //".toList ++ tail) false = ⟨false, some 16⟩ ∧
        ∀ matcher ∈ matchers, ∀ a, matcher ("f('//') /* x */ //".toList ++ tail) = some a →
          a.code = "f('//') /* x */ ".toList := by
  have hstart : lineCommentStart "f('//') /* x */ // => 2".toList = some 16 := rfl
  obtain ⟨-, hfront, -, htail⟩ := comment_cut hstart
  exact ⟨hstart, hfront, htail⟩

end Expectation

end DocExamples
