import DocExamples.Proofs.Document.Values

/-!
# Annotations on a line of their own

An annotation of a value that has its line for itself is about the line above. What the
reader looks at is not that line but the last line of the code generated so far, and the
two are the same as long as the line above went into the code as it stands.

There are two ways in which they are not. The reader puts statements of its own in the
place of some comments, which `Draft.Replaces` lists; such a statement is an expression to
the annotation below it. And where a block comment of the document is left open by one line
and closed by the next, the text in front of the closing mark looks like code.
`Draft.EndsLike` says what is left when both are named: the last line of the code has an
expression exactly if the line above has one or was replaced.
-/

namespace DocExamples

open Expectation

namespace Text

theorem isAllBlank_indentOf (s : List Char) : isAllBlank (indentOf s) = true :=
  List.all_eq_true.2 fun _ hc => List.mem_takeWhile_imp hc

theorem isAllBlank_stripRight (s : List Char) :
    isAllBlank (stripRight s) = isAllBlank s := by
  have hrest : isAllBlank (s.rtakeWhile isBlank) = true :=
    List.all_eq_true.2 fun _ hc => List.mem_rtakeWhile_imp hc
  conv => rhs; rw [← dropTrailing_append_rtakeWhile isBlank s]
  rw [isAllBlank_append, hrest, Bool.and_true]
  rfl

end Text

namespace Assertion

/-! ## Lines that have an expression -/

theorem startsMarked_iff {line : Line} :
    StartsMarked line ↔ ['/', '/'] <+: Text.stripLeft line ∨
      ['/', '*'] <+: Text.stripLeft line ∨ ['*'] <+: Text.stripLeft line := by
  have hmarks : commentMarks = [['/', '/'], ['/', '*'], ['*']] := by decide
  rw [StartsMarked, hmarks]
  simp only [List.mem_cons, List.not_mem_nil, or_false, exists_eq_or_imp, exists_eq_left]

theorem expression?_of_isAllBlank {line : Line} (h : Text.isAllBlank line = true) :
    expression? line = none := by
  refine expression?_eq_none_iff.2 (.inl fun c hc => ?_)
  rw [endsBefore, List.all_eq_true.1 h c hc, Bool.or_true]

/-- A line that lies in comments as a whole starts like a comment if it starts outside of
one. -/
theorem expression?_of_outside {line : Line}
    (h : Text.isAllBlank (Comment.outside line false) = true) : expression? line = none := by
  rcases Comment.isPrefix_of_outsideFrom h with hblank | hprefix | hprefix
  · exact expression?_of_isAllBlank hblank
  · exact expression?_eq_none_iff.2 (.inr (startsMarked_iff.2 (.inl hprefix)))
  · exact expression?_eq_none_iff.2 (.inr (startsMarked_iff.2 (.inr (.inl hprefix))))

/-- What stands behind a line does not make it start like a comment, unless it completes
the mark of a comment. -/
theorem startsMarked_append {s t : List Char} (hs : Text.isAllBlank s = false)
    (ht : Text.stripLeft s = ['/'] → ∀ c ∈ t.head?, c ≠ '/' ∧ c ≠ '*') :
    StartsMarked (s ++ t) ↔ StartsMarked s := by
  rw [startsMarked_iff, startsMarked_iff, (Text.stripLeft_append_of_not hs t).1]
  rcases hu : Text.stripLeft s with _ | ⟨c, _ | ⟨c', more⟩⟩
  · have hall : Text.isAllBlank s = true :=
      List.all_eq_true.2 (List.dropWhile_eq_nil_iff.1 hu)
    rw [hall] at hs
    cases hs
  · rcases t with _ | ⟨b, rest⟩
    · rw [List.append_nil]
    · have hb := fun hc : c = '/' => ht (hc ▸ hu) b rfl
      simp only [List.cons_append, List.nil_append, List.cons_prefix_cons,
        List.nil_prefix, and_true, List.prefix_nil, reduceCtorEq, and_false, false_or]
      constructor
      · rintro (⟨rfl, rfl⟩ | ⟨rfl, rfl⟩ | hstar)
        · exact absurd rfl (hb rfl).1
        · exact absurd rfl (hb rfl).2
        · exact hstar
      · exact fun hstar => .inr (.inr hstar)
  · simp only [List.cons_append, List.cons_prefix_cons, List.nil_prefix]

theorem expression?_ne_none_of_word {indent rest : List Char} {c : Char}
    (hindent : Text.isAllBlank indent = true) (hends : endsBefore c = false)
    (hmark : c ≠ '/' ∧ c ≠ '*') : expression? (indent ++ c :: rest) ≠ none := by
  have hblank : ¬ Text.isBlank c = true := fun h => by
    rw [endsBefore, h, Bool.or_true] at hends
    cases hends
  have hstrip : Text.stripLeft (indent ++ c :: rest) = c :: rest := by
    rw [Text.stripLeft_append_of_isAllBlank hindent, Text.stripLeft,
      List.dropWhile_cons_of_neg hblank]
  rw [Ne, expression?_eq_none_iff, startsMarked_iff, hstrip]
  rintro (hall | hstart)
  · rw [hall c (List.mem_append_right _ (.head _))] at hends
    cases hends
  · simp only [List.cons_prefix_cons] at hstart
    rcases hstart with ⟨h, -⟩ | ⟨h, -⟩ | ⟨h, -⟩
    · exact hmark.1 h.symm
    · exact hmark.1 h.symm
    · exact hmark.2 h.symm

theorem equalCall_eq_cons (actual expected : List Char) :
    ∃ rest, equalCall actual expected = '_' :: rest := by
  have hcall : "__deepStrictEqual(".toList = '_' :: "_deepStrictEqual(".toList := by decide
  unfold equalCall
  rw [hcall]
  exact ⟨_, rfl⟩

theorem expression?_equalCall {indent : List Char} (hindent : Text.isAllBlank indent = true)
    (actual expected : List Char) : expression? (indent ++ equalCall actual expected) ≠ none := by
  obtain ⟨rest, hrest⟩ := equalCall_eq_cons actual expected
  rw [hrest]
  exact expression?_ne_none_of_word hindent (by decide) (by decide)

theorem expression?_capture (line e t : List Char) :
    expression? (capture (Text.indentOf line) e ++ t) ≠ none := by
  have hvariable : "var __returnValue = ".toList = 'v' :: "ar __returnValue = ".toList := by
    decide
  rw [capture_eq, hvariable]
  simp only [List.append_assoc, List.cons_append]
  exact expression?_ne_none_of_word (Text.isAllBlank_indentOf line) (by decide) (by decide)

theorem not_mem_append_drained {line : Line} (h : '\n' ∉ line) :
    '\n' ∉ line ++ ' ' :: drained := by
  rw [List.mem_append, List.mem_cons, not_or, not_or]
  exact ⟨h, by decide, not_mem_drained⟩

/-- With nothing but blanks in front of it a statement has the line for itself. -/
theorem afterCode_of_isAllBlank {code : List Char} (h : Text.isAllBlank code = true)
    (statement : List Char) (inComment : Bool) :
    afterCode code statement inComment = code ++ statement := by
  have hempty : (Text.stripRight code).isEmpty = true := by
    rw [List.isEmpty_iff]
    have hnil := Text.dropTrailing_append_of_all (s := []) (List.all_eq_true.1 h)
    exact hnil
  simp only [afterCode, hempty, if_true]

/-- A statement behind code leaves open only how the code starts. -/
theorem expression?_afterCode {code statement : List Char}
    (hcode : Text.isAllBlank code = false) (hs : ∃ c ∈ statement, endsBefore c = false)
    (inComment : Bool) :
    expression? (afterCode code statement inComment) = none ↔ StartsMarked code := by
  have hblank : Text.isAllBlank (Text.stripRight code) = false :=
    (Text.isAllBlank_stripRight code).trans hcode
  have hempty : (Text.stripRight code).isEmpty = false := by
    rw [List.isEmpty_eq_false_iff]
    intro hnil
    rw [hnil] at hblank
    cases hblank
  obtain ⟨t, hafter, hsub, hhead⟩ : ∃ t,
      afterCode code statement inComment = Text.stripRight code ++ t ∧ statement ⊆ t ∧
      ∀ c ∈ t.head?, c ≠ '/' ∧ c ≠ '*' := by
    simp only [afterCode, hempty, Bool.false_eq_true, if_false]
    split
    · refine ⟨[';', ' '] ++ statement, ?_, List.subset_append_right _ _, by simp⟩
      rw [List.append_assoc]
      rfl
    · exact ⟨[' '] ++ statement, rfl, List.subset_append_right _ _, by simp⟩
  have hmarked : StartsMarked (Text.stripRight code) ↔ StartsMarked code := by
    have hrest := startsMarked_append (t := code.rtakeWhile Text.isBlank) hblank
      fun _ c hc => by
        have hc' : Text.isBlank c = true :=
          List.mem_rtakeWhile_imp (List.mem_of_mem_head? hc)
        constructor <;> rintro rfl <;> cases hc'
    have hwhole : Text.stripRight code ++ code.rtakeWhile Text.isBlank = code :=
      Text.dropTrailing_append_rtakeWhile Text.isBlank code
    rw [hwhole] at hrest
    exact hrest.symm
  obtain ⟨c, hc, hends⟩ := hs
  rw [hafter, expression?_eq_none_iff, startsMarked_append hblank fun _ => hhead, hmarked,
    or_iff_right]
  intro hall
  rw [hall c (List.mem_append_right _ (hsub hc))] at hends
  cases hends

theorem expression?_of_withMarks? {words : List String} {line : Line} {a : Expectation}
    (h : withMarks? words line = some a) (hcode : Text.isAllBlank a.code = false) :
    expression? line = none ↔ StartsMarked a.code := by
  obtain ⟨hstart, comment, hline, hcomment⟩ := startsComment_of_withMarks? h hcode
  obtain ⟨more, rfl⟩ := List.isPrefixOf_iff_prefix.1 hcomment
  have hslash : "//".toList = ['/', '/'] := by decide
  rw [hslash] at hline
  -- a slash of the code in front of the comment would be the first of two slashes
  have hmarked : StartsMarked line ↔ StartsMarked a.code := by
    rw [hline]
    refine startsMarked_append hcode fun hsingle => ?_
    rw [hline, (Text.stripLeft_append_of_not hcode _).1, hsingle] at hstart
    cases hstart
  rw [expression?_eq_none_iff, hmarked, or_iff_right]
  intro hall
  have hends := hall '/' (by rw [hline]; exact List.mem_append_right _ (.head _))
  cases hends

end Assertion

namespace Draft

open Assertion

/-! ## Where the line above is not the last line of the code -/

/-- Holds of a comment line in whose place statements are written: it captures the value of
the line before, or it is an annotation of a console line, or a line of an output block. -/
structure Replaces (d : Draft) (line : Line) : Prop where
  outside : d.inComment = false
  comment : continuation? line ≠ none
  statement : d.capture? line ≠ none ∨ returned? line = none ∧
    (logged? line ≠ none ∨ d.block ≠ none ∨ nonEmpty (output? line) ≠ none)

theorem settle_replaces_iff {d : Draft} {line : Line} :
    (d.settle line).Replaces line ↔ d.Replaces line := by
  by_cases h : continuation? line = none
  · exact iff_of_false (fun hr => hr.comment h) fun hr => hr.comment h
  · rw [settle_of_continuation? h]

/-- Holds when the last line of the code has an expression exactly if the line of the document
has one or was replaced. -/
def EndsLike (d : Draft) (line : Line) (e : Draft) : Prop :=
  ∀ last older, e.code = last :: older →
    (expression? last = none ↔ expression? line = none ∧ ¬ d.Replaces line)

section Fed

variable {d e : Draft} {line : Line}

theorem endsLike_of_append {last : Line} (hlast : '\n' ∉ last)
    (hexpression : expression? last = none ↔ expression? line = none ∧ ¬ d.Replaces line)
    (hcode : e.code = d.code.append last) : EndsLike d line e := by
  intro last' older h
  rw [hcode, Code.append_of_not_mem hlast] at h
  obtain ⟨rfl, -⟩ := List.cons.inj h
  exact hexpression

theorem not_replaces (hr : d.inComment = false → returned? line = none)
    (hl : logged? line = none) (hb : d.block = none) (ho : nonEmpty (output? line) = none) :
    ¬ d.Replaces line := by
  intro h
  rcases h.statement with hcap | ⟨-, hlog | hblock | houtput⟩
  · exact hcap (capture?_eq_none hr)
  · exact hlog hl
  · exact hblock hb
  · exact houtput ho

theorem endsLike_verbatim (hline : '\n' ∉ line) (hnot : ¬ d.Replaces line)
    (hcode : e.code = d.code.append line) : EndsLike d line e :=
  endsLike_of_append hline (and_iff_left hnot).symm hcode

/-- An annotation of a console line is replaced if it is alone, and else it goes behind its
code. -/
theorem endsLike_feedExpectation {words : List String} {a : Expectation}
    (ha : withMarks? words line = some a) (hline : '\n' ∉ line)
    {actual expected : List Char} (hstatement : '\n' ∉ equalCall actual expected)
    (hreplaces : continuation? line ≠ none → d.Replaces line) :
    EndsLike d line (d.feedExpectation a.code (equalCall actual expected)) := by
  have hfront : '\n' ∉ a.code := (not_mem_of_withMarks? hline ha).1
  refine endsLike_of_append (not_mem_afterCode hfront hstatement _) ?_ rfl
  -- alone on its line the annotation is a comment line, and behind code it is none
  cases hcode : Text.isAllBlank a.code with
  | true =>
      rw [afterCode_of_isAllBlank hcode]
      exact iff_of_false (expression?_equalCall hcode _ _) fun hand =>
        hand.2 (hreplaces (continuation?_of_withMarks? hline ha hcode))
  | false =>
      have hnot : ¬ d.Replaces line := fun hr => hr.comment (continuation?_of_code ha hcode)
      obtain ⟨rest, hrest⟩ := equalCall_eq_cons actual expected
      rw [expression?_afterCode hcode ⟨'_', by rw [hrest]; exact .head _, by decide⟩,
        expression?_of_withMarks? ha hcode, and_iff_left hnot]

/-- The closing line of a comment goes into the code with the call or without it, and has no
expression if it goes with it. -/
theorem expression?_of_close {t : List Char} (h : Text.strip line = "*/".toList) :
    expression? (line ++ ' ' :: t) = none ∧ expression? line = none := by
  have hmark : "*/".toList = ['*', '/'] := by decide
  have hstar : ['*'] <+: Text.stripLeft line := by
    refine List.IsPrefix.trans ?_ (Text.dropTrailing_isPrefix Text.isBlank (Text.stripLeft line))
    have hstrip : Text.dropTrailing Text.isBlank (Text.stripLeft line) = ['*', '/'] :=
      h.trans hmark
    rw [hstrip]
    exact ⟨['/'], rfl⟩
  have hmarked : StartsMarked line := startsMarked_iff.2 (.inr (.inr hstar))
  have hblank : Text.isAllBlank line = false := by
    rw [Text.isAllBlank, List.all_eq_false]
    exact ⟨'*', Text.stripLeft_subset line (hstar.subset (.head _)), by decide⟩
  have hmarked' : StartsMarked (line ++ ' ' :: t) :=
    (startsMarked_append hblank fun _ c hc => by
      obtain rfl := Option.some.inj hc
      exact ⟨by decide, by decide⟩).2 hmarked
  exact ⟨expression?_eq_none_iff.2 (.inr hmarked'), expression?_eq_none_iff.2 (.inr hmarked)⟩

/-- Outside comments, a line of the body is the last line of the code as far as expressions
go, unless it is replaced. -/
theorem Fed.endsLike (h : Fed d line e) (hd : d.BlockFits) (hlined : d.Lined)
    (hline : '\n' ∉ line)
    (hsettled : ∀ checked, d.block = some (.ofLines checked) → continuation? line ≠ none)
    (hc : e.inComment = false) : EndsLike d line e := by
  have hnever : d.inComment = true → ¬ d.Replaces line := by
    intro htrue hr
    rw [hr.outside] at htrue
    cases htrue
  -- either the line goes in as it stands, or it is replaced by a comparison, or it keeps its
  -- code in front of one
  cases h with
  | compared a hc' ha hcode =>
      have hmarks := eq_some_of_nonEmpty ha
      obtain ⟨hfront, hexpected⟩ := not_mem_of_withMarks? hline hmarks
      have hnot : ¬ d.Replaces line :=
        fun hr => hr.comment (continuation?_of_code hmarks hcode)
      cases hin : inlineReturn? a.code a.expected with
      | none =>
          rw [Option.getD_none]
          exact endsLike_verbatim hline hnot rfl
      | some stored =>
          rw [Option.getD_some]
          refine endsLike_of_append (not_mem_inlineReturn? hfront hexpected hin) ?_ rfl
          obtain ⟨x, hx, rfl⟩ := Option.map_eq_some_iff.1 hin
          rw [and_iff_left hnot]
          refine iff_of_false (expression?_capture a.code x _) fun hnone => ?_
          have hmarked := (expression?_of_withMarks? hmarks hcode).1 hnone
          rw [expression?_eq_none_iff.2 (.inr hmarked)] at hx
          cases hx
  | captured a hc' ha hcode code hcap =>
      obtain ⟨-, hexpected⟩ := not_mem_of_withMarks? hline (eq_some_of_nonEmpty ha)
      obtain ⟨last, older, stored, compared, -, hpair, rfl⟩ :=
        Code.captureLast?_eq_some hexpected hlined.lines hcap
      obtain ⟨x, -, heq⟩ := Option.map_eq_some_iff.1 hpair
      cases heq
      have hcapture : d.capture? line = some _ :=
        capture?_eq_some_iff.2 ⟨hc', a, ha, hcode, hcap⟩
      have hreplaces : d.Replaces line :=
        ⟨hc', continuation?_of_capture? hline hcapture,
          .inl (by rw [hcapture]; exact Option.some_ne_none _)⟩
      intro last' older' hlast
      obtain ⟨rfl, -⟩ := List.cons.inj hlast
      exact iff_of_false (expression?_equalCall (Text.isAllBlank_indentOf last) _ _)
        fun hand => hand.2 hreplaces
  | uncaptured a hc' ha hcode hcap =>
      refine endsLike_verbatim hline (fun hr => ?_) rfl
      rcases hr.statement with hcapture | ⟨hnone, -⟩
      · obtain ⟨code, hsome⟩ := Option.ne_none_iff_exists'.1 hcapture
        obtain ⟨-, b, hb, -, hlast⟩ := capture?_eq_some_iff.1 hsome
        obtain rfl := Option.some.inj (ha.symm.trans hb)
        rw [hcap] at hlast
        cases hlast
      · rw [ha] at hnone
        cases hnone
  | logged a hr ha =>
      have hmarks := eq_some_of_nonEmpty ha
      obtain ⟨-, hexpected⟩ := not_mem_of_withMarks? hline hmarks
      have hc' : d.inComment = false := hc
      have hstatement := not_mem_expectLogged hexpected false
      rw [hc']
      exact endsLike_feedExpectation hmarks hline hstatement fun hcont =>
        ⟨hc', hcont, .inr ⟨hr hc', .inl (by rw [ha]; exact Option.some_ne_none _)⟩⟩
  | shown a hr hl hb ha =>
      have hmarks := eq_some_of_nonEmpty ha
      have hc' : d.inComment = false := hc
      have hstatement := not_mem_expectOutput a.expected false
      rw [hc']
      exact endsLike_feedExpectation hmarks hline hstatement fun hcont =>
        ⟨hc', hcont, .inr ⟨hr hc', .inr (.inr (by rw [ha]; exact Option.some_ne_none _))⟩⟩
  | closed checked hr hl hb hm =>
      have hnot := hnever (hd.ofComment checked hb)
      by_cases hcloses : Text.strip line = "*/".toList ∧ checked ≠ 0
      · obtain ⟨hwith, hwithout⟩ := expression?_of_close hcloses.1 (t := drained)
        refine endsLike_of_append (not_mem_append_drained hline)
          (iff_of_true hwith ⟨hwithout, hnot⟩) ?_
        simp only [closeCommentBlock, if_pos hcloses, append]
      · refine endsLike_verbatim hline hnot ?_
        simp only [closeCommentBlock, if_neg hcloses, append]
  | checkedInComment checked hr hl hb hm =>
      have hc' : d.inComment = false := hc
      rw [hd.ofComment checked hb] at hc'
      cases hc'
  | checkedLine checked hr hl hb =>
      have hc' := hd.ofLines checked hb
      have hreplaces : d.Replaces line :=
        ⟨hc', hsettled checked hb,
          .inr ⟨hr hc', .inr (.inl (by rw [hb]; exact Option.some_ne_none _))⟩⟩
      have hblank : Text.isAllBlank [] = true := rfl
      exact endsLike_of_append (not_mem_expectOutput _ false)
        (iff_of_false (expression?_equalCall hblank _ _) fun hand => hand.2 hreplaces) rfl
  | openedLines a hr hl hb hc' ha he hcode =>
      have hnone : nonEmpty (output? line) = none := by
        rw [ha, nonEmpty, Option.filter_some, he]
        rfl
      exact endsLike_verbatim hline (not_replaces (fun _ => hr) hl hb hnone) rfl
  | openedComment hl hb hc' ho hs =>
      rw [show d.inComment = false from hc] at hc'
      cases hc'
  | plain hr hl hb ho hs => exact endsLike_verbatim hline (not_replaces hr hl hb ho) rfl

theorem endsLike_feed (hd : d.BlockFits) (hlined : d.Lined) (hline : '\n' ∉ line)
    (hc : (d.feed line).inComment = false) : EndsLike d line (d.feed line) := by
  intro last older hlast
  have hiff := (d.fed_feed line).endsLike (hd.settle line) (settle_code hlined line).2.2 hline
    (fun _ h => continuation?_of_settle h) hc last older hlast
  rwa [settle_replaces_iff] at hiff

end Fed

end Draft

/-! ## The annotation below -/

namespace Expectation

/-- A text goes on with one of two words that start differently, and not with both. -/
theorem dropMark_eq_none {word : String} {s t : List Char} (h : dropMark word s = some t)
    (hword : word.toList ≠ []) (other : String) (hother : other.toList ≠ [])
    (hne : word.toList.head? ≠ other.toList.head?) : dropMark other s = none := by
  have hhead : ∀ {w : List Char} (more : List Char), w ≠ [] → (w ++ more).head? = w.head? :=
    fun _ hw => List.head?_append_of_ne_nil _ hw
  unfold dropMark at h ⊢
  extract_lets at h ⊢
  split at h
  · next hprefix =>
      refine if_neg fun hprefix' => hne ?_
      obtain ⟨more, hmore⟩ := List.isPrefixOf_iff_prefix.1 hprefix
      obtain ⟨more', hmore'⟩ := List.isPrefixOf_iff_prefix.1 hprefix'
      rw [← hhead more hword, hmore, ← hmore', hhead more' hother]
  · cases h

/-- An annotation of a value is none of a console line. -/
theorem logged?_of_returned? {line : Line} {a : Expectation} (h : returned? line = some a) :
    logged? line = none ∧ output? line = none := by
  have hmarks := eq_some_of_nonEmpty h
  rw [withMarks?] at hmarks
  split at hmarks
  · cases hmarks
  · next code comment hsplit =>
      obtain ⟨t, ht, -⟩ := Option.map_eq_some_iff.1 hmarks
      rw [afterMarks, List.foldlM_cons] at ht
      obtain ⟨u, hu, -⟩ := Option.bind_eq_some_iff.1 ht
      obtain ⟨v, hv, -⟩ := Option.bind_eq_some_iff.1 hu
      have hlog := dropMark_eq_none hv (by decide) "log" (by decide) (by decide)
      have houtput := dropMark_eq_none hv (by decide) "output:" (by decide) (by decide)
      constructor
      · rw [logged?, withMarks?, hsplit]
        dsimp only
        rw [afterMarks, List.foldlM_cons, hlog]
        rfl
      · rw [output?, withMarks?, hsplit]
        dsimp only
        rw [afterMarks, List.foldlM_cons, houtput]
        rfl

end Expectation

namespace Draft

open Assertion

variable {d : Draft} {line : Line} {a : Expectation}

/-- Inside a comment an annotation of a value leaves all code as it is and adds a line, which
is the line of the document unless a block of output is open. -/
theorem feed_of_returned_inComment (hd : d.BlockFits) (hline : '\n' ∉ line)
    (hc : d.inComment = true) (ha : returned? line = some a) :
    ∃ added, (d.feed line).code = added :: d.code ∧ (d.block = none → added = line) := by
  obtain ⟨hlogged, houtput⟩ := logged?_of_returned? ha
  have hfed := d.fed_feed line
  rw [settle_of_inComment hd hc] at hfed
  obtain ⟨added, hadded⟩ : ∃ added, (d.feed line).code = added :: d.code := by
    rcases hfed.code_cases hline with hcap | ⟨-, added, -, hadded⟩
    · have hout := (capture?_eq_some_iff.1 hcap).1
      rw [hc] at hout
      cases hout
    · exact ⟨added, hadded⟩
  refine ⟨added, hadded, fun hb => ?_⟩
  have hverbatim : (d.feed line).code = d.code.append line := by
    generalize d.feed line = e at hfed
    cases hfed with
    | compared _ hc' => rw [hc] at hc'; cases hc'
    | captured _ hc' => rw [hc] at hc'; cases hc'
    | uncaptured _ hc' => rw [hc] at hc'; cases hc'
    | logged _ _ hl => rw [hlogged] at hl; cases hl
    | shown _ _ _ _ ho => rw [houtput] at ho; cases ho
    | closed _ _ _ hb' => rw [hb] at hb'; cases hb'
    | checkedInComment _ _ _ hb' => rw [hb] at hb'; cases hb'
    | checkedLine _ _ _ hb' => rw [hb] at hb'; cases hb'
    | openedLines _ _ _ _ hc' => rw [hc] at hc'; cases hc'
    | openedComment => rfl
    | plain => rfl
  rw [hadded, Code.append_of_not_mem hline] at hverbatim
  exact (List.cons.inj hverbatim).1

end Draft

namespace Parse

open Assertion

theorem Reachable.blockFits {p : Parse} (hp : Reachable p) :
    ∀ d, p.current = some d → d.BlockFits := by
  induction hp with
  | start => exact fun d h => nomatch h
  | @step p q line number _ hline h ih =>
      obtain ⟨kind, -, rfl⟩ := step_eq_ok h
      intro e he
      cases kind with
      | opening language =>
          cases he
          exact Draft.start_blockFits _ _ _
      | closing => cases he
      | skipNext => exact ih e he
      | share => exact ih e he
      | body =>
          obtain ⟨d, hd, rfl⟩ := Option.map_eq_some_iff.1 he
          exact Draft.feed_blockFits (ih d hd) (content line)

theorem kind_of_standing {line : Line} {a : Expectation} (hline : '\n' ∉ line)
    (ha : returned? (content line) = some a) (hcode : Text.isAllBlank a.code = true) :
    Fence.kind line = .ok .body := by
  have hcont := continuation?_of_withMarks? (not_mem_content hline)
    (eq_some_of_nonEmpty ha) hcode
  rw [← kind_content]
  refine Fence.kind_of_startsComment ?_
  rw [startsComment_strip]
  by_contra hnot
  exact hcont (by rw [continuation?]; exact if_neg hnot)

/-- An annotation of a value alone on its line, below a line of the body of the same example.
It stays the comment it is, and the code with it, if the line above has no expression and no
statement was written in its place; else the last line of the code becomes the expression
that is compared, which is that statement or the text of the line above. Inside a comment no
code is touched. A blank line is never taken. A line that lies in comments as a whole, and
starts outside of one, is taken only where a statement was written in its place. -/
theorem standing_return_kept {p : Parse} (hp : Reachable p) {d : Draft}
    (hd : p.current = some d) {above line : Line} (habove : '\n' ∉ above) (hline : '\n' ∉ line)
    (hkind : Fence.kind above = .ok .body) {a : Expectation}
    (ha : returned? (content line) = some a) (hcode : Text.isAllBlank a.code = true)
    (number : Nat) :
    ∃ e last older, p.step above number = .ok { p with current := some e } ∧
      e.code = last :: older ∧
      (e.inComment = false → expression? (content above) = none →
        ¬ d.Replaces (content above) →
        p.steps number [above, line] = .ok { p with
          current := some { e with code := content line :: e.code } }) ∧
      (e.inComment = false →
        expression? (content above) ≠ none ∨ d.Replaces (content above) → ∃ x,
        expression? last = some x ∧
        p.steps number [above, line] = .ok { p with
          current := some { e with
            code := (Text.indentOf last ++ expectReturned a.expected) ::
              capture (Text.indentOf last) x :: older } }) ∧
      (e.inComment = true → ∃ f added,
        p.steps number [above, line] = .ok { p with current := some f } ∧
        f.code = added :: e.code ∧ (e.block = none → added = content line)) ∧
      (Text.isAllBlank (content above) = true →
        expression? (content above) = none ∧ ¬ d.Replaces (content above)) ∧
      (Text.isAllBlank (Comment.outside (content above) false) = true →
        expression? (content above) = none) := by
  have habove' := not_mem_content habove
  have hline' := not_mem_content hline
  have hlined := hp.lined d hd
  have hfits := hp.blockFits d hd
  have hbody := kind_of_standing hline ha hcode
  have hsteps : p.steps number [above, line] = .ok { p with
      current := some ((d.feed (content above)).feed (content line)) } :=
    steps_body_pair hd hkind hbody number
  obtain ⟨hlength, -, hlined'⟩ := Draft.feed_code hlined habove'
  obtain ⟨last, older, hlast⟩ :=
    List.exists_cons_of_length_eq_add_one hlength
  have hsingle : '\n' ∉ last := hlined'.lines last (by rw [hlast]; exact .head _)
  refine ⟨d.feed (content above), last, older, step_body hd hkind number, hlast, ?_, ?_, ?_,
    ?_, expression?_of_outside⟩
  · intro hc hnone hnot
    have hkept := (Draft.endsLike_feed hfits hlined habove' hc last older hlast).2 ⟨hnone, hnot⟩
    rw [hsteps, Draft.feed_of_standing hline' hc ha hcode hsingle hlast, hkept]
    rfl
  · intro hc hsome
    have hne : expression? last ≠ none := by
      intro hnone
      obtain ⟨hnone', hnot⟩ :=
        (Draft.endsLike_feed hfits hlined habove' hc last older hlast).1 hnone
      exact hsome.elim (fun h => h hnone') fun h => hnot h
    obtain ⟨x, hx⟩ := Option.ne_none_iff_exists'.1 hne
    refine ⟨x, hx, ?_⟩
    rw [hsteps, Draft.feed_of_standing hline' hc ha hcode hsingle hlast, hx]
    rfl
  · intro hc
    obtain ⟨added, hadded, hverbatim⟩ := Draft.feed_of_returned_inComment
      (Draft.feed_blockFits hfits (content above)) hline' hc ha
    exact ⟨_, added, hsteps, hadded, hverbatim⟩
  · intro hblank
    refine ⟨expression?_of_isAllBlank hblank, fun hr => hr.comment ?_⟩
    have hnil : Text.stripLeft (content above) = [] :=
      List.dropWhile_eq_nil_iff.2 (List.all_eq_true.1 hblank)
    rw [continuation?, hnil]
    rfl

/-- Below a comment and below a call. -/
theorem standing_return_kept_below_comment :
    ∃ p, ({} : Parse).steps 1 ["```js".toList] = .ok p ∧ Reachable p ∧
      p.steps 2 ["// two".toList, "// => 4".toList] = .ok { p with
        current := some { Draft.start 1 .javascript false with
          code := ["// => 4".toList, "// two".toList] } } ∧
      p.steps 2 ["f()".toList, "// => 4".toList] = .ok { p with
        current := some { Draft.start 1 .javascript false with
          code := ["__deepStrictEqual(__returnValue, 4);".toList,
            "var __returnValue = f();".toList] } } := by
  have hsteps : ({} : Parse).steps 1 ["```js".toList] =
      .ok { current := some (.start 1 .javascript false) } := rfl
  have hp : Reachable { current := some (.start 1 .javascript false) } :=
    Reachable.start.steps (by decide) hsteps
  have ha : returned? (content "// => 4".toList) = some ⟨[], ['4']⟩ := by decide
  have hnot : ¬ (Draft.start 1 .javascript false).Replaces (content "// two".toList) := by
    rintro ⟨-, -, hcap | ⟨-, hlog | hblock | houtput⟩⟩
    · exact hcap (by decide)
    · exact hlog (by decide)
    · exact hblock rfl
    · exact houtput (by decide)
  obtain ⟨e, last, older, hstep, hcode, hkept, -⟩ := standing_return_kept hp rfl
    (show '\n' ∉ "// two".toList by decide) (show '\n' ∉ "// => 4".toList by decide) rfl ha
    rfl 2
  obtain ⟨e', last', older', hstep', hcode', -, hcaptured, -⟩ := standing_return_kept hp rfl
    (show '\n' ∉ "f()".toList by decide) (show '\n' ∉ "// => 4".toList by decide) rfl ha rfl 2
  obtain rfl : { Draft.start 1 .javascript false with code := ["// two".toList] } = e :=
    Option.some.inj (congrArg Parse.current (Except.ok.inj hstep))
  obtain rfl : { Draft.start 1 .javascript false with code := ["f()".toList] } = e' :=
    Option.some.inj (congrArg Parse.current (Except.ok.inj hstep'))
  obtain ⟨rfl, rfl⟩ := List.cons.inj hcode'
  obtain ⟨x, hx, hsteps'⟩ := hcaptured rfl (.inl (by decide))
  obtain rfl : "f()".toList = x := Option.some.inj ((by decide : some _ = _).trans hx)
  exact ⟨_, hsteps, hp, hkept rfl (by decide) hnot, hsteps'.trans (by decide)⟩

/-- The last line of a block comment, and an annotation of a console line, are both taken for
the expression that is compared. -/
theorem comment_captured :
    Text.isAllBlank (Comment.outside "two */".toList true) = true ∧
    Comment.openAfter "two */".toList true = false ∧
    Text.isAllBlank (Comment.outside "// log => 1".toList false) = true ∧
    (∃ p d, ({} : Parse).steps 1
        ["```js".toList, "/*".toList, "two */".toList, "// => 2".toList] = .ok p ∧
      p.current = some d ∧ d.code = ["__deepStrictEqual(__returnValue, 2);".toList,
        "var __returnValue = two */;".toList, "/*".toList]) ∧
    ∃ p d, ({} : Parse).steps 1
        ["```js".toList, "// log => 1".toList, "// => 2".toList] = .ok p ∧
      p.current = some d ∧ d.code = ["__deepStrictEqual(__returnValue, 2);".toList,
        ("var __returnValue = " ++
          "__deepStrictEqual(__nextOutput(), __formatOutput([1]));").toList] :=
  ⟨by decide, by decide, by decide, ⟨_, _, rfl, rfl, by decide⟩, ⟨_, _, rfl, rfl, by decide⟩⟩

end Parse

end DocExamples
