import DocExamples.Proofs.Document.Frame
import Mathlib.Data.List.ModifyLast

/-!
# Output blocks line by line

An output block turns each of its lines into one check. Whether a line belongs to a
block is asked again for every line, behind all the questions about annotations, so
that a block of any length is what it looks like has to be shown one line at a time.
The two forms share their shape: a line that opens the block, any number of lines of
which each adds its check and raises the count by one, and a line that ends it.

They end differently. A block of `//` lines is ended by a line that is none, which then
does what it would do without the block; the call that nothing is left goes to the last
check. A block in a comment is ended by the line that closes the comment, and that line
takes the call.
-/

namespace DocExamples

/-! ## Comment lines -/

namespace Text

/-- A text is what trimming leaves of it, between blanks. -/
theorem eq_append_strip_append (s : List Char) :
    ∃ indent trail, isAllBlank indent = true ∧ isAllBlank trail = true ∧
      s = indent ++ strip s ++ trail := by
  refine ⟨indentOf s, (stripLeft s).rtakeWhile isBlank, ?_, ?_, ?_⟩
  · exact List.all_eq_true.2 fun c hc => List.mem_takeWhile_imp hc
  · exact List.all_eq_true.2 fun c hc => List.mem_rtakeWhile_imp hc
  · have hsplit : strip s ++ (stripLeft s).rtakeWhile isBlank = stripLeft s :=
      dropTrailing_append_rtakeWhile isBlank (stripLeft s)
    rw [List.append_assoc, hsplit, indentOf_append_stripLeft]

end Text

namespace Expectation

theorem strip_of_startsComment {line more : Line}
    (h : Text.stripLeft line = '/' :: '/' :: more) :
    Text.strip line = '/' :: '/' :: Text.stripRight more := by
  rw [Text.strip, h]
  exact Text.dropTrailing_append_cons_of_not (p := Text.isBlank) (by decide) ['/'] more

theorem startsComment_strip (line : Line) :
    startsComment (Text.strip line) = startsComment (Text.stripLeft line) := by
  rw [Bool.eq_iff_iff]
  constructor
  · intro h
    obtain ⟨more, hmore⟩ := List.isPrefixOf_iff_prefix.1 h
    have hsplit := Text.dropTrailing_append_rtakeWhile Text.isBlank (Text.stripLeft line)
    have hfront : Text.strip line ++ (Text.stripLeft line).rtakeWhile Text.isBlank =
        Text.stripLeft line := hsplit
    rw [← hfront, ← hmore]
    rfl
  · intro h
    obtain ⟨more, hmore⟩ := List.isPrefixOf_iff_prefix.1 h
    rw [strip_of_startsComment hmore.symm]
    rfl

/-- The text of a line that is a comment as a whole. -/
def commentText (line : Line) : Line := Text.strip ((Text.strip line).drop 2)

theorem continuation?_eq_commentText {line : Line} (hline : '\n' ∉ line)
    (h : startsComment (Text.strip line) = true) :
    continuation? line = some (commentText line) := by
  rw [startsComment_strip] at h
  rw [continuation?_of_startsComment hline h, commentText]
  obtain ⟨more, hmore⟩ := List.isPrefixOf_iff_prefix.1 h
  have htext : Text.strip (Text.stripRight more) = Text.strip more :=
    Text.strip_dropTrailing (fun _ hc => hc) more
  rw [strip_of_startsComment hmore.symm, ← hmore]
  exact congrArg some htext.symm

theorem continuation?_eq_none {line : Line}
    (h : startsComment (Text.strip line) = false) : continuation? line = none := by
  rw [startsComment_strip] at h
  rw [continuation?]
  exact if_neg (by rw [h]; exact Bool.false_ne_true)

end Expectation

/-- A comment line is no fence and no directive. -/
theorem Fence.kind_of_startsComment {line : Line}
    (h : Expectation.startsComment (Text.strip line) = true) :
    Fence.kind line = .ok .body := by
  obtain ⟨more, hmore⟩ := List.isPrefixOf_iff_prefix.1 h
  have hlanguage : Fence.language? line = .ok none := by
    rw [Fence.language?, Fence.tag?, ← hmore]
    rfl
  rw [Fence.kind_eq, hlanguage, ← hmore]
  rfl

/-! ## The lines of a block -/

/-- A bare `// output:`, which opens a block of `//` lines. One blank may stand in front of
the word. -/
structure OpensLines (line : Line) : Prop where
  form : ∃ gap, gap.length ≤ 1 ∧ Text.isAllBlank gap = true ∧
    Text.strip line = "//".toList ++ gap ++ "output:".toList
  single : '\n' ∉ line

/-- A comment line that carries no annotation of a value and none of console values. -/
structure ContinuesLines (line : Line) : Prop where
  starts : Expectation.startsComment (Text.strip line) = true
  returned : Expectation.returned? (Parse.content line) = none
  logged : Expectation.logged? (Parse.content line) = none
  single : '\n' ∉ line

/-- A closing fence, or a line of the body that is no comment line. -/
def EndsLines (line : Line) : Prop :=
  Fence.kind line = .ok .closing ∨
    Fence.kind line = .ok .body ∧ Expectation.startsComment (Text.strip line) = false

/-- A line of a block inside a comment: it does not close the comment and carries no
annotation of console values. -/
structure ContinuesComment (line : Line) : Prop where
  body : Fence.kind line = .ok .body
  inside : Draft.closesComment (Parse.content line) = false
  logged : Expectation.logged? (Parse.content line) = none

namespace Expectation

/-- After a comment mark, a word of its own is the only one that is taken for a mark. -/
theorem dropMark_gap {gap : List Char} (hlength : gap.length ≤ 1)
    (hblank : Text.isAllBlank gap = true) (word : String) (rest : List Char) (c : Char)
    (hc : Text.isBlank c = false) :
    dropMark word (gap ++ c :: rest) =
      if word.toList.isPrefixOf (c :: rest) then some ((c :: rest).drop word.length)
      else none := by
  rcases gap with _ | ⟨g, _ | ⟨g', gap⟩⟩
  · rw [List.nil_append, dropMark]
    simp only [hc, Bool.false_eq_true, if_false]
  · have hg : Text.isBlank g = true := List.all_eq_true.1 hblank g List.mem_cons_self
    rw [List.singleton_append, dropMark]
    simp only [hg, if_true]
  · exact absurd hlength (by simp)

end Expectation

namespace OpensLines

variable {line : Line} (h : OpensLines line)
include h

/-- The line without the blanks in front of it. -/
theorem stripLeft_eq : ∃ gap trail, gap.length ≤ 1 ∧ Text.isAllBlank gap = true ∧
    Text.isAllBlank trail = true ∧
    Text.stripLeft line = "//".toList ++ (gap ++ ("output:".toList ++ trail)) := by
  obtain ⟨gap, hlength, hblank, hstrip⟩ := h.form
  obtain ⟨indent, trail, hindent, htrail, hline⟩ := Text.eq_append_strip_append line
  refine ⟨gap, trail, hlength, hblank, htrail, ?_⟩
  rw [hline, hstrip, List.append_assoc, Text.stripLeft_append_of_isAllBlank hindent]
  simp only [List.append_assoc]
  rfl

theorem starts : Expectation.startsComment (Text.strip line) = true := by
  obtain ⟨gap, -, -, hstrip⟩ := h.form
  rw [hstrip, List.append_assoc]
  exact List.isPrefixOf_iff_prefix.2 (List.prefix_append _ _)

theorem withMarks?_eq (words : List String) : ∃ gap trail, gap.length ≤ 1 ∧
    Text.isAllBlank gap = true ∧ Text.isAllBlank trail = true ∧ '\n' ∉ trail ∧
    Expectation.withMarks? words line =
      ((words.foldlM (fun s word => Expectation.dropMark word s)
        (gap ++ ("output:".toList ++ trail))).bind Text.wholeLine).map
          fun expected => ⟨[], Text.strip expected⟩ := by
  obtain ⟨gap, trail, hlength, hblank, htrail, heq⟩ := h.stripLeft_eq
  refine ⟨gap, trail, hlength, hblank, htrail, fun hm => h.single ?_, ?_⟩
  · refine Text.stripLeft_subset line ?_
    rw [heq]
    simp only [List.mem_append, hm, or_true]
  · have hsplit : Expectation.splitComment line = some ([], Text.stripLeft line) := by
      have hstarts := h.starts
      rw [Expectation.startsComment_strip] at hstarts
      rw [Expectation.splitComment]
      exact if_pos hstarts
    rw [Expectation.withMarks?, hsplit]
    dsimp only
    rw [Expectation.afterMarks, heq, List.drop_append_of_le_length (by decide)]
    rfl

theorem output? : Expectation.output? line = some ⟨[], []⟩ := by
  obtain ⟨gap, trail, hlength, hblank, htrail, hline, heq⟩ := h.withMarks?_eq ["output:"]
  have hmark : Expectation.dropMark "output:" (gap ++ ("output:".toList ++ trail)) =
      some trail :=
    Expectation.dropMark_gap hlength hblank "output:" ("utput:".toList ++ trail) 'o'
      (by decide)
  have hstrip : Text.strip trail = [] := by
    have hnil := Text.strip_append_of_all (s := []) (List.all_eq_true.1 htrail)
    exact hnil
  rw [Expectation.output?, heq, List.foldlM_cons, hmark]
  show ((some trail).bind Text.wholeLine).map _ = _
  rw [Option.bind_some, Text.wholeLine_of_not_mem hline, Option.map_some, hstrip]

theorem returned? : Expectation.returned? line = none := by
  obtain ⟨gap, trail, hlength, hblank, -, -, heq⟩ := h.withMarks?_eq ["=>"]
  have hmark : Expectation.dropMark "=>" (gap ++ ("output:".toList ++ trail)) = none :=
    Expectation.dropMark_gap hlength hblank "=>" ("utput:".toList ++ trail) 'o' (by decide)
  rw [Expectation.returned?, heq, List.foldlM_cons, hmark]
  rfl

theorem logged? : Expectation.logged? line = none := by
  obtain ⟨gap, trail, hlength, hblank, -, -, heq⟩ := h.withMarks?_eq ["log", "=>"]
  have hmark : Expectation.dropMark "log" (gap ++ ("output:".toList ++ trail)) = none :=
    Expectation.dropMark_gap hlength hblank "log" ("utput:".toList ++ trail) 'o' (by decide)
  rw [Expectation.logged?, heq, List.foldlM_cons, hmark]
  rfl

theorem content : OpensLines (Parse.content line) where
  form := by
    rw [Parse.strip_content]
    exact h.form
  single := fun hm => h.single (Parse.content_subset line hm)

end OpensLines

/-- With one slash at most, a line holds no comment and so no annotation. -/
theorem Expectation.withMarks?_eq_none {words : List String} {line : Line}
    (h : line.count '/' ≤ 1) : withMarks? words line = none := by
  have hslashes : ∀ {s : List Char}, startsComment s = true → 2 ≤ s.count '/' := by
    intro s hs
    obtain ⟨more, rfl⟩ := List.isPrefixOf_iff_prefix.1 hs
    rw [List.count_append]
    exact Nat.le_add_right 2 _
  have hsplit : splitComment line = none := by
    rw [splitComment]
    split
    · next hstart =>
        have hle : (line.dropWhile Text.isBlank).count '/' ≤ line.count '/' :=
          (List.dropWhile_sublist Text.isBlank).count_le '/'
        have htwo := hslashes hstart
        exact absurd (Nat.le_trans htwo hle) (by omega)
    · rw [Option.map_eq_none_iff]
      cases hi : Comment.lineCommentStart line with
      | none => rfl
      | some i =>
          obtain ⟨k, -, hstart⟩ := Comment.startsComment_of_start hi
          have hle := (List.drop_sublist k line).count_le '/'
          have htwo := hslashes hstart
          exact absurd (Nat.le_trans htwo hle) (by omega)
  rw [withMarks?, hsplit]

/-- Trimming keeps every character that is not blank. -/
theorem Text.count_strip {c : Char} (hc : isBlank c = false) (s : List Char) :
    (strip s).count c = s.count c := by
  obtain ⟨indent, trail, hindent, htrail, heq⟩ := eq_append_strip_append s
  have hnone : ∀ {t : List Char}, isAllBlank t = true → t.count c = 0 := by
    intro t ht
    refine List.count_eq_zero.2 fun hm => ?_
    rw [List.all_eq_true.1 ht c hm] at hc
    cases hc
  conv => rhs; rw [heq]
  rw [List.count_append, List.count_append, hnone hindent, hnone htrail]
  omega

namespace Comment

theorem scanFrom_code_of_isAllBlank {s : List Char} (h : Text.isAllBlank s = true)
    (before : List Char) : (scanFrom .code before s).openAfter = false := by
  induction s generalizing before with
  | nil => rfl
  | cons c rest ih =>
      have hall := List.forall_mem_cons.1 (List.all_eq_true.1 h)
      rw [scanFrom_code_of_blank hall.1]
      exact ih (List.all_eq_true.2 hall.2) (c :: before)

theorem scanFrom_comment_of_close {indent trail : List Char}
    (hindent : Text.isAllBlank indent = true) (htrail : Text.isAllBlank trail = true)
    (before : List Char) :
    (scanFrom .comment before (indent ++ ("*/".toList ++ trail))).openAfter = false := by
  induction indent generalizing before with
  | nil => exact scanFrom_code_of_isAllBlank htrail _
  | cons c rest ih =>
      have hall := List.forall_mem_cons.1 (List.all_eq_true.1 hindent)
      have hstar : c ≠ '*' := by
        rintro rfl
        exact absurd hall.1 (by decide)
      rw [List.cons_append, scanFrom]
      · exact ih (List.all_eq_true.2 hall.2) (c :: before)
      · exact fun _ hc _ => hstar hc

/-- A line that only closes a comment leaves none open. -/
theorem openAfter_of_close {line : Line} (h : Text.strip line = "*/".toList) :
    openAfter line true = false := by
  obtain ⟨indent, trail, hindent, htrail, hline⟩ := Text.eq_append_strip_append line
  rw [h, List.append_assoc] at hline
  rw [hline]
  exact scanFrom_comment_of_close hindent htrail []

end Comment

namespace Draft

theorem closesComment_append (s t : List Char) :
    closesComment (s ++ '*' :: '/' :: t) = true := by
  induction s with
  | nil => rfl
  | cons c rest ih =>
      rw [List.cons_append]
      unfold closesComment
      split
      · rfl
      · next heq => cases heq; exact ih
      · next heq => cases heq

theorem closesComment_of_strip {line : Line} (h : Text.strip line = "*/".toList) :
    closesComment line = true := by
  obtain ⟨indent, trail, -, -, hline⟩ := Text.eq_append_strip_append line
  rw [h, List.append_assoc] at hline
  rw [hline]
  exact closesComment_append indent trail

/-! ## One line of a block -/

section Lines

variable {d : Draft} {line : Line}

/-- The code of an example with more lines behind it, in the order in which they come. -/
def withLines (d : Draft) (lines : List Line) (block : Option OutputBlock) : Draft :=
  { d with code := lines.reverse ++ d.code, block := block }

theorem append_withLines {lines : List Line} (block : Option OutputBlock)
    {block' : Option OutputBlock} (hline : '\n' ∉ line) :
    { (d.withLines lines block).append line with block := block' } =
      d.withLines (lines ++ [line]) block' := by
  have hcode : Code.append (lines.reverse ++ d.code) line =
      (lines ++ [line]).reverse ++ d.code := by
    rw [Code.append_of_not_mem hline, List.reverse_append]
    rfl
  exact congrArg (fun code => { d with code := code, block := block' }) hcode

/-- A bare `// output:` opens a block of `//` lines. -/
theorem feed_opensLines (hb : d.block = none) (hc : d.inComment = false)
    (h : OpensLines line) : d.feed line = d.withLines [line] (some (.ofLines 0)) := by
  have hcont : Expectation.continuation? line ≠ none := by
    rw [Expectation.continuation?_eq_commentText h.single h.starts]
    exact Option.some_ne_none _
  have hopen : d.feedOpen line = { d.append line with block := some (.ofLines 0) } := by
    rw [feedOpen, hc, h.returned?, h.logged?, h.output?, hb]
    simp only [feedPlain, hb, hc]
    rfl
  have hself : d.withLines [] d.block = d := rfl
  rw [← hself] at hopen
  rw [feed, ← settle, settle_of_continuation? hcont]
  exact hopen.trans (append_withLines _ h.single)

/-- A comment line in a block of `//` lines adds its check. -/
theorem feed_continuesLines (hc : d.inComment = false) (h : ContinuesLines line)
    (lines : List Line) (checked : Nat) :
    (d.withLines lines (some (.ofLines checked))).feed (Parse.content line) =
      d.withLines (lines ++ [Assertion.expectOutput (Expectation.commentText line) false])
        (some (.ofLines (checked + 1))) := by
  have hcont : Expectation.continuation? (Parse.content line) =
      some (Expectation.commentText line) := by
    have hstarts := h.starts
    rw [← Parse.strip_content line] at hstarts
    rw [Expectation.continuation?_eq_commentText
      (fun hm => h.single (Parse.content_subset line hm)) hstarts,
      Expectation.commentText, Parse.strip_content]
    rfl
  have hc' : (d.withLines lines (some (.ofLines checked))).inComment = false := hc
  rw [feed, hcont]
  show (d.withLines lines (some (.ofLines checked))).feedOpen (Parse.content line) = _
  rw [feedOpen, hc', h.returned, h.logged]
  show (d.withLines lines (some (.ofLines checked))).feedPlain (Parse.content line) _ = _
  rw [← append_withLines (some (.ofLines checked))
    (Assertion.not_mem_expectOutput (Expectation.commentText line) false)]
  simp only [feedPlain, withLines, hcont]
  rfl

theorem finishLines_of_not_ofLines (h : ∀ checked, d.block ≠ some (.ofLines checked)) :
    d.finishLines = d := by
  rcases d.finishLines_cases with heq | ⟨checked, hopen, _⟩
  · exact heq
  · exact absurd hopen (h checked)

/-- Outside a block of `//` lines there is none to be ended. -/
theorem settle_of_not_ofLines (h : ∀ checked, d.block ≠ some (.ofLines checked)) :
    d.settle line = d := by
  rcases d.settle_eq_or line with heq | heq
  · exact heq
  · rw [heq]
    exact finishLines_of_not_ofLines h

/-- The block of `//` lines is ended: the last check takes the call that nothing is
left. -/
theorem finishLines_withLines (opening : Line) (checks : List Line) :
    (d.withLines (opening :: checks) (some (.ofLines checks.length))).finishLines =
      d.withLines
        (opening :: checks.modifyLast fun check => check ++ ' ' :: Assertion.drained)
        none := by
  rcases List.eq_nil_or_concat' checks with rfl | ⟨front, last, rfl⟩
  · rfl
  · rw [List.modifyLast_concat, finishLines]
    have hlength : (front ++ [last]).length ≠ 0 := by simp
    simp only [withLines, if_neg hlength, List.reverse_cons, List.reverse_append,
      List.reverse_nil, List.nil_append, List.cons_append,
      Code.extendLast]

theorem finishLines_finishLines (d : Draft) : d.finishLines.finishLines = d.finishLines :=
  finishLines_of_not_ofLines d.finishLines_block_ne

/-- A line that is no comment line does after the end of a block what it does in it. -/
theorem feed_finishLines (h : Expectation.continuation? line = none) :
    d.finishLines.feed line = d.feed line := by
  rw [feed, feed, h, Option.isNone_none, if_pos rfl, if_pos rfl, finishLines_finishLines]

/-- A bare `output:` opens a block in a comment. -/
theorem feed_opensComment (hb : d.block = none) (hc : d.inComment = true)
    (hline : '\n' ∉ line) (h : Expectation.isOutputSentinel line = true) :
    d.feed line = d.withLines [line] (some (.ofComment 0)) := by
  have hcount : line.count '/' ≤ 1 := by
    rw [← Text.count_strip (by decide), of_decide_eq_true h]
    decide
  have hnone : ∀ words, Expectation.withMarks? words line = none :=
    fun words => Expectation.withMarks?_eq_none hcount
  have hopen : d.feedOpen line = { d.append line with block := some (.ofComment 0) } := by
    have hlogged : Expectation.logged? line = none := congrArg _ (hnone ["log", "=>"])
    have houtput : Expectation.output? line = none := hnone ["output:"]
    rw [feedOpen, hc, hlogged, houtput, hb]
    simp only [feedPlain, hb, hc, h]
    rfl
  have hself : d.withLines [] d.block = d := rfl
  rw [← hself] at hopen
  have hnot : ∀ checked, d.block ≠ some (.ofLines checked) := by
    intro checked hsome
    rw [hb] at hsome
    cases hsome
  rw [feed, ← settle, settle_of_not_ofLines hnot]
  exact hopen.trans (append_withLines _ hline)

/-- A line of a block in a comment adds its check, which closes the comment in front of
it and opens it again. -/
theorem feed_continuesComment (hc : d.inComment = true) (h : ContinuesComment line)
    (lines : List Line) (checked : Nat) :
    (d.withLines lines (some (.ofComment checked))).feed (Parse.content line) =
      d.withLines (lines ++ [Assertion.expectOutput (Text.strip line) true])
        (some (.ofComment (checked + 1))) := by
  have hc' : (d.withLines lines (some (.ofComment checked))).inComment = true := hc
  have hnot : ∀ n, (d.withLines lines (some (.ofComment checked))).block ≠
      some (.ofLines n) := fun n h => nomatch h
  rw [feed, ← settle, settle_of_not_ofLines hnot, feedOpen, hc', h.logged]
  show (d.withLines lines (some (.ofComment checked))).feedPlain (Parse.content line) _ = _
  rw [← append_withLines (some (.ofComment checked))
    (Assertion.not_mem_expectOutput (Text.strip line) true)]
  simp only [feedPlain, withLines, h.inside, Parse.strip_content]
  rfl

/-- The line that closes the comment ends the block in it; where a line was checked, it
takes the call that nothing is left. -/
theorem feed_closesComment (hc : d.inComment = true) (hline : '\n' ∉ line)
    (h : Text.strip line = "*/".toList) (lines : List Line) (checked : Nat) :
    (d.withLines lines (some (.ofComment checked))).feed (Parse.content line) =
      { d.withLines (lines ++ [if checked = 0 then Parse.content line
          else Parse.content line ++ ' ' :: Assertion.drained]) none with
        inComment := false } := by
  have hcontent : '\n' ∉ Parse.content line := fun hm => hline (Parse.content_subset line hm)
  have hstrip : Text.strip (Parse.content line) = "*/".toList :=
    (Parse.strip_content line).trans h
  have hcount : (Parse.content line).count '/' ≤ 1 := by
    rw [← Text.count_strip (by decide), hstrip]
    decide
  have hlogged : Expectation.logged? (Parse.content line) = none :=
    congrArg Expectation.nonEmpty (Expectation.withMarks?_eq_none hcount)
  have hc' : (d.withLines lines (some (.ofComment checked))).inComment = true := hc
  have hnot : ∀ n, (d.withLines lines (some (.ofComment checked))).block ≠
      some (.ofLines n) := fun n h => nomatch h
  have hclosing : (if Text.strip (Parse.content line) = "*/".toList ∧ checked ≠ 0
      then Parse.content line ++ ' ' :: Assertion.drained else Parse.content line) =
      if checked = 0 then Parse.content line
        else Parse.content line ++ ' ' :: Assertion.drained := by
    rcases Nat.eq_zero_or_pos checked with rfl | hpos
    · rw [if_neg fun hand => hand.2 rfl, if_pos rfl]
    · rw [if_pos ⟨hstrip, hpos.ne'⟩, if_neg hpos.ne']
  have hsingle : '\n' ∉ (if checked = 0 then Parse.content line
      else Parse.content line ++ ' ' :: Assertion.drained) := by
    split
    · exact hcontent
    · rw [List.mem_append, List.mem_cons, not_or, not_or]
      exact ⟨hcontent, by decide, Assertion.not_mem_drained⟩
  rw [feed, ← settle, settle_of_not_ofLines hnot, feedOpen, hc', hlogged]
  show (d.withLines lines (some (.ofComment checked))).feedPlain (Parse.content line) _ = _
  rw [← append_withLines (some (.ofComment checked)) hsingle, ← hclosing,
    ← Comment.openAfter_of_close hstrip]
  simp only [feedPlain, withLines, closesComment_of_strip hstrip]
  rfl

end Lines

/-- A run of lines of a block: each adds its check and raises the count by one. -/
theorem feedLines_withLines {d : Draft} (form : Nat → OutputBlock) {check : Line → Line}
    {body : List Line}
    (hbody : ∀ line ∈ body, ∀ lines checked,
      (d.withLines lines (some (form checked))).feed (Parse.content line) =
        d.withLines (lines ++ [check line]) (some (form (checked + 1))))
    (lines : List Line) (checked : Nat) :
    (d.withLines lines (some (form checked))).feedLines body =
      d.withLines (lines ++ body.map check) (some (form (checked + body.length))) := by
  induction body generalizing lines checked with
  | nil => rw [List.map_nil, List.append_nil]; rfl
  | cons line more ih =>
      obtain ⟨hline, hmore⟩ := List.forall_mem_cons.1 hbody
      rw [feedLines, List.foldl_cons, hline, ← feedLines, ih hmore, List.map_cons,
        List.append_assoc, List.singleton_append, List.length_cons, Nat.add_assoc,
        Nat.add_comm 1]

end Draft

namespace Parse

/-! ## A whole block -/

theorem steps_singleton (p : Parse) (number : Nat) (line : Line) :
    p.steps number [line] = p.step line number := by
  rw [steps]
  cases p.step line number <;> rfl

/-- Lines of the body, and one more line. -/
theorem steps_body_concat {p : Parse} {d : Draft} {number : Nat} {body : List Line}
    {last : Line} (hd : p.current = some d)
    (hbody : ∀ line ∈ body, Fence.kind line = .ok .body) :
    p.steps number (body ++ [last]) =
      ({ p with current := some (d.feedLines body) } : Parse).step last
        (number + body.length) := by
  rw [steps_append, steps_body hd hbody]
  exact steps_singleton _ _ last

/-- The line behind a block of `//` lines finds the block ended. -/
theorem step_of_endsLines {last : Line} (h : EndsLines last) (p : Parse) (d : Draft)
    (number : Nat) :
    ({ p with current := some d } : Parse).step last number =
      ({ p with current := some d.finishLines } : Parse).step last number := by
  rw [step_eq, step_eq]
  rcases h with hkind | ⟨hkind, hstarts⟩
  · rw [hkind]
    simp only [Except.map, stepKind, setAside, if_true, d.finishLines_finishLines]
  · rw [← strip_content] at hstarts
    have hfeed := d.feed_finishLines (Expectation.continuation?_eq_none hstarts)
    rw [hkind]
    simp only [Except.map, stepKind, Option.map_some, hfeed]

/-- With an example open and no block, a block of any length expands line by line. The
opening line stays. Outside a comment each comment line behind it becomes the check of its
text, the last check takes the call that nothing is left, and the line behind the block is
read as if there had been none. Inside a comment each line becomes a check that closes the
comment in front of it and opens it again, and the line that closes the comment takes the
call if there was a check. -/
theorem blocks_expand {p : Parse} {d : Draft} (hd : p.current = some d)
    (hb : d.block = none) (number : Nat) :
    (d.inComment = false → ∀ opening body last, OpensLines opening →
      (∀ line ∈ body, ContinuesLines line) → EndsLines last →
      p.steps number (opening :: body ++ [last]) =
        ({ p with current := some (d.withLines (content opening ::
            (body.map fun line =>
              Assertion.expectOutput (Expectation.commentText line) false).modifyLast
                fun check => check ++ ' ' :: Assertion.drained) none) } : Parse).step last
          (number + (body.length + 1))) ∧
    (d.inComment = true → ∀ opening body last, '\n' ∉ opening → '\n' ∉ last →
      Text.strip opening = "output:".toList → (∀ line ∈ body, ContinuesComment line) →
      Text.strip last = "*/".toList →
      p.steps number (opening :: body ++ [last]) =
        .ok { p with current := some { d.withLines (content opening ::
            body.map (fun line => Assertion.expectOutput (Text.strip line) true) ++
              [if body.length = 0 then content last
                else content last ++ ' ' :: Assertion.drained]) none with
          inComment := false } }) := by
  constructor
  · intro hc opening body last hopens hcontinues hends
    have hkinds : ∀ line ∈ opening :: body, Fence.kind line = .ok .body :=
      List.forall_mem_cons.2 ⟨Fence.kind_of_startsComment hopens.starts,
        fun line hl => Fence.kind_of_startsComment (hcontinues line hl).starts⟩
    have hblock := Draft.feedLines_withLines .ofLines
      (fun line hl => Draft.feed_continuesLines hc (hcontinues line hl)) [content opening] 0
    have hfed : d.feedLines (opening :: body) = _ :=
      (congrArg (·.feedLines body) (Draft.feed_opensLines hb hc hopens.content)).trans hblock
    have hlength : (body.map fun line =>
        Assertion.expectOutput (Expectation.commentText line) false).length = body.length :=
      List.length_map _
    rw [steps_body_concat hd hkinds, hfed, step_of_endsLines hends, Nat.zero_add,
      ← hlength, List.singleton_append, Draft.finishLines_withLines, hlength]
    rfl
  · intro hc opening body last hopening hlast hopens hcontinues hcloses
    have hkinds : ∀ line ∈ opening :: body, Fence.kind line = .ok .body :=
      List.forall_mem_cons.2
        ⟨(Fence.kind_congr (hopens.trans (by rfl : _ = Text.strip "output:".toList))).trans rfl,
          fun line hl => (hcontinues line hl).body⟩
    have hsentinel : Expectation.isOutputSentinel (content opening) = true := by
      rw [Expectation.isOutputSentinel, strip_content, hopens]
      rfl
    have hopened := Draft.feed_opensComment hb hc
      (fun hm => hopening (content_subset opening hm)) hsentinel
    have hblock := Draft.feedLines_withLines .ofComment
      (fun line hl => Draft.feed_continuesComment hc (hcontinues line hl)) [content opening] 0
    have hfed : d.feedLines (opening :: body) = _ :=
      (congrArg (·.feedLines body) hopened).trans hblock
    have hkind : Fence.kind last = .ok .body :=
      (Fence.kind_congr (hcloses.trans (by rfl : _ = Text.strip "*/".toList))).trans rfl
    rw [steps_body_concat hd hkinds, hfed, step_eq, hkind]
    simp only [Except.map, stepKind, Option.map_some,
      Draft.feed_closesComment hc hlast hcloses, Nat.zero_add, List.singleton_append]

/-- Two lines in a block of comment lines, the second of them empty, and one line in a
block in a comment. -/
theorem blocks_expand_of_both_forms :
    OpensLines "// output:".toList ∧
    (∀ line ∈ ["// a".toList, "//".toList], ContinuesLines line) ∧
    EndsLines "```".toList ∧ ContinuesComment "// b".toList ∧
    (∃ d, d.code = ["__deepStrictEqual(__nextOutput(), \"\"); __assertOutputDrained();".toList,
        "__deepStrictEqual(__nextOutput(), \"a\");".toList, "// output:".toList] ∧
      ({ current := some (.start 1 .javascript false) } : Parse).steps 2
        ["// output:".toList, "// a".toList, "//".toList, "```".toList] =
          .ok { older := [(d, true)] }) ∧
    ∃ d, d.code = ["*/ __assertOutputDrained();".toList,
        "*/ __deepStrictEqual(__nextOutput(), \"// b\"); /*".toList, "output:".toList] ∧
      ({ current := some ⟨1, .javascript, false, [], true, none⟩ } : Parse).steps 2
        ["output:".toList, "// b".toList, "*/".toList] = .ok { current := some d } := by
  have hopens : OpensLines "// output:".toList :=
    ⟨⟨[' '], by decide, by decide, rfl⟩, by decide⟩
  have hbody : ∀ line ∈ ["// a".toList, "//".toList], ContinuesLines line :=
    List.forall_mem_cons.2 ⟨⟨rfl, rfl, rfl, by decide⟩,
      List.forall_mem_cons.2 ⟨⟨rfl, rfl, rfl, by decide⟩, List.forall_mem_nil _⟩⟩
  have hends : EndsLines "```".toList := .inl rfl
  have hinside : ContinuesComment "// b".toList := ⟨rfl, rfl, rfl⟩
  have hlines := (blocks_expand (p := { current := some (.start 1 .javascript false) })
    rfl rfl 2).1 rfl _ _ _ hopens hbody hends
  have hcomment := (blocks_expand
    (p := { current := some ⟨1, .javascript, false, [], true, none⟩ }) rfl rfl 2).2 rfl
    "output:".toList ["// b".toList] "*/".toList (by decide) (by decide) rfl
    (List.forall_mem_cons.2 ⟨hinside, List.forall_mem_nil _⟩) rfl
  exact ⟨hopens, hbody, hends, hinside, ⟨_, rfl, hlines⟩, ⟨_, rfl, hcomment⟩⟩

end Parse

end DocExamples
