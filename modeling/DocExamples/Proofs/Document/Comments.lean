import DocExamples.Proofs.Document.Feed
import DocExamples.Proofs.Document.Reading
import DocExamples.Proofs.Document.Walk

/-!
# Comments over several lines

An example remembers whether a block comment of the document is open, because an
annotation means something else inside a comment. `Comment.openAfter` says for one
line what a reader of the source would say, and this file says how far the two
agree over a whole body.

Outside a comment they always agree: a line that carries an annotation ends in a
line comment, so it leaves no block comment open, and the steps that do not look
are right not to. Inside a comment they agree on every step but one. A console
annotation is taken without a look at the rest of its line, so a `*/` on that line
goes unseen and the lines behind it count as comment. `Draft.hidesClose` names
these lines, and the agreement is exact: it lasts until the first of them.
-/

namespace DocExamples

/-! ## One line of source -/

namespace Comment

/-- A line with a line comment leaves no block comment open. -/
theorem scanFrom_openAfter_of_start {mode : Mode} {before rest : List Char}
    (h : (scanFrom mode before rest).start ≠ none) :
    (scanFrom mode before rest).openAfter = false := by
  obtain ⟨b, _, hhalts⟩ := exists_halts ⟨mode, before, rest⟩
  generalize hs : Point.scan ⟨mode, before, rest⟩ = s at hhalts
  rw [show scanFrom mode before rest = s from hs] at h ⊢
  cases hhalts with
  | inComment => exact absurd rfl h
  | _ => rfl

theorem opensLiteral_of_blank {c : Char} (hc : Text.isBlank c = true) (before : List Char) :
    opensLiteral before c = false := by
  have hslash : c ≠ '/' := by rintro rfl; exact absurd hc (by decide)
  have hquote : isQuote c = false := by
    rw [← Bool.not_eq_true]
    intro hq
    rw [isQuote, Bool.or_eq_true, Bool.or_eq_true, beq_iff_eq, beq_iff_eq, beq_iff_eq]
      at hq
    rcases hq with (rfl | rfl) | rfl <;> exact absurd hc (by decide)
  rw [opensLiteral, hquote, beq_eq_false_iff_ne.2 hslash]
  rfl

theorem scanFrom_code_of_blank {before rest : List Char} {c : Char}
    (hc : Text.isBlank c = true) :
    scanFrom .code before (c :: rest) = scanFrom .code (c :: before) rest := by
  have hslash : c ≠ '/' := by rintro rfl; exact absurd hc (by decide)
  rw [scanFrom, opensLiteral_of_blank hc]
  · rfl
  · exact fun _ h _ => hslash h
  · exact fun _ h _ => hslash h

/-- A line that starts with a line comment opens no block comment. -/
theorem scanFrom_openAfter_of_startsComment {before line : List Char}
    (h : Expectation.startsComment (Text.stripLeft line) = true) :
    (scanFrom .code before line).openAfter = false := by
  induction line generalizing before with
  | nil => cases h
  | cons c rest ih =>
      cases hc : Text.isBlank c with
      | true =>
          rw [Text.stripLeft, List.dropWhile_cons_of_pos hc] at h
          rw [scanFrom_code_of_blank hc]
          exact ih h
      | false =>
          rw [Text.stripLeft, List.dropWhile_cons_of_neg (by rw [hc]; exact Bool.false_ne_true)]
            at h
          obtain ⟨more, hmore⟩ := List.isPrefixOf_iff_prefix.1 h
          rw [← hmore]
          exact congrArg Scan.openAfter (scanFrom.eq_5 before more)

/-- Without a closing mark a block comment runs on. -/
theorem scanFrom_openAfter_of_not_closes {before line : List Char}
    (h : Draft.closesComment line = false) :
    (scanFrom .comment before line).openAfter = true := by
  induction line generalizing before with
  | nil => rfl
  | cons c rest ih =>
      have hmark : ∀ more, c = '*' → rest = '/' :: more → False := by
        rintro more rfl rfl
        cases h
      rw [Draft.closesComment.eq_2 c rest hmark] at h
      rw [scanFrom]
      · exact ih h
      · exact hmark

/-- What stands behind a text is not a character that the text would give. -/
theorem eq_cons_of_append_cons {rest tail more : List Char} {c next : Char} (hc : c ≠ next)
    (h : rest ++ next :: tail = c :: more) : ∃ more', rest = c :: more' := by
  cases rest with
  | nil => exact absurd (List.cons.inj h).1.symm hc
  | cons d rest => exact ⟨rest, by rw [(List.cons.inj h).1]⟩

theorem scanFrom_literal_nil (delimiter : Char) (inClass : Bool) (c : Char)
    (before : List Char) :
    (scanFrom (afterLiteralChar delimiter inClass c) before []).openAfter = false := by
  rw [afterLiteralChar]
  split_ifs <;> rfl

/-- A carriage return at the end of a line says nothing about comments. -/
theorem scanFrom_openAfter_concat_return (mode : Mode) (before line : List Char) :
    (scanFrom mode before (line ++ ['\r'])).openAfter =
      (scanFrom mode before line).openAfter := by
  fun_induction scanFrom mode before line with
  | case1 => rfl
  | case2 before rest ih => exact ih
  | case3 before c rest hmark ih =>
      rw [List.cons_append, scanFrom]
      · exact ih
      · intro more hc h
        obtain ⟨more', h'⟩ := eq_cons_of_append_cons (by decide) h
        exact hmark more' hc h'
  | case4 before =>
      rw [List.nil_append, scanFrom_code_of_blank (by decide)]
      rfl
  | case5 => rfl
  | case6 before rest ih => exact ih
  | case7 before c rest hline hblock ih =>
      rw [List.cons_append, scanFrom]
      · exact ih
      · intro more hc h
        obtain ⟨more', h'⟩ := eq_cons_of_append_cons (by decide) h
        exact hline more' hc h'
      · intro more hc h
        obtain ⟨more', h'⟩ := eq_cons_of_append_cons (by decide) h
        exact hblock more' hc h'
  | case8 delimiter inClass before =>
      rw [List.nil_append, scanFrom]
      · exact scanFrom_literal_nil delimiter inClass '\r' _
      · exact fun h _ => absurd h (by decide)
      · exact fun _ _ h _ => absurd h (by decide)
  | case9 => rfl
  | case10 delimiter inClass before c rest ih => exact ih
  | case11 delimiter inClass before c rest hlast hescape ih =>
      have hc : c ≠ '\\' := by
        rintro rfl
        cases rest with
        | nil => exact hlast rfl rfl
        | cons d more => exact hescape d more rfl rfl
      rw [List.cons_append, scanFrom]
      · exact ih
      · exact fun h _ => hc h
      · exact fun _ _ h _ => hc h

theorem openAfter_content (line : Line) (inComment : Bool) :
    openAfter (Parse.content line) inComment = openAfter line inComment := by
  have hall : ∀ (returns : List Char), (∀ c ∈ returns, c = '\r') → ∀ (s : Line),
      openAfter (s ++ returns) inComment = openAfter s inComment := by
    intro returns
    induction returns with
    | nil => intro _ s; rw [List.append_nil]
    | cons c more ih =>
        intro h s
        obtain rfl := h c (.head _)
        rw [List.append_cons, ih (fun d hd => h d (.tail _ hd))]
        exact scanFrom_openAfter_concat_return _ _ s
  have hsplit := Text.dropTrailing_append_rtakeWhile (· == '\r') line
  have hreturns : ∀ c ∈ line.rtakeWhile (· == '\r'), c = '\r' := by
    intro c hc
    have h := List.mem_rtakeWhile_imp hc
    exact eq_of_beq h
  rw [← hall _ hreturns (Parse.content line), Parse.content, hsplit]

end Comment

/-! ## One line fed to an example -/

theorem mem_dropWhile_of_not {p : Char → Bool} {s : List Char} {c : Char}
    (hc : p c = false) (h : c ∈ s) : c ∈ s.dropWhile p := by
  rw [← List.takeWhile_append_dropWhile (p := p) (l := s), List.mem_append] at h
  rcases h with htake | hdrop
  · rw [List.mem_takeWhile_imp htake] at hc
    cases hc
  · exact hdrop

/-- Trimming takes blanks only. -/
theorem Text.mem_strip {s : List Char} {c : Char} (hc : isBlank c = false) (h : c ∈ s) :
    c ∈ strip s := by
  rw [strip, stripRight, dropTrailing, stripLeft, List.mem_reverse]
  refine mem_dropWhile_of_not hc (List.mem_reverse.2 ?_)
  exact mem_dropWhile_of_not hc h

/-- Without a star there is no mark that closes a comment. -/
theorem Draft.closesComment_of_not_mem {line : Line} (h : '*' ∉ line) :
    closesComment line = false := by
  induction line with
  | nil => rfl
  | cons c rest ih =>
      rw [List.mem_cons, not_or] at h
      rw [closesComment]
      · exact ih h.2
      · exact fun _ hc _ => h.1 hc.symm

namespace Expectation

/-- An annotation ends its line, so outside a comment it leaves none open. -/
theorem openAfter_of_withMarks? {words : List String} {line : Line} {a : Expectation}
    (h : withMarks? words line = some a) : Comment.openAfter line false = false := by
  have hsplit : splitComment line ≠ none := by
    intro hnone
    rw [withMarks?, hnone] at h
    cases h
  rw [splitComment] at hsplit
  split at hsplit
  · next hstart => exact Comment.scanFrom_openAfter_of_startsComment hstart
  · refine Comment.scanFrom_openAfter_of_start fun hnone => hsplit ?_
    exact congrArg (Option.map _) hnone

theorem openAfter_of_continuation? {line : Line} (h : continuation? line ≠ none) :
    Comment.openAfter line false = false := by
  rw [continuation?] at h
  split at h
  · next hstart => exact Comment.scanFrom_openAfter_of_startsComment hstart
  · exact absurd rfl h

/-- The line that opens an output block in a comment does not close the comment. -/
theorem closesComment_of_isOutputSentinel {line : Line}
    (h : isOutputSentinel line = true) : Draft.closesComment line = false := by
  have hstar : '*' ∉ line := by
    intro hmem
    have hstrip := Text.mem_strip (by decide) hmem
    rw [of_decide_eq_true h] at hstrip
    exact absurd hstrip (by decide)
  exact Draft.closesComment_of_not_mem hstar

end Expectation

namespace Draft

/-- Where an output block can be open. -/
structure BlockFits (d : Draft) : Prop where
  ofLines : ∀ checked, d.block = some (.ofLines checked) → d.inComment = false
  ofComment : ∀ checked, d.block = some (.ofComment checked) → d.inComment = true

/-- Holds of a line whose annotation is taken inside a comment although the line ends
outside of one. -/
def hidesClose (d : Draft) (line : Line) : Bool :=
  d.inComment &&
    ((Expectation.logged? line).isSome ||
      d.block.isNone && (Expectation.nonEmpty (Expectation.output? line)).isSome) &&
    !Comment.openAfter line true

theorem finishLines_inComment (d : Draft) : d.finishLines.inComment = d.inComment := by
  rcases d.finishLines_cases with heq | ⟨_, _, heq⟩
  · rw [heq]
  · rw [heq]

theorem BlockFits.settle {d : Draft} (hd : d.BlockFits) (line : Line) :
    (d.settle line).BlockFits := by
  rcases d.settle_eq_or line with heq | heq
  · rw [heq]
    exact hd
  · rcases d.finishLines_cases with hfin | ⟨_, _, hfin⟩
    · rw [heq, hfin]
      exact hd
    · rw [heq, hfin]
      exact ⟨fun _ h => (nomatch h), fun _ h => (nomatch h)⟩

theorem Fed.blockFits {d e : Draft} {line : Line} (h : Fed d line e)
    (hd : d.BlockFits) : e.BlockFits := by
  have hnone : d.block = none → ∀ block, d.block ≠ some block := by
    intro hb block hsome
    rw [hb] at hsome
    cases hsome
  cases h with
  | compared => exact ⟨hd.ofLines, hd.ofComment⟩
  | captured => exact ⟨hd.ofLines, hd.ofComment⟩
  | uncaptured => exact ⟨hd.ofLines, hd.ofComment⟩
  | logged => exact ⟨hd.ofLines, hd.ofComment⟩
  | shown => exact ⟨hd.ofLines, hd.ofComment⟩
  | closed => exact ⟨fun _ h => (nomatch h), fun _ h => (nomatch h)⟩
  | checkedInComment checked _ _ hb =>
      exact ⟨fun _ h => (nomatch h), fun _ _ => hd.ofComment checked hb⟩
  | checkedLine checked _ _ hb =>
      exact ⟨fun _ _ => hd.ofLines checked hb, fun _ h => (nomatch h)⟩
  | openedLines _ _ _ _ hc => exact ⟨fun _ _ => hc, fun _ h => (nomatch h)⟩
  | openedComment _ _ hc => exact ⟨fun _ h => (nomatch h), fun _ _ => hc⟩
  | plain _ _ hb =>
      exact ⟨fun _ h => absurd h (hnone hb _), fun _ h => absurd h (hnone hb _)⟩

/-- A step that leaves the comment state agrees with the source if the source outside
a comment stays outside, and inside a comment unless the line hides a close. -/
theorem inComment_eq_iff_of_annotated {d : Draft} {line : Line}
    (hout : Comment.openAfter line false = false)
    (hin : (Expectation.logged? line).isSome = true ∨
      d.block = none ∧ (Expectation.nonEmpty (Expectation.output? line)).isSome = true) :
    d.inComment = Comment.openAfter line d.inComment ↔ d.hidesClose line = false := by
  have htaken : ((Expectation.logged? line).isSome ||
      d.block.isNone && (Expectation.nonEmpty (Expectation.output? line)).isSome) =
        true := by
    rcases hin with hlog | ⟨hb, hout⟩
    · rw [hlog, Bool.true_or]
    · rw [hb, hout, Option.isNone_none, Bool.and_true, Bool.or_true]
  rw [hidesClose, htaken, Bool.and_true]
  cases d.inComment with
  | false => rw [hout]; exact iff_of_true rfl rfl
  | true => rw [Bool.true_and, Bool.not_eq_false', eq_comm]

theorem not_hidesClose_of_outside {d : Draft} (line : Line) (hc : d.inComment = false) :
    d.hidesClose line = false := by
  rw [hidesClose, hc, Bool.false_and, Bool.false_and]

theorem not_hidesClose_of_open {d : Draft} {line : Line}
    (h : Comment.openAfter line true = true) : d.hidesClose line = false := by
  rw [hidesClose, h, Bool.not_true, Bool.and_false]

/-- A step that takes no console annotation hides nothing. -/
theorem not_hidesClose_of_plain {d : Draft} {line : Line}
    (hl : Expectation.logged? line = none)
    (ho : d.block = none → Expectation.nonEmpty (Expectation.output? line) = none) :
    d.hidesClose line = false := by
  rw [hidesClose, hl, Option.isSome_none, Bool.false_or]
  cases hb : d.block with
  | none => rw [ho hb, Option.isSome_none, Bool.and_false, Bool.and_false, Bool.false_and]
  | some block =>
      rw [Option.isNone_some, Bool.false_and, Bool.and_false, Bool.false_and]

/-- A line is followed by the comment state of the source, unless it hides a close. -/
theorem Fed.inComment_eq_iff {d e : Draft} {line : Line} (h : Fed d line e)
    (hd : d.BlockFits)
    (hlines : ∀ checked, d.block = some (.ofLines checked) →
      Expectation.continuation? line ≠ none) :
    e.inComment = Comment.openAfter line d.inComment ↔ d.hidesClose line = false := by
  have outside : ∀ {e : Draft}, d.inComment = false → e.inComment = d.inComment →
      Comment.openAfter line false = false →
      (e.inComment = Comment.openAfter line d.inComment ↔ d.hidesClose line = false) := by
    intro e hc he hout
    rw [he, hc, hout]
    exact iff_of_true rfl (not_hidesClose_of_outside line hc)
  have returned : ∀ {a : Expectation}, Expectation.returned? line = some a →
      Comment.openAfter line false = false := fun ha =>
    Expectation.openAfter_of_withMarks? (Expectation.eq_some_of_nonEmpty ha)
  have inside : ∀ {e : Draft}, d.inComment = true → e.inComment = true →
      Draft.closesComment line = false →
      (e.inComment = Comment.openAfter line d.inComment ↔ d.hidesClose line = false) := by
    intro e hc he hm
    have hopen : Comment.openAfter line true = true :=
      Comment.scanFrom_openAfter_of_not_closes hm
    rw [he, hc, hopen]
    exact iff_of_true rfl (not_hidesClose_of_open hopen)
  cases h with
  | compared a hc ha => exact outside hc rfl (returned ha)
  | captured a hc ha => exact outside hc rfl (returned ha)
  | uncaptured a hc ha => exact outside hc rfl (returned ha)
  | logged a _ ha =>
      have hout := Expectation.openAfter_of_withMarks? (Expectation.eq_some_of_nonEmpty ha)
      refine inComment_eq_iff_of_annotated hout (.inl ?_)
      rw [ha, Option.isSome_some]
  | shown a _ _ hb ha =>
      have hout := Expectation.openAfter_of_withMarks? (Expectation.eq_some_of_nonEmpty ha)
      refine inComment_eq_iff_of_annotated hout (.inr ⟨hb, ?_⟩)
      rw [ha, Option.isSome_some]
  | closed checked _ hl hb _ =>
      have hc := hd.ofComment checked hb
      have hopen : d.block ≠ none := by rw [hb]; exact Option.some_ne_none _
      rw [hc]
      exact iff_of_true rfl (not_hidesClose_of_plain hl fun hnone => absurd hnone hopen)
  | checkedInComment checked _ _ hb hm =>
      have hc := hd.ofComment checked hb
      exact inside hc hc hm
  | checkedLine checked _ _ hb =>
      exact outside (hd.ofLines checked hb) rfl
        (Expectation.openAfter_of_continuation? (hlines checked hb))
  | openedLines a _ _ _ hc ha =>
      exact outside hc rfl (Expectation.openAfter_of_withMarks? ha)
  | openedComment _ _ hc _ hs =>
      exact inside hc hc (Expectation.closesComment_of_isOutputSentinel hs)
  | plain _ hl _ ho =>
      exact iff_of_true rfl (not_hidesClose_of_plain hl fun _ => ho)

theorem feed_blockFits {d : Draft} (hd : d.BlockFits) (line : Line) :
    (d.feed line).BlockFits := (d.fed_feed line).blockFits (hd.settle line)

/-- Inside a comment no block of `//` lines is open, so none is ended. -/
theorem settle_of_inComment {d : Draft} (hd : d.BlockFits) (hc : d.inComment = true)
    (line : Line) : d.settle line = d := by
  rcases d.settle_eq_or line with heq | heq
  · exact heq
  · rcases d.finishLines_cases with hfin | ⟨checked, hb, _⟩
    · rw [heq, hfin]
    · rw [hd.ofLines checked hb] at hc
      cases hc

theorem settle_inComment (d : Draft) (line : Line) :
    (d.settle line).inComment = d.inComment := by
  rcases d.settle_eq_or line with heq | heq
  · rw [heq]
  · rw [heq, finishLines_inComment]

/-- A block of `//` lines is still open only for a line that continues it. -/
theorem continuation?_of_settle {d : Draft} {line : Line} {checked : Nat}
    (h : (d.settle line).block = some (.ofLines checked)) :
    Expectation.continuation? line ≠ none := by
  intro hnone
  rw [settle, hnone, Option.isNone_none, if_pos rfl] at h
  exact d.finishLines_block_ne checked h

/-- One line of the body: the comment state follows the source exactly unless the
line hides a close. -/
theorem feed_inComment_eq_iff {d : Draft} (hd : d.BlockFits) (line : Line) :
    (d.feed line).inComment = Comment.openAfter line d.inComment ↔
      d.hidesClose line = false := by
  have hfed := (d.fed_feed line).inComment_eq_iff (hd.settle line)
    fun _ h => continuation?_of_settle h
  rw [settle_inComment] at hfed
  cases hc : d.inComment with
  | true => rwa [settle_of_inComment hd hc, hc] at hfed
  | false =>
      rw [hc] at hfed
      have hsettled : (d.settle line).inComment = false := by rw [settle_inComment, hc]
      rw [hfed]
      exact iff_of_true (not_hidesClose_of_outside line hsettled)
        (not_hidesClose_of_outside line hc)

/-! ## A whole body -/

/-- An example after lines of its body. -/
def feedLines (d : Draft) (body : List Line) : Draft :=
  body.foldl (fun d line => d.feed (Parse.content line)) d

theorem feedLines_take_succ {d : Draft} {body : List Line} {k : Nat} {line : Line}
    (h : body[k]? = some line) :
    d.feedLines (body.take (k + 1)) =
      (d.feedLines (body.take k)).feed (Parse.content line) := by
  rw [feedLines, List.take_add_one, h, Option.toList_some, List.foldl_append]
  rfl

theorem feedLines_blockFits {d : Draft} (hd : d.BlockFits) (body : List Line) :
    (d.feedLines body).BlockFits := by
  induction body generalizing d with
  | nil => exact hd
  | cons line body ih => exact ih (feed_blockFits hd (Parse.content line))

theorem start_blockFits (startLine : Nat) (language : Language) (skip : Bool) :
    (start startLine language skip).BlockFits :=
  ⟨fun _ h => (nomatch h), fun _ h => (nomatch h)⟩

end Draft

namespace Comment

/-- Whether a block comment is open after lines that start outside of one. -/
def openAfterLines (body : List Line) : Bool :=
  body.foldl (fun inComment line => openAfter line inComment) false

theorem openAfterLines_take_succ {body : List Line} {k : Nat} {line : Line}
    (h : body[k]? = some line) :
    openAfterLines (body.take (k + 1)) =
      openAfter line (openAfterLines (body.take k)) := by
  rw [openAfterLines, List.take_add_one, h, Option.toList_some, List.foldl_append]
  rfl

end Comment

namespace Parse

theorem steps_body {p : Parse} {d : Draft} {number : Nat} {body : List Line}
    (hd : p.current = some d) (hbody : ∀ line ∈ body, Fence.kind line = .ok .body) :
    p.steps number body = .ok { p with current := some (d.feedLines body) } := by
  induction body generalizing p d number with
  | nil =>
      rw [Draft.feedLines, List.foldl_nil, ← hd]
      rfl
  | cons line body ih =>
      rw [steps, step_eq, hbody line (.head _)]
      have hnext : (p.stepKind (content line) number .body).current =
          some (d.feed (content line)) := by
        rw [stepKind, hd]
        rfl
      exact ih hnext fun l hl => hbody l (.tail _ hl)

/-- The comment state of an example agrees with that of its source after every line of
a body exactly as long as no line hides a close; a line that does leaves the example in
a comment that the source has left. -/
theorem inComment_eq_openAfterLines_iff {p : Parse} {number : Nat} {fence : Line}
    {language : Language} {body : List Line}
    (hfence : Fence.language? fence = .ok (some language))
    (hbody : ∀ line ∈ body, Fence.kind line = .ok .body) :
    ∃ draft : Nat → Draft,
      (∀ k, (p.steps number (fence :: body.take k)).map (·.current) =
        .ok (some (draft k))) ∧
      ((∀ k ≤ body.length,
          (draft k).inComment = Comment.openAfterLines (body.take k)) ↔
        ∀ k line, body[k]? = some line →
          (draft k).hidesClose (content line) = false) ∧
      ∀ k line, body[k]? = some line → (draft k).hidesClose (content line) = true →
        (draft (k + 1)).inComment = true ∧
          Comment.openAfter line (draft k).inComment = false := by
  let d0 := Draft.start number language p.skipNext
  have hfits : ∀ k, (d0.feedLines (body.take k)).BlockFits := fun k =>
    Draft.feedLines_blockFits (Draft.start_blockFits number language p.skipNext) _
  have hstep : ∀ k line, body[k]? = some line →
      ((d0.feedLines (body.take (k + 1))).inComment =
          Comment.openAfter line (d0.feedLines (body.take k)).inComment ↔
        (d0.feedLines (body.take k)).hidesClose (content line) = false) := by
    intro k line hline
    rw [Draft.feedLines_take_succ hline, ← Comment.openAfter_content line]
    exact Draft.feed_inComment_eq_iff (hfits k) (content line)
  refine ⟨fun k => d0.feedLines (body.take k), fun k => ?_, ⟨fun h k line hline => ?_,
    fun h k hk => ?_⟩, fun k line hline hhides => ?_⟩
  · rw [steps, step_eq, Fence.kind_eq_opening_iff.2 hfence]
    have htake : ∀ l ∈ body.take k, Fence.kind l = .ok .body :=
      fun l hl => hbody l (List.mem_of_mem_take hl)
    have hsteps : (p.stepKind (content fence) number (.opening language)).steps
        (number + 1) (body.take k) = _ := steps_body rfl htake
    exact congrArg (Except.map (·.current)) hsteps
  · have hk : k < body.length := (List.getElem?_eq_some_iff.1 hline).1
    rw [← hstep k line hline, h (k + 1) hk, h k (Nat.le_of_lt hk),
      Comment.openAfterLines_take_succ hline]
  · induction k with
    | zero => rfl
    | succ k ih =>
        have hline : body[k]? = some body[k] := List.getElem?_eq_getElem hk
        have hsame := (hstep k body[k] hline).2 (h k body[k] hline)
        rw [Comment.openAfterLines_take_succ hline, ← ih (Nat.le_of_lt hk)]
        exact hsame
  · have hdiffer := mt (hstep k line hline).1 (by rw [hhides]; decide)
    rw [Draft.hidesClose, Bool.and_eq_true, Bool.and_eq_true, Bool.not_eq_true',
      Comment.openAfter_content] at hhides
    obtain ⟨⟨hc, _⟩, hclosed⟩ := hhides
    rw [hc, hclosed, Bool.not_eq_false] at hdiffer
    exact ⟨hdiffer, by rw [hc, hclosed]⟩

/-- A comment over two lines, the second of which closes it in front of code. -/
theorem inComment_eq_openAfterLines_of_closed :
    Fence.language? "```js".toList = .ok (some .javascript) ∧
    (∀ line ∈ ["/*".toList, "*/ f();".toList], Fence.kind line = .ok .body) ∧
    ∃ draft : Nat → Draft,
      (∀ k, (({} : Parse).steps 1
          ("```js".toList :: ["/*".toList, "*/ f();".toList].take k)).map (·.current) =
        .ok (some (draft k))) ∧
      ∀ k ≤ 2, (draft k).inComment =
        Comment.openAfterLines (["/*".toList, "*/ f();".toList].take k) := by
  have hfence : Fence.language? "```js".toList = .ok (some .javascript) := rfl
  have hbody : ∀ line ∈ ["/*".toList, "*/ f();".toList], Fence.kind line = .ok .body :=
    List.forall_mem_cons.2 ⟨rfl, List.forall_mem_cons.2 ⟨rfl, List.forall_mem_nil _⟩⟩
  obtain ⟨draft, hdraft, hiff, _⟩ :=
    inComment_eq_openAfterLines_iff (p := {}) hfence hbody
  refine ⟨hfence, hbody, draft, hdraft, hiff.2 fun k line hline => ?_⟩
  have h0 := Option.some.inj (Except.ok.inj (hdraft 0))
  have h1 := Option.some.inj (Except.ok.inj (hdraft 1))
  match k, hline with
  | 0, hline => rw [← h0, ← Option.some.inj hline]; rfl
  | 1, hline => rw [← h1, ← Option.some.inj hline]; rfl

/-- A console annotation in front of the closing mark: the comment ends with its line,
and the example stays in it. -/
theorem log_hides_close :
    ∃ q d, ({} : Parse).steps 1
        ["```js".toList, "/*".toList, "// log => 1 */".toList] = .ok q ∧
      q.current = some d ∧ d.inComment = true ∧
      Comment.openAfterLines ["/*".toList, "// log => 1 */".toList] = false :=
  ⟨⟨[], some ⟨1, .javascript, false,
      ["*/ __deepStrictEqual(__nextOutput(), __formatOutput([1 */])); /*".toList,
        "/*".toList], true, none⟩, false, false⟩, _, rfl, rfl, rfl, rfl⟩

end Parse

end DocExamples
