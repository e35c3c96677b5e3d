import DocExamples.Proofs.Document.Lines

/-!
# What one line does to an open example

`Draft.feed` is a cascade of questions to a line, and most facts about reading
ask the same questions again. `Fed` lists the answers once: one constructor for
each thing that a line can do, with what has to hold of the line and of the
example. `fed_feedOpen` says that the cascade does nothing else, and from here on
an invariant of reading is a case analysis of `Fed`.

The one step that comes before the cascade is `finishLines`, which ends a block
of `//` lines; it is taken exactly when the line is no such line.
-/

namespace DocExamples

open Expectation

/-- What a line does to an example in which it ends no block of `//` lines. -/
inductive Draft.Fed (d : Draft) (line : Line) : Draft → Prop where
  /-- The value of the code in front is compared on the line itself. -/
  | compared (a : Expectation) (hc : d.inComment = false)
      (ha : returned? line = some a) (hcode : Text.isAllBlank a.code = false) :
      Fed d line (d.append ((Assertion.inlineReturn? a.code a.expected).getD line))
  /-- The value of the line before is compared. -/
  | captured (a : Expectation) (hc : d.inComment = false)
      (ha : returned? line = some a) (hcode : Text.isAllBlank a.code = true)
      (code : Code) (h : d.code.captureLast? a.expected = some code) :
      Fed d line { d with code := code }
  /-- There is no value to compare, so the line stays a comment. -/
  | uncaptured (a : Expectation) (hc : d.inComment = false)
      (ha : returned? line = some a) (hcode : Text.isAllBlank a.code = true)
      (h : d.code.captureLast? a.expected = none) :
      Fed d line (d.append line)
  /-- The next console line is compared with that of values. -/
  | logged (a : Expectation) (hr : d.inComment = false → returned? line = none)
      (ha : logged? line = some a) :
      Fed d line
        (d.feedExpectation a.code (Assertion.expectLogged a.expected d.inComment))
  /-- The next console line is compared with a text. -/
  | shown (a : Expectation) (hr : d.inComment = false → returned? line = none)
      (hl : logged? line = none) (hb : d.block = none)
      (ha : nonEmpty (output? line) = some a) :
      Fed d line
        (d.feedExpectation a.code (Assertion.expectOutput a.expected d.inComment))
  /-- The comment around an output block is closed. -/
  | closed (checked : Nat) (hr : d.inComment = false → returned? line = none)
      (hl : logged? line = none) (hb : d.block = some (.ofComment checked))
      (hm : Draft.closesComment line = true) :
      Fed d line (d.closeCommentBlock line checked)
  /-- A line of an output block inside a comment. -/
  | checkedInComment (checked : Nat)
      (hr : d.inComment = false → returned? line = none)
      (hl : logged? line = none) (hb : d.block = some (.ofComment checked))
      (hm : Draft.closesComment line = false) :
      Fed d line { d.append (Assertion.expectOutput (Text.strip line) true) with
        block := some (.ofComment (checked + 1)) }
  /-- A line of an output block of `//` lines. -/
  | checkedLine (checked : Nat) (hr : d.inComment = false → returned? line = none)
      (hl : logged? line = none) (hb : d.block = some (.ofLines checked)) :
      Fed d line { d.append
          (Assertion.expectOutput ((continuation? line).getD []) false) with
        block := some (.ofLines (checked + 1)) }
  /-- An output block of `//` lines is opened. -/
  | openedLines (a : Expectation) (hr : returned? line = none)
      (hl : logged? line = none) (hb : d.block = none) (hc : d.inComment = false)
      (ha : output? line = some a) (he : a.expected = [])
      (hcode : Text.isAllBlank a.code = true) :
      Fed d line { d.append line with block := some (.ofLines 0) }
  /-- An output block inside a comment is opened. -/
  | openedComment (hl : logged? line = none) (hb : d.block = none)
      (hc : d.inComment = true) (ho : nonEmpty (output? line) = none)
      (hs : isOutputSentinel line = true) :
      Fed d line { d.append line with block := some (.ofComment 0) }
  /-- The line is code or comment, and no more. -/
  | plain (hr : d.inComment = false → returned? line = none)
      (hl : logged? line = none) (hb : d.block = none)
      (ho : nonEmpty (output? line) = none)
      (hs : d.inComment = true → isOutputSentinel line = false) :
      Fed d line { d.append line with
        inComment := Comment.openAfter line d.inComment }

namespace Draft

theorem fed_feedReturned {d : Draft} {line : Line} {a : Expectation}
    (hc : d.inComment = false) (ha : returned? line = some a) :
    Fed d line (d.feedReturned line a) := by
  rw [feedReturned]
  cases hcode : Text.isAllBlank a.code with
  | false => exact .compared a hc ha hcode
  | true =>
      rw [if_pos rfl]
      split
      · next code h => exact .captured a hc ha hcode code h
      · next h => exact .uncaptured a hc ha hcode h

theorem fed_feedPlain {d : Draft} {line : Line}
    (hr : d.inComment = false → returned? line = none)
    (hl : logged? line = none)
    (ho : d.block = none → nonEmpty (output? line) = none) :
    Fed d line (d.feedPlain line (output? line)) := by
  rw [feedPlain]
  split
  · next checked hb =>
      cases hm : closesComment line with
      | true => exact .closed checked hr hl hb hm
      | false => exact .checkedInComment checked hr hl hb hm
  · next checked hb => exact .checkedLine checked hr hl hb
  · next hb =>
      split
      · next hopen =>
          rw [Bool.and_eq_true, Option.any_eq_true, Bool.not_eq_true'] at hopen
          obtain ⟨⟨a, ha, hcode⟩, hc⟩ := hopen
          have he : a.expected = [] := by
            have hnone := ho hb
            rw [ha, nonEmpty, Option.filter_eq_none_iff] at hnone
            simpa using hnone a rfl
          exact .openedLines a (hr hc) hl hb hc ha he hcode
      · split
        · next hs =>
            rw [Bool.and_eq_true] at hs
            exact .openedComment hl hb hs.1 (ho hb) hs.2
        · next hs =>
            refine .plain hr hl hb (ho hb) fun hc => ?_
            rw [hc, Bool.true_and, Bool.not_eq_true] at hs
            exact hs

/-- A line does one of the things that `Fed` lists. -/
theorem fed_feedOpen (d : Draft) (line : Line) : Fed d line (d.feedOpen line) := by
  rw [feedOpen]
  split
  · next a ha =>
      cases hc : d.inComment with
      | true => rw [hc] at ha; cases ha
      | false =>
          rw [hc] at ha
          exact fed_feedReturned hc ha
  · next hnone =>
      have hr : d.inComment = false → returned? line = none := by
        intro hc
        rw [hc] at hnone
        exact hnone
      split
      · next a ha => exact .logged a hr ha
      · next hl =>
          dsimp only
          split
          · next a ha =>
              cases hb : d.block with
              | some block => rw [hb] at ha; cases ha
              | none =>
                  rw [hb] at ha
                  exact .shown a hr hl hb ha
          · next hnone =>
              refine fed_feedPlain hr hl fun hb => ?_
              rw [hb] at hnone
              exact hnone

/-! ## The step before -/

/-- The example that a line is fed to once the block that it ends is ended. -/
def settle (d : Draft) (line : Line) : Draft :=
  if (continuation? line).isNone then d.finishLines else d

theorem fed_feed (d : Draft) (line : Line) :
    Fed (d.settle line) line (d.feed line) := fed_feedOpen _ line

theorem finishLines_cases (d : Draft) :
    d.finishLines = d ∨ ∃ checked, d.block = some (.ofLines checked) ∧
      d.finishLines = { d with
        block := none
        code := if checked = 0 then d.code
          else d.code.extendLast Assertion.drained } := by
  rw [finishLines]
  split
  · next checked hb => exact .inr ⟨checked, hb, rfl⟩
  · exact .inl rfl

/-- Behind its end no block of `//` lines is open. -/
theorem finishLines_block_ne (d : Draft) (checked : Nat) :
    d.finishLines.block ≠ some (.ofLines checked) := by
  intro hb
  rw [finishLines] at hb
  split at hb
  · cases hb
  · next hnot => exact hnot checked hb

theorem settle_eq_or (d : Draft) (line : Line) :
    d.settle line = d ∨ d.settle line = d.finishLines := by
  rw [settle]
  split
  · exact .inr rfl
  · exact .inl rfl

/-! ## What stays -/

/-- What an example is known by: where and in which language it starts, and
whether it is left out. -/
structure SameHeader (d e : Draft) : Prop where
  startLine : e.startLine = d.startLine
  language : e.language = d.language
  skip : e.skip = d.skip

theorem SameHeader.trans {d e f : Draft} (h : SameHeader d e) (h' : SameHeader e f) :
    SameHeader d f :=
  ⟨h'.startLine.trans h.startLine, h'.language.trans h.language, h'.skip.trans h.skip⟩

theorem Fed.sameHeader {d e : Draft} {line : Line} (h : Fed d line e) :
    SameHeader d e := by
  cases h <;> exact ⟨rfl, rfl, rfl⟩

theorem finishLines_sameHeader (d : Draft) : SameHeader d d.finishLines := by
  rcases d.finishLines_cases with heq | ⟨_, _, heq⟩
  · rw [heq]; exact ⟨rfl, rfl, rfl⟩
  · rw [heq]; exact ⟨rfl, rfl, rfl⟩

theorem feed_sameHeader (d : Draft) (line : Line) : SameHeader d (d.feed line) := by
  have hfed := (d.fed_feed line).sameHeader
  rcases d.settle_eq_or line with heq | heq
  · rw [heq] at hfed
    exact hfed
  · rw [heq] at hfed
    exact d.finishLines_sameHeader.trans hfed

end Draft

end DocExamples
