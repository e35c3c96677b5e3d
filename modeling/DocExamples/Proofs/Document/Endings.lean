import DocExamples.Proofs.Document.Concatenation
import DocExamples.Proofs.Document.Standing

/-!
# How output blocks end

The lines of an output block are compared with the console one by one, and the call that
nothing is left belongs behind the last of them. The two forms of a block reach that call
by different ways. A block of `//` lines is ended by the first line that is none, and the
call is put behind the code there is, before that line is read at all. A block in a
comment is ended by the line that closes the comment, which is read as code of its own and
takes the call only when it holds nothing but the closing mark.

`Draft.Keeps` carries a piece of code through the rest of an example: what stands above
the last line is never touched again, and the last line itself stays where no annotation
can capture it. So the call is still where it was put when the example is handed on.
-/

namespace DocExamples

open Expectation Assertion

namespace Code

theorem text_append (newer older : Code) :
    text (newer ++ older) = text older ++ text newer := by
  rw [text, List.reverse_append, List.map_append, List.flatten_append]
  rfl

theorem exists_text_of_suffix {base code : Code} (h : base <:+ code) :
    ∃ later, code.text = base.text ++ later := by
  obtain ⟨newer, rfl⟩ := h
  exact ⟨text newer, text_append newer base⟩

end Code

/-! ## Code that stays -/

namespace Draft

/-- Holds of an example whose first lines of code are given ones and stay: they end above the
last line, or the last line can neither be captured nor take a call. -/
structure Keeps (base : Code) (d : Draft) : Prop where
  lined : d.Lined
  kept : base <:+ d.code.drop 1 ∨
    d.code = base ∧ d.block = none ∧ ∀ expected, base.captureLast? expected = none

variable {base : Code} {d : Draft}

theorem Keeps.suffix (h : d.Keeps base) : base <:+ d.code := by
  rcases h.kept with hbelow | ⟨rfl, -, -⟩
  · exact hbelow.trans (List.drop_suffix 1 d.code)
  · exact List.suffix_rfl

theorem Keeps.finishLines (h : d.Keeps base) : d.finishLines.Keeps base := by
  obtain ⟨-, hdrop, hlined⟩ := finishLines_code h.lined
  refine ⟨hlined, ?_⟩
  rcases h.kept with hbelow | ⟨hcode, hb, hnone⟩
  · exact .inl (hdrop.symm ▸ hbelow)
  · rw [finishLines_of_not_ofLines fun _ hsome => nomatch hb.symm.trans hsome]
    exact .inr ⟨hcode, hb, hnone⟩

theorem Keeps.feed (h : d.Keeps base) {line : Line} (hline : '\n' ∉ line) :
    (d.feed line).Keeps base := by
  obtain ⟨-, hdrop, hlined⟩ := feed_code h.lined hline
  refine ⟨hlined, .inl ?_⟩
  -- a line changes at most the last one, which is not kept or cannot be captured
  rcases h.kept with hbelow | ⟨rfl, hb, hnone⟩
  · have htwo : (d.feed line).code.drop (1 + 1) = ((d.feed line).code.drop 1).drop 1 :=
      List.drop_drop.symm
    rw [← hdrop] at hbelow
    exact (htwo ▸ hbelow).trans (List.drop_suffix 1 _)
  · have hfed := d.fed_feed line
    rw [settle_of_block_eq_none hb] at hfed
    rcases hfed.code_cases hline with hcap | ⟨-, added, -, hadded⟩
    · obtain ⟨-, a, -, -, hlast⟩ := capture?_eq_some_iff.1 hcap
      rw [hnone] at hlast
      cases hlast
    · rw [hadded]
      exact List.suffix_rfl

end Draft

namespace Parse

theorem older_stepKind (p : Parse) (line : Line) (number : Nat) (kind : Fence.Kind) :
    p.older <:+ (p.stepKind line number kind).older := by
  have haside : ∀ closed, p.older <:+ p.setAside closed := by
    intro closed
    rw [setAside]
    split
    · exact List.suffix_rfl
    · exact List.suffix_cons _ _
  cases kind with
  | opening => exact haside false
  | closing => exact haside true
  | skipNext => exact List.suffix_rfl
  | share => exact List.suffix_rfl
  | body => exact List.suffix_rfl

theorem older_steps {p q : Parse} {number : Nat} {lines : List Line}
    (h : p.steps number lines = .ok q) : p.older <:+ q.older := by
  induction lines generalizing p number with
  | nil =>
      cases h
      exact List.suffix_rfl
  | cons line more ih =>
      rw [steps] at h
      split at h
      · next next hnext =>
          obtain ⟨kind, -, rfl⟩ := step_eq_ok hnext
          exact (older_stepKind p _ _ kind).trans (ih h)
      · cases h

theorem mem_older_of_opening {p : Parse} {d : Draft} (hd : p.current = some d) (line : Line)
    (number : Nat) (language : Language) :
    (d, false) ∈ (p.stepKind line number (.opening language)).older := by
  rw [stepKind, setAside, hd]
  exact List.mem_cons_self

theorem getElem?_reverse_of_suffix {x : Draft × Bool} {older all : List (Draft × Bool)}
    (h : x :: older <:+ all) : all.reverse[older.length]? = some x := by
  obtain ⟨newer, rfl⟩ := h
  simp

/-- Holds of a text that has been read to its end with all examples closed. -/
structure Complete (q : Parse) : Prop where
  current : q.current = none
  closed : ∀ x ∈ q.older, x.2 = true

/-- No example of such a text was set aside without its end. -/
theorem Complete.not_aside {p q : Parse} (hq : q.Complete) {number : Nat} {lines : List Line}
    (h : p.steps number lines = .ok q) (d : Draft) : (d, false) ∉ p.older := fun hmem =>
  nomatch hq.closed (d, false) ((older_steps h).subset hmem)

/-- What is kept in the open example is kept until the example is handed on. -/
theorem exists_closed {p q : Parse} {d : Draft} {base : Code} {number : Nat}
    {rest : List Line} (hd : p.current = some d) (hbase : d.Keeps base)
    (hrest : ∀ line ∈ rest, '\n' ∉ line) (h : p.steps number rest = .ok q) (hq : q.Complete) :
    ∃ e, q.older.reverse[p.older.length]? = some (e, true) ∧ base <:+ e.code ∧
      d.SameHeader e := by
  induction rest generalizing p d number with
  | nil =>
      cases h
      cases hd.symm.trans hq.current
  | cons line more ih =>
      obtain ⟨hline, hmore⟩ := List.forall_mem_cons.1 hrest
      rw [steps] at h
      split at h
      · next next hnext =>
          obtain ⟨kind, -, rfl⟩ := step_eq_ok hnext
          cases kind with
          | opening language =>
              -- the example would never be closed
              exact absurd (mem_older_of_opening hd _ _ language) (hq.not_aside h d)
          | closing =>
              have holder := older_steps h
              rw [stepKind, setAside, hd] at holder
              exact ⟨_, getElem?_reverse_of_suffix holder, hbase.finishLines.suffix,
                d.finishLines_sameHeader⟩
          | skipNext =>
              exact ih (p := p.stepKind (content line) number .skipNext) hd hbase hmore h
          | share => exact ih (p := p.stepKind (content line) number .share) hd hbase hmore h
          | body =>
              have hcontent := not_mem_content hline
              have hd' : (p.stepKind (content line) number .body).current =
                  some (d.feed (content line)) := congrArg (Option.map _) hd
              obtain ⟨e, he, hsuffix, hsame⟩ := ih hd' (hbase.feed hcontent) hmore h
              exact ⟨e, he, hsuffix, (d.feed_sameHeader _).trans hsame⟩
      · cases h

end Parse

/-! ## A block of `//` lines -/

namespace Draft

variable {d e : Draft} {line : Line} {checked : Nat}

theorem Fed.block_of_ofLines (h : Fed d line e) (hb : d.block = some (.ofLines checked)) :
    ∃ n, checked ≤ n ∧ e.block = some (.ofLines n) := by
  have hsame : ∃ n, checked ≤ n ∧ d.block = some (.ofLines n) := ⟨checked, Nat.le_refl _, hb⟩
  cases h with
  | compared => exact hsame
  | captured => exact hsame
  | uncaptured => exact hsame
  | logged => exact hsame
  | shown => exact hsame
  | closed _ _ _ hb' => rw [hb] at hb'; cases hb'
  | checkedInComment _ _ _ hb' => rw [hb] at hb'; cases hb'
  | checkedLine n _ _ hb' =>
      rw [hb] at hb'
      cases hb'
      exact ⟨checked + 1, Nat.le_succ _, rfl⟩
  | openedLines _ _ _ hb' => rw [hb] at hb'; cases hb'
  | openedComment _ hb' => rw [hb] at hb'; cases hb'
  | plain _ _ hb' => rw [hb] at hb'; cases hb'

/-- The line that ends a block of `//` lines keeps the code there is, the call included. -/
theorem keeps_feed_of_ends (hlined : d.Lined) (hline : '\n' ∉ line)
    (hends : continuation? line = none) : (d.feed line).Keeps d.finishLines.code := by
  refine ⟨(feed_code hlined hline).2.2, .inl ?_⟩
  rcases (d.fed_feed line).code_cases hline with hcap | ⟨-, added, -, hadded⟩
  · exact absurd hends (continuation?_of_capture? hline hcap)
  · rw [hadded, settle_of_continuation?_eq_none hends]
    exact List.suffix_rfl

end Draft

namespace Parse

section Lines

variable {p q : Parse} {d : Draft} {number : Nat}

theorem exists_drained {line : Line} {behind : List Line} (hd : p.current = some d)
    (hlined : d.Lined) (hends : EndsLines line) (hlines : ∀ l ∈ line :: behind, '\n' ∉ l)
    (h : p.steps number (line :: behind) = .ok q) (hq : q.Complete) :
    ∃ e, q.older.reverse[p.older.length]? = some (e, true) ∧ d.finishLines.code <:+ e.code ∧
      d.SameHeader e := by
  obtain ⟨hline, hbehind⟩ := List.forall_mem_cons.1 hlines
  have hcontent := not_mem_content hline
  rw [steps] at h
  split at h
  · next next hnext =>
      rw [step_eq] at hnext
      rcases hends with hkind | ⟨hkind, hstart⟩
      · rw [hkind] at hnext
        obtain rfl := Except.ok.inj hnext
        have holder := older_steps h
        rw [stepKind, setAside, hd] at holder
        exact ⟨_, getElem?_reverse_of_suffix holder, List.suffix_rfl, d.finishLines_sameHeader⟩
      · rw [hkind] at hnext
        obtain rfl := Except.ok.inj hnext
        rw [← strip_content] at hstart
        have hkeeps := Draft.keeps_feed_of_ends hlined hcontent (continuation?_eq_none hstart)
        have hd' : (p.stepKind (content line) number .body).current =
            some (d.feed (content line)) := congrArg (Option.map _) hd
        obtain ⟨e, he, hsuffix, hsame⟩ := exists_closed hd' hkeeps hbehind h hq
        exact ⟨e, he, hsuffix, (d.feed_sameHeader _).trans hsame⟩
  · cases h

/-- A line that does not end a block of `//` lines finds it open and leaves it open. -/
theorem step_of_not_endsLines {next : Parse} {line : Line} {checked : Nat}
    (hd : p.current = some d) (hb : d.block = some (.ofLines checked)) (hline : '\n' ∉ line)
    (hends : ¬ EndsLines line) (h : p.step line number = .ok next)
    (haside : (d, false) ∉ next.older) :
    next.older = p.older ∧ ∃ e n, next.current = some e ∧ e.block = some (.ofLines n) ∧
      checked ≤ n ∧ d.SameHeader e := by
  obtain ⟨kind, hkind, rfl⟩ := step_eq_ok h
  cases kind with
  | opening language => exact absurd (mem_older_of_opening hd _ _ language) haside
  | closing => exact absurd (.inl hkind) hends
  | skipNext => exact ⟨rfl, d, checked, hd, hb, Nat.le_refl _, ⟨rfl, rfl, rfl⟩⟩
  | share => exact ⟨rfl, d, checked, hd, hb, Nat.le_refl _, ⟨rfl, rfl, rfl⟩⟩
  | body =>
      have hstart : startsComment (Text.stripLeft (content line)) = true := by
        rw [← startsComment_strip, strip_content]
        by_contra hnot
        exact hends (.inr ⟨hkind, Bool.not_eq_true _ ▸ hnot⟩)
      have hcontent := not_mem_content hline
      have hcont : continuation? (content line) ≠ none := by
        rw [continuation?_of_startsComment hcontent hstart]
        exact Option.some_ne_none _
      have hfed := d.fed_feed (content line)
      rw [Draft.settle_of_continuation? hcont] at hfed
      obtain ⟨n, hle, hblock⟩ := hfed.block_of_ofLines hb
      exact ⟨rfl, _, n, congrArg (Option.map _) hd, hblock, hle, d.feed_sameHeader _⟩

/-- In an example that is handed on, a block of `//` lines comes to its end. -/
theorem exists_endsLines {checked : Nat} {rest : List Line} (hd : p.current = some d)
    (hb : d.block = some (.ofLines checked)) (hrest : ∀ line ∈ rest, '\n' ∉ line)
    (h : p.steps number rest = .ok q) (hq : q.Complete) :
    ∃ inside line behind r e n, rest = inside ++ line :: behind ∧
      (∀ l ∈ inside, ¬ EndsLines l) ∧ EndsLines line ∧ p.steps number inside = .ok r ∧
      r.older = p.older ∧ r.current = some e ∧ e.block = some (.ofLines n) ∧ checked ≤ n ∧
      d.SameHeader e := by
  induction rest generalizing p d checked number with
  | nil =>
      cases h
      cases hd.symm.trans hq.current
  | cons line more ih =>
      by_cases hends : EndsLines line
      · exact ⟨[], line, more, p, d, checked, rfl, List.forall_mem_nil _, hends, rfl, rfl, hd,
          hb, Nat.le_refl _, ⟨rfl, rfl, rfl⟩⟩
      obtain ⟨hline, hmore⟩ := List.forall_mem_cons.1 hrest
      rw [steps] at h
      split at h
      · next next hnext =>
          obtain ⟨holder, e, n, he, hblock, hle, hsame⟩ :=
            step_of_not_endsLines hd hb hline hends hnext (hq.not_aside h d)
          obtain ⟨inside, last, behind, r, f, m, rfl, hinside, hlast, hsteps, holder', hf,
            hblock', hle', hsame'⟩ := ih he hblock hmore h
          refine ⟨line :: inside, last, behind, r, f, m, rfl,
            List.forall_mem_cons.2 ⟨hends, hinside⟩, hlast, ?_, holder'.trans holder, hf,
            hblock', hle.trans hle', hsame.trans hsame'⟩
          rw [steps, hnext]
          exact hsteps
      · cases h

end Lines

end Parse

/-! ## A block in a comment -/

namespace Draft

variable {d : Draft} {line : Line} {checked : Nat}

/-- The line that closes the comment around a block is read as it stands, and takes the call
only if it is the bare mark. -/
theorem feed_of_closesComment (hd : d.BlockFits) (hb : d.block = some (.ofComment checked))
    (hcloses : closesComment line = true) (hlogged : logged? line = none) :
    d.feed line = d.closeCommentBlock line checked := by
  have hc := hd.ofComment checked hb
  rw [feed, ← settle, settle_of_inComment hd hc, feedOpen, hc, hlogged, hb]
  simp only [feedPlain, hb, hcloses]
  rfl

theorem feed_of_logged_ofComment (hd : d.BlockFits)
    (hb : d.block = some (.ofComment checked)) {a : Expectation}
    (hlogged : logged? line = some a) : (d.feed line).block = d.block := by
  have hc := hd.ofComment checked hb
  rw [feed, ← settle, settle_of_inComment hd hc, feedOpen, hc, hlogged]
  rfl

/-- The bare mark with the call behind it stays where it is. -/
theorem keeps_feed_of_bareClose (hlined : d.Lined) (hd : d.BlockFits)
    (hb : d.block = some (.ofComment checked)) (hchecked : checked ≠ 0) (hline : '\n' ∉ line)
    (hcloses : closesComment line = true) (hlogged : logged? line = none)
    (hstrip : Text.strip line = "*/".toList) :
    (d.feed line).Keeps ((line ++ ' ' :: drained) :: d.code) := by
  refine ⟨(feed_code hlined hline).2.2, .inr ?_⟩
  rw [feed_of_closesComment hd hb hcloses hlogged]
  refine ⟨?_, rfl, fun expected => ?_⟩
  · simp only [closeCommentBlock, append, if_pos (And.intro hstrip hchecked),
      Code.append_of_not_mem (not_mem_append_drained hline)]
  · rw [Code.captureLast?, captureLine?, (expression?_of_close hstrip).1]
    rfl

theorem feed_of_otherClose (hd : d.BlockFits) (hb : d.block = some (.ofComment checked))
    (hline : '\n' ∉ line) (hcloses : closesComment line = true) (hlogged : logged? line = none)
    (hstrip : Text.strip line ≠ "*/".toList) :
    (d.feed line).code = line :: d.code ∧ (d.feed line).block = none := by
  rw [feed_of_closesComment hd hb hcloses hlogged]
  refine ⟨?_, rfl⟩
  simp only [closeCommentBlock, append, if_neg (fun hand => hstrip (And.left hand)),
    Code.append_of_not_mem hline]

end Draft

/-! ## The checks of a block -/

/-- The check that a line becomes in a block. -/
def OutputBlock.check : OutputBlock → Line → Line
  | ofLines _, line => expectOutput ((continuation? line).getD []) false
  | ofComment _, line => expectOutput (Text.strip line) true

theorem OutputBlock.not_mem_check (block : OutputBlock) (line : Line) :
    '\n' ∉ block.check line := by
  cases block <;> exact not_mem_expectOutput _ _

/-- The expression of a comparison is the comparison without its semicolon. -/
theorem Assertion.eq_of_expression?_equalCall {actual expected e : List Char}
    (h : expression? (equalCall actual expected) = some e) :
    e ++ [';'] = equalCall actual expected := by
  obtain ⟨rest, hrest⟩ := equalCall_eq_cons actual expected
  have hstrip : Text.stripLeft (equalCall actual expected) = equalCall actual expected := by
    rw [hrest]
    exact List.dropWhile_cons_of_neg (by decide)
  have hends : ");".toList = [')', ';'] := by decide
  obtain ⟨front, hfront⟩ : ∃ front, equalCall actual expected = front ++ ')' :: [';'] := by
    unfold equalCall
    rw [hends]
    exact ⟨_, rfl⟩
  rw [(expression?_eq_some h).1, hstrip, hfront,
    Text.dropTrailing_append_cons_of_not (p := endsBefore) (by decide) front [';']]
  simp [Text.dropTrailing, endsBefore]

namespace Code

/-- Holds of code with a check, as its last line or in a line above, where an annotation may
have taken it for the expression that is compared. -/
def Holds (code : Code) (check : Line) : Prop :=
  code.head? = some check ∨ ∃ line ∈ code.drop 1, check <:+: line

variable {code : Code} {check : Line}

theorem Holds.cons (h : code.Holds check) (added : Line) : Holds (added :: code) check := by
  refine .inr ?_
  rw [List.drop_succ_cons, List.drop_zero]
  rcases h with hhead | ⟨line, hmem, hpart⟩
  · exact ⟨check, List.mem_of_mem_head? hhead, List.infix_rfl⟩
  · exact ⟨line, List.drop_subset 1 code hmem, hpart⟩

/-- A captured check is still there, as the expression that is compared. -/
theorem Holds.captureLast? {actual given expected : List Char} {new : Code}
    (h : code.Holds (equalCall actual given)) (hcode : ∀ line ∈ code, '\n' ∉ line)
    (hexpected : '\n' ∉ expected) (hnew : code.captureLast? expected = some new) :
    new.Holds (equalCall actual given) := by
  obtain ⟨last, older, stored, compared, rfl, hpair, rfl⟩ :=
    captureLast?_eq_some hexpected hcode hnew
  refine .inr ?_
  rcases h with hhead | ⟨line, hmem, hpart⟩
  · obtain rfl := Option.some.inj hhead
    obtain ⟨e, he, heq⟩ := Option.map_eq_some_iff.1 hpair
    cases heq
    refine ⟨_, .head _, ?_⟩
    rw [capture_eq, List.append_assoc, eq_of_expression?_equalCall he]
    exact (List.suffix_append _ _).isInfix
  · exact ⟨line, .tail _ hmem, hpart⟩

theorem Holds.infix_text (h : code.Holds check) : check <:+: code.text := by
  have hline : ∀ line ∈ code, line <:+: code.text := by
    intro line hmem
    obtain ⟨newer, older, rfl⟩ := List.append_of_mem hmem
    rw [text_append, text_cons]
    exact ⟨text older, ['\n'] ++ text newer, by simp⟩
  rcases h with hhead | ⟨line, hmem, hpart⟩
  · exact hline check (List.mem_of_mem_head? hhead)
  · exact hpart.trans (hline line (List.drop_subset 1 code hmem))

end Code

namespace Draft

/-- Holds of an example in which an open block that has checked a line holds the check of one
of the given lines. -/
def ChecksOf (lines : List Line) (d : Draft) : Prop :=
  ∀ block, d.block = some block → block.checked ≠ 0 →
    ∃ line ∈ lines, d.code.Holds (block.check (Parse.content line))

variable {d e : Draft} {line : Line} {lines : List Line}

theorem Fed.block_cases (h : Fed d line e) :
    e.block = d.block ∨ (∀ block, e.block = some block → block.checked = 0) ∨
      ∃ block, e.block = some block ∧ e.code = d.code.append (block.check line) := by
  cases h with
  | compared => exact .inl rfl
  | captured => exact .inl rfl
  | uncaptured => exact .inl rfl
  | logged => exact .inl rfl
  | shown => exact .inl rfl
  | closed => exact .inr (.inl fun _ h => nomatch h)
  | checkedInComment => exact .inr (.inr ⟨_, rfl, rfl⟩)
  | checkedLine => exact .inr (.inr ⟨_, rfl, rfl⟩)
  | openedLines => exact .inr (.inl fun _ h => by cases h; rfl)
  | openedComment => exact .inr (.inl fun _ h => by cases h; rfl)
  | plain => exact .inl rfl

theorem Fed.checksOf (h : Fed d (Parse.content line) e) (hlined : d.Lined) (hfits : d.BlockFits)
    (hline : '\n' ∉ line) (hmem : line ∈ lines) (hd : d.ChecksOf lines) :
    e.ChecksOf lines := by
  have hcontent := Parse.not_mem_content hline
  intro block hblock hne
  rcases h.block_cases with hsame | hzero | ⟨block', hblock', hcode⟩
  · rw [hsame] at hblock
    obtain ⟨l, hl, hholds⟩ := hd block hblock hne
    refine ⟨l, hl, ?_⟩
    rcases h.code_cases hcontent with hcap | ⟨-, added, -, hadded⟩
    · obtain ⟨hc, a, ha, -, hlast⟩ := capture?_eq_some_iff.1 hcap
      obtain ⟨-, hexpected⟩ := not_mem_of_withMarks? hcontent (eq_some_of_nonEmpty ha)
      cases block with
      | ofLines n => exact hholds.captureLast? hlined.lines hexpected hlast
      | ofComment n =>
          rw [hfits.ofComment n hblock] at hc
          cases hc
    · rw [hadded]
      exact hholds.cons added
  · exact absurd (hzero block hblock) hne
  · obtain rfl := Option.some.inj (hblock'.symm.trans hblock)
    refine ⟨line, hmem, .inl ?_⟩
    rw [hcode, Code.append_of_not_mem (block'.not_mem_check _)]
    rfl

theorem checksOf_feed (hlined : d.Lined) (hfits : d.BlockFits) (hline : '\n' ∉ line)
    (hmem : line ∈ lines) (hd : d.ChecksOf lines) :
    (d.feed (Parse.content line)).ChecksOf lines := by
  have hsettled : (d.settle (Parse.content line)).ChecksOf lines := by
    rcases d.settle_eq_or (Parse.content line) with heq | heq
    · rw [heq]
      exact hd
    · rcases d.finishLines_cases with hfin | ⟨_, _, hfin⟩
      · rw [heq, hfin]
        exact hd
      · rw [heq, hfin]
        exact fun _ h => nomatch h
  exact (d.fed_feed (Parse.content line)).checksOf (settle_code hlined _).2.2
    (hfits.settle _) hline hmem hsettled

end Draft

namespace Parse

/-- In every state that reading comes to, an open block that has checked a line holds the
check of a line that was read. -/
theorem checksOf_of_steps {lines : List Line} (hlines : ∀ line ∈ lines, '\n' ∉ line) {p : Parse}
    (hp : ({} : Parse).steps 1 lines = .ok p) :
    ∀ d, p.current = some d → d.ChecksOf lines := by
  rw [← List.take_length (l := lines)] at hp
  refine after_induction (P := fun _ p => ∀ d, p.current = some d → d.ChecksOf lines)
    (fun d h => nomatch h) ?_ (Nat.le_refl _) hp
  intro n line p kind hl hp ih hk e he
  have hreach : Reachable p :=
    Reachable.start.steps (fun l hl => hlines l (List.take_subset n lines hl)) hp
  have hmem := List.mem_of_getElem? hl
  cases kind with
  | opening language =>
      cases he
      exact fun _ h => nomatch h
  | closing => cases he
  | skipNext => exact ih e he
  | share => exact ih e he
  | body =>
      obtain ⟨d, hd, rfl⟩ := Option.map_eq_some_iff.1 he
      exact Draft.checksOf_feed (hreach.lined d hd) (hreach.blockFits d hd) (hlines line hmem)
        hmem (ih d hd)

/-- In an example that is handed on, the line that closes a comment is a line of the body. -/
theorem kind_of_closesComment {p next : Parse} {d : Draft} {line : Line} {number : Nat}
    (hd : p.current = some d) (hcloses : Draft.closesComment (content line) = true)
    (h : p.step line number = .ok next) (haside : (d, false) ∉ next.older) :
    Fence.kind line = .ok .body := by
  have hstar : '*' ∈ Text.strip line := by
    rw [← strip_content]
    refine Text.mem_strip (by decide) ?_
    by_contra hnot
    rw [Draft.closesComment_of_not_mem hnot] at hcloses
    cases hcloses
  have hmark : ∀ {k : Fence.Kind} {s : Line}, k.mark? = some s → Fence.kind line = .ok k →
      '*' ∈ s := fun hk hkind => (Fence.kind_eq_iff_strip hk).1 hkind ▸ hstar
  obtain ⟨kind, hkind, rfl⟩ := step_eq_ok h
  cases kind with
  | opening language => exact absurd (mem_older_of_opening hd _ _ language) haside
  | closing => exact absurd (hmark rfl hkind) (by decide)
  | skipNext => exact absurd (hmark rfl hkind) (by decide)
  | share => exact absurd (hmark rfl hkind) (by decide)
  | body => exact hkind

/-! ## The theorem -/

section Blocks

variable {p q : Parse} {d f : Draft} {number checked : Nat}

/-- A block of `//` lines comes to its end, and there the code goes on with the call. -/
theorem ofLines_drained {rest : List Line} (hp : Reachable p) (hd : p.current = some d)
    (hb : d.block = some (.ofLines checked)) (hchecked : checked ≠ 0)
    (hrest : ∀ line ∈ rest, '\n' ∉ line) (h : p.steps number rest = .ok q) (hq : q.Complete)
    (hf : q.older.reverse[p.older.length]? = some (f, true)) :
    ∃ inside line behind r e front later, rest = inside ++ line :: behind ∧
      (∀ l ∈ inside, ¬ EndsLines l) ∧ EndsLines line ∧ p.steps number inside = .ok r ∧
      r.current = some e ∧ e.hasChecked = true ∧ e.code.text = front ++ ['\n'] ∧
      f.code.text = front ++ ' ' :: (drained ++ ['\n']) ++ later := by
  obtain ⟨inside, line, behind, r, e, n, rfl, hinside, hends, hr, holder, he, hblock, hle,
    -⟩ := exists_endsLines hd hb hrest h hq
  obtain ⟨hinsides, hbehinds⟩ := List.forall_mem_append.1 hrest
  have hlined := (hp.steps hinsides hr).lined e he
  have hchecks : e.hasChecked = true :=
    Draft.hasChecked_eq_true_iff.2 ⟨n, hblock, by omega⟩
  have hbehind : r.steps (number + inside.length) (line :: behind) = .ok q := by
    rw [steps_append, hr] at h
    exact h
  obtain ⟨g, hg, hsuffix, -⟩ := exists_drained he hlined hends hbehinds hbehind hq
  rw [holder, hf] at hg
  cases hg
  obtain ⟨later, hlater⟩ := Code.exists_text_of_suffix hsuffix
  have hdrained := Draft.finishLines_drained hlined
  generalize e.finishLines.code.text = text at hlater hdrained
  cases hdrained with
  | kept hnone =>
      rw [hchecks] at hnone
      cases hnone
  | called front _ hold =>
      exact ⟨inside, line, behind, r, e, front, later, rfl, hinside, hends, hr, he, hchecks,
        hold, hlater⟩

/-- A block in a comment is ended with the call by the bare mark that closes the comment,
without it by any other line with that mark, and not at all by an annotation of a console
line. -/
theorem ofComment_drained {line : Line} {behind : List Line} (hp : Reachable p)
    (hd : p.current = some d) (hb : d.block = some (.ofComment checked)) (hchecked : checked ≠ 0)
    (hlines : ∀ l ∈ line :: behind, '\n' ∉ l) (h : p.steps number (line :: behind) = .ok q)
    (hq : q.Complete) (hf : q.older.reverse[p.older.length]? = some (f, true))
    (hcloses : Draft.closesComment (content line) = true) :
    ∃ e, p.step line number = .ok { p with current := some e } ∧
      (logged? (content line) = none → Text.strip line = "*/".toList → ∃ later,
        f.code.text = d.code.text ++ (content line ++ ' ' :: (drained ++ ['\n'])) ++ later) ∧
      (logged? (content line) = none → Text.strip line ≠ "*/".toList →
        e.code = content line :: d.code ∧ e.block = none ∧
        ∃ later, f.code.text = d.code.text ++ later) ∧
      (logged? (content line) ≠ none → e.block = d.block) := by
  have hlined := hp.lined d hd
  have hfits := hp.blockFits d hd
  obtain ⟨hline, hbehind⟩ := List.forall_mem_cons.1 hlines
  have hcontent := not_mem_content hline
  rw [steps] at h
  split at h
  case h_2 => cases h
  next next hnext =>
  have hkind := kind_of_closesComment hd hcloses hnext (hq.not_aside h d)
  have hstep := step_body hd hkind number
  obtain rfl := Except.ok.inj (hstep.symm.trans hnext)
  -- what the line leaves in the example is in its code at the end
  have hstays : ∀ base, (d.feed (content line)).Keeps base →
      ∃ later, f.code.text = Code.text base ++ later := by
    intro base hkeeps
    obtain ⟨g, hg, hsuffix, -⟩ :=
      exists_closed (d := d.feed (content line)) rfl hkeeps hbehind h hq
    cases hg.symm.trans hf
    exact Code.exists_text_of_suffix hsuffix
  refine ⟨d.feed (content line), hstep, fun hlogged hstrip => ?_, fun hlogged hstrip => ?_,
    fun hlogged => ?_⟩
  · rw [← strip_content] at hstrip
    obtain ⟨later, hlater⟩ := hstays _ (Draft.keeps_feed_of_bareClose hlined hfits hb hchecked
      hcontent hcloses hlogged hstrip)
    refine ⟨later, hlater.trans ?_⟩
    rw [Code.text_cons, List.append_assoc (content line)]
    rfl
  · rw [← strip_content] at hstrip
    obtain ⟨hcode, hblock⟩ := Draft.feed_of_otherClose hfits hb hcontent hcloses hlogged hstrip
    exact ⟨hcode, hblock, hstays d.code ⟨(Draft.feed_code hlined hcontent).2.2,
      .inl (by rw [hcode]; exact List.suffix_rfl)⟩⟩
  · obtain ⟨a, ha⟩ := Option.ne_none_iff_exists'.1 hlogged
    exact Draft.feed_of_logged_ofComment hfits hb ha

end Blocks

/-- In an example that is handed on, every output block that has checked a line, wherever its
reading has got to, with the check of a line that was read in the code so far. A block of
`//` lines comes to a line that ends it, and the code goes on there with the call that nothing
is left, in front of all code of that line and of later ones. A block in a comment comes to a
line with the mark that closes it. If that line is the mark alone, the code goes on with the
line and the call. Otherwise the block is ended without the call, or, where the line is an
annotation of a console line, not ended at all. -/
theorem blocks_drained {text path : String} {parsed : Parsed}
    (h : parseSnippets text path = .ok parsed) {before rest : List Line}
    (hlines : Text.splitLines text.toList = before ++ rest) {p : Parse}
    (hp : ({} : Parse).steps 1 before = .ok p) {d : Draft} (hd : p.current = some d)
    {block : OutputBlock} (hb : d.block = some block) (hchecked : block.checked ≠ 0) :
    ∃ code,
      parsed.snippets[p.older.length]? =
        some { d.toSnippet path with code := String.ofList code } ∧
      (∃ line ∈ before, block.check (content line) <:+: d.code.text) ∧
      (∀ checked, block = .ofLines checked → ∃ inside line behind r e front later,
        rest = inside ++ line :: behind ∧ (∀ l ∈ inside, ¬ EndsLines l) ∧ EndsLines line ∧
        p.steps (1 + before.length) inside = .ok r ∧ r.current = some e ∧
        e.hasChecked = true ∧ e.code.text = front ++ ['\n'] ∧
        code = front ++ ' ' :: (drained ++ ['\n']) ++ later) ∧
      ∀ checked line behind, block = .ofComment checked → rest = line :: behind →
        Draft.closesComment (content line) = true → ∃ e,
        p.step line (1 + before.length) = .ok { p with current := some e } ∧
        (logged? (content line) = none → Text.strip line = "*/".toList → ∃ later,
          code = d.code.text ++ (content line ++ ' ' :: (drained ++ ['\n'])) ++ later) ∧
        (logged? (content line) = none → Text.strip line ≠ "*/".toList →
          e.code = content line :: d.code ∧ e.block = none ∧
          ∃ later, code = d.code.text ++ later) ∧
        (logged? (content line) ≠ none → e.block = d.block) := by
  have hsingle : ∀ line ∈ before ++ rest, '\n' ∉ line :=
    fun line hl => Text.not_mem_of_mem_splitLines (hlines ▸ hl)
  obtain ⟨hbefore, hrest⟩ := List.forall_mem_append.1 hsingle
  have hreach : Reachable p := Reachable.start.steps hbefore hp
  rw [parseSnippets_eq_result, hlines, steps_append, hp] at h
  simp only [Except.bind] at h
  split at h
  case h_1 => cases h
  next q hq =>
  obtain ⟨hcurrent, hclosed, rfl⟩ := closed_of_result h
  have hcomplete : q.Complete := ⟨hcurrent, hclosed⟩
  have hnothing : d.Keeps [] := ⟨hreach.lined d hd, .inl List.nil_suffix⟩
  obtain ⟨f, hf, -, hsame⟩ := exists_closed hd hnothing hrest hq hcomplete
  obtain ⟨line, hline, hholds⟩ := checksOf_of_steps hbefore hp d hd block hb hchecked
  refine ⟨f.code.text, ?_, ⟨line, hline, hholds.infix_text⟩, ?_, ?_⟩
  · rw [List.getElem?_map, hf, Option.map_some, Draft.toSnippet_of_sameHeader hsame]
  · rintro checked rfl
    exact ofLines_drained hreach hd hb hchecked hrest hq hcomplete hf
  · rintro checked line behind rfl rfl hcloses
    exact ofComment_drained hreach hd hb hchecked hrest hq hcomplete hf hcloses

/-- A block of one line in front of a call: `//` lines, which the call ends, and a comment, which
the mark alone closes. -/
theorem blocks_drained_behind_call :
    (∃ parsed p d, parseSnippets "```js\n// output:\n// a\nf()\n```" "doc.md" = .ok parsed ∧
      ({} : Parse).steps 1 ["```js".toList, "// output:".toList, "// a".toList] = .ok p ∧
      p.current = some d ∧ d.block = some (.ofLines 1) ∧ ∃ code front later,
        parsed.snippets[0]? = some { d.toSnippet "doc.md" with code := String.ofList code } ∧
        code = front ++ ' ' :: (drained ++ ['\n']) ++ later) ∧
    ∃ parsed p d,
      parseSnippets "```js\n/*\noutput:\na\n*/\nf()\n```" "doc.md" = .ok parsed ∧
      ({} : Parse).steps 1 ["```js".toList, "/*".toList, "output:".toList, "a".toList] = .ok p ∧
      p.current = some d ∧ d.block = some (.ofComment 1) ∧ ∃ code later,
        parsed.snippets[0]? = some { d.toSnippet "doc.md" with code := String.ofList code } ∧
        code = d.code.text ++ ("*/".toList ++ ' ' :: (drained ++ ['\n'])) ++ later := by
  constructor
  · have hparsed : parseSnippets "```js\n// output:\n// a\nf()\n```" "doc.md" = .ok _ := rfl
    have hp : ({} : Parse).steps 1 ["```js".toList, "// output:".toList, "// a".toList] =
      .ok _ := rfl
    obtain ⟨code, hsnippet, -, hdrained, -⟩ := blocks_drained (d := _) hparsed
      (by rfl : _ = _ ++ ["f()".toList, "```".toList]) hp rfl rfl (by decide)
    obtain ⟨-, -, -, -, -, front, later, -, -, -, -, -, -, -, hcode⟩ := hdrained 1 rfl
    exact ⟨_, _, _, hparsed, hp, rfl, rfl, code, front, later, hsnippet, hcode⟩
  · have hparsed : parseSnippets "```js\n/*\noutput:\na\n*/\nf()\n```" "doc.md" = .ok _ := rfl
    have hp : ({} : Parse).steps 1
      ["```js".toList, "/*".toList, "output:".toList, "a".toList] = .ok _ := rfl
    have hcloses : Draft.closesComment (content "*/".toList) = true := by decide
    have hmark : Text.strip "*/".toList = "*/".toList := by decide
    obtain ⟨code, hsnippet, -, -, hclosed⟩ := blocks_drained (d := _) hparsed
      (by rfl : _ = _ ++ ["*/".toList, "f()".toList, "```".toList]) hp rfl rfl (by decide)
    obtain ⟨e, -, hdrained, -⟩ := hclosed 1 _ _ rfl rfl hcloses
    obtain ⟨later, hcode⟩ := hdrained (by decide) hmark
    exact ⟨_, _, _, hparsed, hp, rfl, rfl, code, later, hsnippet, hcode⟩

/-- With text in front of the mark that closes the comment, nothing asks whether more was
written than the block says. -/
theorem close_behind_text_drops_call :
    (∃ p d, ({} : Parse).steps 1
        ["```js".toList, "/*".toList, "output:".toList, "a".toList] = .ok p ∧
      p.current = some d ∧ d.block = some (.ofComment 1)) ∧
    Draft.closesComment "done */".toList = true ∧
    ∃ parsed, parseSnippets "```js\n/*\noutput:\na\ndone */\n```" "doc.md" = .ok parsed ∧
      parsed.snippets.map (·.code) =
        ["/*\noutput:\n*/ __deepStrictEqual(__nextOutput(), \"a\"); /*\ndone */\n"] :=
  ⟨⟨_, _, rfl, rfl, rfl⟩, by decide, _, rfl, by decide⟩

end Parse

end DocExamples
