import DocExamples.Proofs.Document.Feed
import DocExamples.Proofs.Document.Reading
import DocExamples.Run.Result

/-!
# Where generated lines come from

A failure is reported by a line of generated code, and the report shows the line
of the opening fence plus that number. This file says when that is the line of
the document the code came from.

A line of the body adds one line to the code, whatever it carries: an annotation
is rewritten on its own line, and what else it changes is the line before, which
stays one line. A directive is the exception. It means the document and not the
example, so inside an example it is taken without leaving a line, and every
generated line behind it stands one line too early. Hence the count: the line
feeds of the code and the directives above make up the distance from the fence,
and a report is right exactly as long as no directive has been passed.

The invariant that carries this is `Draft.Lined`: no stored line holds a line
feed, and an output block is only open once there is a line to extend.
-/

namespace DocExamples

/-! ## Code line by line -/

namespace Code

theorem text_cons (line : Line) (older : Code) :
    text (line :: older) = text older ++ (line ++ ['\n']) := by
  simp [text]

/-- Code of single lines has as many line feeds as lines. -/
theorem count_text {code : Code} (h : ∀ line ∈ code, '\n' ∉ line) :
    code.text.count '\n' = code.length := by
  induction code with
  | nil => rfl
  | cons line older ih =>
      have hline : line.count '\n' = 0 := List.count_eq_zero.2 (h line (.head _))
      have holder := ih fun l hl => h l (.tail _ hl)
      rw [text_cons, List.count_append, List.count_append, holder, hline,
        List.length_cons]
      rfl

theorem append_of_not_mem {line : Line} (h : '\n' ∉ line) (code : Code) :
    code.append line = line :: code := by
  rw [append, Text.splitLines_of_not_mem h]
  rfl

/-- What the capture of the last line replaces. -/
theorem captureLast?_eq_some {code new : Code} {expected : Line}
    (he : '\n' ∉ expected) (hcode : ∀ line ∈ code, '\n' ∉ line)
    (h : code.captureLast? expected = some new) :
    ∃ last older stored compared, code = last :: older ∧
      Assertion.captureLine? last expected = some (stored, compared) ∧
      new = compared :: stored :: older := by
  cases code with
  | nil => cases h
  | cons last older =>
      obtain ⟨⟨stored, compared⟩, hcap, rfl⟩ := Option.map_eq_some_iff.1 h
      obtain ⟨-, hcompared⟩ :=
        Assertion.not_mem_captureLine? (hcode last (.head _)) he hcap
      refine ⟨last, older, stored, compared, rfl, hcap, ?_⟩
      dsimp only
      rw [Text.splitLines_of_not_mem hcompared]
      rfl

end Code

/-! ## One line of the body -/

namespace Draft

/-- The lines of the code are single lines, and an open output block has a line
above it. -/
structure Lined (d : Draft) : Prop where
  lines : ∀ line ∈ d.code, '\n' ∉ line
  block : d.block ≠ none → d.code ≠ []

/-- How a step changes code: one more line, and of the others only the last can
differ. -/
structure Grows (old new : Code) : Prop where
  length : new.length = old.length + 1
  older : new.drop 2 = old.drop 1
  lines : (∀ line ∈ old, '\n' ∉ line) → ∀ line ∈ new, '\n' ∉ line

theorem grows_cons {line : Line} (h : '\n' ∉ line) (code : Code) :
    Grows code (line :: code) where
  length := rfl
  older := by rw [List.drop_succ_cons]
  lines := by
    intro hcode l hl
    rcases List.mem_cons.1 hl with rfl | hmem
    · exact h
    · exact hcode l hmem

theorem grows_captureLast? {code new : Code} {expected : Line}
    (he : '\n' ∉ expected) (hcode : ∀ line ∈ code, '\n' ∉ line)
    (h : code.captureLast? expected = some new) : Grows code new := by
  obtain ⟨last, older, stored, compared, rfl, hcap, rfl⟩ :=
    Code.captureLast?_eq_some he hcode h
  obtain ⟨hstored, hcompared⟩ :=
    Assertion.not_mem_captureLine? (hcode last (.head _)) he hcap
  refine ⟨rfl, rfl, fun _ l hl => ?_⟩
  rcases List.mem_cons.1 hl with rfl | hl
  · exact hcompared
  · rcases List.mem_cons.1 hl with rfl | hl
    · exact hstored
    · exact hcode l (.tail _ hl)

/-! Of all that a line can do, only an annotation of the value of the line before
touches the code there is. `capture?` says which lines do that. -/

/-- The code behind an annotation of the value of the line before, where there is a
value to capture. -/
def capture? (d : Draft) (line : Line) : Option Code :=
  if d.inComment then none
  else ((Expectation.returned? line).filter fun a => Text.isAllBlank a.code).bind
    fun a => d.code.captureLast? a.expected

theorem capture?_eq_some_iff {d : Draft} {line : Line} {code : Code} :
    d.capture? line = some code ↔ d.inComment = false ∧
      ∃ a, Expectation.returned? line = some a ∧ Text.isAllBlank a.code = true ∧
        d.code.captureLast? a.expected = some code := by
  rw [capture?]
  cases d.inComment with
  | true => exact iff_of_false (nomatch ·) fun h => nomatch h.1
  | false =>
      simp only [Bool.false_eq_true, if_false, Option.bind_eq_some_iff,
        Option.filter_eq_some_iff, and_assoc, true_and]

theorem capture?_eq_none {d : Draft} {line : Line}
    (h : d.inComment = false → Expectation.returned? line = none) :
    d.capture? line = none := by
  rw [Option.eq_none_iff_forall_ne_some]
  intro code hcode
  obtain ⟨hc, a, ha, -, -⟩ := capture?_eq_some_iff.1 hcode
  rw [h hc] at ha
  cases ha

/-- An annotation of a line whose characters are no line feeds holds none. -/
theorem not_mem_of_withMarks? {line : Line} (hline : '\n' ∉ line) {a : Expectation}
    {words : List String} (ha : Expectation.withMarks? words line = some a) :
    '\n' ∉ a.code ∧ '\n' ∉ a.expected := by
  obtain ⟨hcode, hexpected⟩ := Expectation.withMarks?_subset ha
  exact ⟨fun hm => hline (hcode hm), fun hm => hline (hexpected hm)⟩

/-- A line captures the value of the line before, or it adds one line to the code. -/
theorem Fed.code_cases {d e : Draft} {line : Line} (h : Fed d line e)
    (hline : '\n' ∉ line) :
    d.capture? line = some e.code ∨
      d.capture? line = none ∧ ∃ added, '\n' ∉ added ∧ e.code = added :: d.code := by
  have adds : ∀ {added : Line}, d.capture? line = none → '\n' ∉ added →
      d.capture? line = some (d.code.append added) ∨
        d.capture? line = none ∧
          ∃ l, '\n' ∉ l ∧ d.code.append added = l :: d.code :=
    fun hnone hadded => .inr ⟨hnone, _, hadded, Code.append_of_not_mem hadded d.code⟩
  have standing : ∀ {a : Expectation}, Expectation.returned? line = some a →
      (Text.isAllBlank a.code = true → d.code.captureLast? a.expected = none) →
      d.capture? line = none := by
    intro a ha hnone
    rw [Option.eq_none_iff_forall_ne_some]
    intro code hcode
    obtain ⟨-, b, hb, hblank, hlast⟩ := capture?_eq_some_iff.1 hcode
    obtain rfl := Option.some.inj (ha.symm.trans hb)
    rw [hnone hblank] at hlast
    cases hlast
  cases h with
  | compared a _ ha hcode =>
      obtain ⟨hfront, hexpected⟩ :=
        not_mem_of_withMarks? hline (Expectation.eq_some_of_nonEmpty ha)
      refine adds (standing ha fun hblank => ?_) ?_
      · rw [hcode] at hblank
        cases hblank
      · cases hin : Assertion.inlineReturn? a.code a.expected with
        | none => exact hline
        | some stored => exact Assertion.not_mem_inlineReturn? hfront hexpected hin
  | captured a hc ha hcode code hcap =>
      exact .inl (capture?_eq_some_iff.2 ⟨hc, a, ha, hcode, hcap⟩)
  | uncaptured a _ ha _ hcap => exact adds (standing ha fun _ => hcap) hline
  | logged a hr ha =>
      obtain ⟨hfront, hexpected⟩ :=
        not_mem_of_withMarks? hline (Expectation.eq_some_of_nonEmpty ha)
      exact adds (capture?_eq_none hr) (Assertion.not_mem_afterCode hfront
        (Assertion.not_mem_expectLogged hexpected _) _)
  | shown a hr _ _ ha =>
      obtain ⟨hfront, _⟩ :=
        not_mem_of_withMarks? hline (Expectation.eq_some_of_nonEmpty ha)
      exact adds (capture?_eq_none hr) (Assertion.not_mem_afterCode hfront
        (Assertion.not_mem_expectOutput _ _) _)
  | closed checked hr _ _ _ =>
      have hclosing : '\n' ∉ (if Text.strip line = "*/".toList ∧ checked ≠ 0
          then line ++ ' ' :: Assertion.drained else line) := by
        split
        · rw [List.mem_append, List.mem_cons, not_or, not_or]
          exact ⟨hline, by decide, Assertion.not_mem_drained⟩
        · exact hline
      exact adds (capture?_eq_none hr) hclosing
  | checkedInComment _ hr =>
      exact adds (capture?_eq_none hr) (Assertion.not_mem_expectOutput _ _)
  | checkedLine _ hr =>
      exact adds (capture?_eq_none hr) (Assertion.not_mem_expectOutput _ _)
  | openedLines _ hr => exact adds (capture?_eq_none fun _ => hr) hline
  | openedComment _ _ hc =>
      refine adds (capture?_eq_none fun hout => ?_) hline
      rw [hc] at hout
      cases hout
  | plain hr => exact adds (capture?_eq_none hr) hline

/-- A line of the body adds one line of code. -/
theorem Fed.grows {d e : Draft} {line : Line} (h : Fed d line e)
    (hline : '\n' ∉ line) (hd : d.Lined) : Grows d.code e.code := by
  rcases h.code_cases hline with hcap | ⟨-, added, hadded, hcode⟩
  · obtain ⟨-, a, ha, -, hlast⟩ := capture?_eq_some_iff.1 hcap
    obtain ⟨-, hexpected⟩ :=
      not_mem_of_withMarks? hline (Expectation.eq_some_of_nonEmpty ha)
    exact grows_captureLast? hexpected hd.lines hlast
  · rw [hcode]
    exact grows_cons hadded d.code

theorem Grows.ne_nil {old new : Code} (h : Grows old new) : new ≠ [] := by
  intro hnil
  have hlen := h.length
  rw [hnil] at hlen
  cases hlen

/-- Ending a block of `//` lines changes the last line at most. -/
theorem finishLines_code {d : Draft} (hd : d.Lined) :
    d.finishLines.code.length = d.code.length ∧
      d.finishLines.code.drop 1 = d.code.drop 1 ∧ d.finishLines.Lined := by
  rcases d.finishLines_cases with heq | ⟨checked, hb, heq⟩
  · rw [heq]
    exact ⟨rfl, rfl, hd⟩
  · rw [heq]
    dsimp only
    split
    · exact ⟨rfl, rfl, hd.lines, fun h => absurd rfl h⟩
    · cases hcode : d.code with
      | nil =>
          have hsome : d.block ≠ none := by rw [hb]; exact Option.some_ne_none _
          exact absurd hcode (hd.block hsome)
      | cons line older =>
          refine ⟨rfl, rfl, fun l hl => ?_, fun h => absurd rfl h⟩
          have hlines := hd.lines
          rw [hcode] at hlines
          rcases List.mem_cons.1 hl with rfl | hl
          · rw [List.mem_append, List.mem_cons, not_or, not_or]
            exact ⟨hlines line (.head _), by decide, Assertion.not_mem_drained⟩
          · exact hlines l (.tail _ hl)

theorem settle_code {d : Draft} (hd : d.Lined) (line : Line) :
    (d.settle line).code.length = d.code.length ∧
      (d.settle line).code.drop 1 = d.code.drop 1 ∧ (d.settle line).Lined := by
  rcases d.settle_eq_or line with heq | heq
  · rw [heq]
    exact ⟨rfl, rfl, hd⟩
  · rw [heq]
    exact finishLines_code hd

/-- A line of the body adds one line of code and leaves all others but the last as
they are. -/
theorem feed_code {d : Draft} (hd : d.Lined) {line : Line} (hline : '\n' ∉ line) :
    (d.feed line).code.length = d.code.length + 1 ∧
      (d.feed line).code.drop 2 = d.code.drop 1 ∧ (d.feed line).Lined := by
  obtain ⟨hlen, hdrop, hsettled⟩ := settle_code hd line
  have hgrows := (d.fed_feed line).grows hline hsettled
  refine ⟨by rw [hgrows.length, hlen], by rw [hgrows.older, hdrop], ?_⟩
  exact ⟨hgrows.lines hsettled.lines, fun _ => hgrows.ne_nil⟩

end Draft

/-! ## Directives -/

namespace Fence

/-- Holds of a directive. -/
def isDirective (line : Line) : Bool :=
  Text.strip line = skipDirective || Text.strip line = shareDirective

theorem isDirective_of_kind {line : Line} {kind : Kind} (h : Fence.kind line = .ok kind) :
    isDirective line = (kind == .skipNext || kind == .share) := by
  rw [isDirective, Bool.eq_iff_iff, Bool.or_eq_true, Bool.or_eq_true,
    decide_eq_true_iff, decide_eq_true_iff, beq_iff_eq, beq_iff_eq,
    ← kind_eq_iff_strip (k := .skipNext) rfl, ← kind_eq_iff_strip (k := .share) rfl, h,
    Except.ok.injEq, Except.ok.injEq]

end Fence

/-- How many directives stand behind line `start`, up to line `n`. -/
def directives (lines : List Line) (start n : Nat) : Nat :=
  ((lines.take n).drop start).countP Fence.isDirective

theorem directives_self (lines : List Line) (n : Nat) : directives lines n n = 0 := by
  rw [directives, List.drop_eq_nil_of_le (List.length_take_le n lines)]
  rfl

theorem directives_succ {lines : List Line} {start n : Nat} {line : Line}
    (h : lines[n]? = some line) (hs : start ≤ n) :
    directives lines start (n + 1) =
      directives lines start n + if Fence.isDirective line then 1 else 0 := by
  have hn : n < lines.length := (List.getElem?_eq_some_iff.1 h).1
  have hlen : start ≤ (lines.take n).length := by
    rw [List.length_take]; omega
  rw [directives, List.take_add_one, h, Option.toList_some,
    List.drop_append_of_le_length hlen, List.countP_append, List.countP_singleton]
  rfl

/-- No more directives come in than lines do. -/
theorem directives_le_add {lines : List Line} {start m n : Nat} (hs : start ≤ m)
    (h : m ≤ n) : directives lines start n ≤ directives lines start m + (n - m) := by
  induction n, h using Nat.le_induction with
  | base => omega
  | succ n hmn ih =>
      cases hline : lines[n]? with
      | none =>
          have hlen : lines.length ≤ n := List.getElem?_eq_none_iff.1 hline
          have hsame : directives lines start (n + 1) = directives lines start n := by
            rw [directives, directives, List.take_of_length_le hlen,
              List.take_of_length_le (Nat.le_succ_of_le hlen)]
          omega
      | some line =>
          rw [directives_succ hline (by omega)]
          split <;> omega

/-! ## A whole document -/

namespace Parse

/-- Holds when line `m` of a document gives generated line `k` of the example
opened on line `start`: the step over it takes the code from `k - 1` lines to
`k`, and of those before only the last can differ. -/
def Gives (lines : List Line) (start k m : Nat) : Prop :=
  ∃ n p q d e, m = n + 1 ∧ n < lines.length ∧
    after lines n = .ok p ∧ after lines m = .ok q ∧
    p.current = some d ∧ q.current = some e ∧
    d.startLine = start ∧ e.startLine = start ∧
    d.code.text.count '\n' + 1 = k ∧ e.code.text.count '\n' = k ∧
    e.code.drop 2 = d.code.drop 1

/-- What holds of the open example after `n` lines. -/
structure OpenAt (lines : List Line) (n : Nat) (d : Draft) : Prop where
  lined : d.Lined
  pos : 1 ≤ d.startLine
  le : d.startLine ≤ n
  count : d.code.length + directives lines d.startLine n = n - d.startLine

theorem openAt_start {lines : List Line} {n : Nat} (language : Language) (skip : Bool) :
    OpenAt lines (n + 1) (Draft.start (n + 1) language skip) where
  lined := ⟨fun _ h => absurd h List.not_mem_nil, fun h => absurd rfl h⟩
  pos := Nat.le_add_left 1 n
  le := Nat.le_refl _
  count := by
    show 0 + directives lines (n + 1) (n + 1) = n + 1 - (n + 1)
    rw [directives_self, Nat.sub_self]

theorem OpenAt.feed {lines : List Line} {n : Nat} {d : Draft} {line : Line}
    (h : OpenAt lines n d) (hl : lines[n]? = some line) (hline : '\n' ∉ line)
    (hk : Fence.kind line = .ok .body) :
    OpenAt lines (n + 1) (d.feed (content line)) := by
  have hcontent : '\n' ∉ content line := fun hm => hline (content_subset line hm)
  obtain ⟨hlen, _, hlined⟩ := Draft.feed_code h.lined hcontent
  have hstart := (d.feed_sameHeader (content line)).startLine
  have hpos := h.pos
  have hle := h.le
  have hcount := h.count
  refine ⟨hlined, by omega, by omega, ?_⟩
  rw [hstart, hlen, directives_succ hl hle, Fence.isDirective_of_kind hk]
  show d.code.length + 1 + (directives lines d.startLine n + 0) = n + 1 - d.startLine
  omega

theorem OpenAt.directive {lines : List Line} {n : Nat} {d : Draft} {line : Line}
    (h : OpenAt lines n d) (hl : lines[n]? = some line)
    (hd : Fence.isDirective line = true) : OpenAt lines (n + 1) d := by
  have hle := h.le
  have hcount := h.count
  refine ⟨h.lined, h.pos, by omega, ?_⟩
  rw [directives_succ hl hle, if_pos hd]
  omega

/-- The line feeds of the open example and the directives behind its fence make up
the distance from the fence. -/
theorem openAt_of_after {lines : List Line} (hlines : ∀ line ∈ lines, '\n' ∉ line)
    {n : Nat} {p : Parse} (hn : n ≤ lines.length) (hp : after lines n = .ok p) :
    ∀ d, p.current = some d → OpenAt lines n d := by
  refine after_induction (P := fun n p => ∀ d, p.current = some d → OpenAt lines n d)
    (fun d h => by cases h) ?_ hn hp
  intro n line p kind hl _ ih hk e he
  cases kind with
  | opening language => cases he; exact openAt_start language p.skipNext
  | closing => cases he
  | skipNext => exact (ih e he).directive hl (by rw [Fence.isDirective_of_kind hk]; rfl)
  | share => exact (ih e he).directive hl (by rw [Fence.isDirective_of_kind hk]; rfl)
  | body =>
      obtain ⟨d, hd, rfl⟩ := Option.map_eq_some_iff.1 he
      have hline := hlines line (List.mem_of_getElem? hl)
      exact (ih d hd).feed hl hline hk

/-- The line that gives a generated line is the only one. -/
theorem Gives.unique {lines : List Line} (hlines : ∀ line ∈ lines, '\n' ∉ line)
    {start k m m' : Nat} (h : Gives lines start k m) (h' : Gives lines start k m') :
    m = m' := by
  -- the distance from the fence less the directives grows by one at line `m` and
  -- never falls, so no line above and no line below can take it from `k - 1` to `k`
  have key : ∀ {m m' : Nat}, Gives lines start k m → Gives lines start k m' →
      ¬ m < m' := by
    rintro m m' ⟨n, p, q, d, e, rfl, hn, _, hq, _, he, _, hes, _, hke, _⟩
      ⟨n', p', q', d', e', rfl, hn', hp', _, hd', _, hds', _, hkd', _, _⟩ hlt
    have hopen := openAt_of_after hlines hn hq e he
    have hopen' := openAt_of_after hlines (Nat.le_of_lt hn') hp' d' hd'
    have hcount := hopen.count
    have hcount' := hopen'.count
    have hle := hopen.le
    have hle' := hopen'.le
    rw [Code.count_text hopen.lined.lines] at hke
    rw [Code.count_text hopen'.lined.lines] at hkd'
    rw [hes] at hcount hle
    rw [hds'] at hcount' hle'
    have hdir := @directives_le_add lines _ _ _ hle (show n + 1 ≤ n' by omega)
    omega
  have h1 := key h h'
  have h2 := key h' h
  omega

/-- What holds of an example after `n` lines: its lines are single, and each of
them was given by a line of the document. -/
structure Traced (lines : List Line) (n : Nat) (d : Draft) : Prop where
  single : ∀ line ∈ d.code, '\n' ∉ line
  given : ∀ k, 1 ≤ k → k ≤ d.code.length → ∃ m, m ≤ n ∧
    Gives lines d.startLine k m ∧ m = d.startLine + k + directives lines d.startLine m

theorem Traced.succ {lines : List Line} {n : Nat} {d : Draft} (h : Traced lines n d) :
    Traced lines (n + 1) d := by
  refine ⟨h.single, fun k h1 hk => ?_⟩
  obtain ⟨m, hm, hgives, heq⟩ := h.given k h1 hk
  exact ⟨m, Nat.le_succ_of_le hm, hgives, heq⟩

theorem Traced.finishLines {lines : List Line} {n : Nat} {d : Draft} (hd : d.Lined)
    (h : Traced lines n d) : Traced lines n d.finishLines := by
  obtain ⟨hlen, _, hlined⟩ := Draft.finishLines_code hd
  refine ⟨hlined.lines, ?_⟩
  rw [hlen, d.finishLines_sameHeader.startLine]
  exact h.given

theorem Traced.feed {lines : List Line} {n : Nat} {p q : Parse} {d : Draft} {line : Line}
    (ht : Traced lines n d) (hopen : OpenAt lines n d) (hl : lines[n]? = some line)
    (hline : '\n' ∉ line) (hk : Fence.kind line = .ok .body)
    (hp : after lines n = .ok p) (hq : after lines (n + 1) = .ok q)
    (hd : p.current = some d) (he : q.current = some (d.feed (content line))) :
    Traced lines (n + 1) (d.feed (content line)) := by
  have hcontent : '\n' ∉ content line := fun hm => hline (content_subset line hm)
  obtain ⟨hlen, hdrop, hlined⟩ := Draft.feed_code hopen.lined hcontent
  have hstart := (d.feed_sameHeader (content line)).startLine
  refine ⟨hlined.lines, fun k h1 hkle => ?_⟩
  rw [hstart]
  rw [hlen] at hkle
  rcases Nat.lt_or_ge d.code.length k with hlt | hge
  · -- the line just added
    have hkeq : k = d.code.length + 1 := by omega
    refine ⟨n + 1, Nat.le_refl _, ⟨n, p, q, d, _, rfl, ?_, hp, hq, hd, he, rfl, hstart,
      ?_, ?_, hdrop⟩, ?_⟩
    · exact (List.getElem?_eq_some_iff.1 hl).1
    · rw [Code.count_text hopen.lined.lines, hkeq]
    · rw [Code.count_text hlined.lines, hlen, hkeq]
    · have hcount := hopen.count
      have hle := hopen.le
      rw [directives_succ hl hle, Fence.isDirective_of_kind hk]
      show n + 1 = d.startLine + k + (directives lines d.startLine n + 0)
      omega
  · obtain ⟨m, hm, hgives, heq⟩ := ht.given k h1 hge
    exact ⟨m, Nat.le_succ_of_le hm, hgives, heq⟩

/-- Every generated line of every example was given by a line of the document. -/
theorem traced_of_after {lines : List Line} (hlines : ∀ line ∈ lines, '\n' ∉ line)
    {n : Nat} {p : Parse} (hn : n ≤ lines.length) (hp : after lines n = .ok p) :
    ∀ x ∈ p.drafts, Traced lines n x.1 := by
  refine after_induction (P := fun n p => ∀ x ∈ p.drafts, Traced lines n x.1)
    (fun x h => absurd h List.not_mem_nil) ?_ hn hp
  intro n line p kind hl hp ih hk x hx
  have hlt : n < lines.length := (List.getElem?_eq_some_iff.1 hl).1
  have hopen := openAt_of_after hlines (Nat.le_of_lt hlt) hp
  have hq : after lines (n + 1) = .ok (p.stepKind (content line) (n + 1) kind) := by
    rw [after_succ hl, hp]
    show p.step line (n + 1) = _
    rw [step_eq, hk]
    rfl
  cases kind with
  | opening language =>
      rcases mem_drafts_opening hx with hold | rfl
      · exact (ih x hold).succ
      · exact ⟨fun _ h => absurd h List.not_mem_nil,
          fun k h1 hk => absurd (Nat.le_trans h1 hk) (Nat.not_succ_le_zero 0)⟩
  | closing =>
      rcases mem_drafts_closing hx with hold | ⟨d, hd, rfl⟩
      · exact (ih x (mem_drafts.2 (.inl hold))).succ
      · exact ((ih (d, false) (mem_drafts.2 (.inr ⟨d, hd, rfl⟩))).finishLines
          (hopen d hd).lined).succ
  | skipNext => exact (ih x hx).succ
  | share => exact (ih x hx).succ
  | body =>
      rcases mem_drafts.1 hx with hold | ⟨e, he, rfl⟩
      · exact (ih x (mem_drafts.2 (.inl hold))).succ
      · obtain ⟨d, hd, rfl⟩ := Option.map_eq_some_iff.1 he
        have hline := hlines line (List.mem_of_getElem? hl)
        exact (ih (d, false) (mem_drafts.2 (.inr ⟨d, hd, rfl⟩))).feed (hopen d hd) hl
          hline hk hp hq hd he

/-! ## The line a report shows -/

/-- A report shows the line of the fence plus the line of the code, and the column
if there is one. -/
theorem location_eq {d : Draft} {path : String} {r : Result} {k : Nat}
    (hs : r.snippet = d.toSnippet path) (hk : r.line = some k) :
    r.location = path ++ ":" ++ toString (d.startLine + k) ++
      (r.column.map fun column => ":" ++ toString column).getD "" := by
  rw [Result.location, hk, hs]
  cases r.column with
  | none => exact String.append_empty.symm
  | some column => exact String.append_assoc

/-- After every line of every document, the line feeds of the open example and the
directives behind its fence make up the distance from the fence; and each generated
line `k` of each example was given by one line of the document, which is the one a
report on `k` shows exactly when no directive stands between it and the fence. -/
theorem generated_line_location {text path : String} {n : Nat} {p : Parse}
    (hn : n ≤ (Text.splitLines text.toList).length)
    (hp : after (Text.splitLines text.toList) n = .ok p) :
    (∀ d, p.current = some d → d.startLine ≤ n ∧
      d.code.text.count '\n' + directives (Text.splitLines text.toList) d.startLine n =
        n - d.startLine ∧
      (d.code.text.count '\n' = n - d.startLine ↔
        directives (Text.splitLines text.toList) d.startLine n = 0)) ∧
    ∀ d closed, (d, closed) ∈ p.drafts → ∀ k, 1 ≤ k → k ≤ d.code.text.count '\n' →
      ∃ m, m ≤ n ∧
        (∀ m', Gives (Text.splitLines text.toList) d.startLine k m' ↔ m' = m) ∧
        (d.startLine + k = m ↔
          directives (Text.splitLines text.toList) d.startLine m = 0) ∧
        ∀ r : Result, r.snippet = d.toSnippet path → r.line = some k →
          r.location = path ++ ":" ++ toString (d.startLine + k) ++
            (r.column.map fun column => ":" ++ toString column).getD "" := by
  have hlines : ∀ line ∈ Text.splitLines text.toList, '\n' ∉ line :=
    fun _ h => Text.not_mem_of_mem_splitLines h
  constructor
  · intro d hd
    have hopen := openAt_of_after hlines hn hp d hd
    have hcount := hopen.count
    rw [Code.count_text hopen.lined.lines]
    exact ⟨hopen.le, hcount, by omega⟩
  · intro d closed hmem k h1 hk
    have htraced : Traced _ n d := traced_of_after hlines hn hp (d, closed) hmem
    rw [Code.count_text htraced.single] at hk
    obtain ⟨m, hm, hgives, heq⟩ := htraced.given k h1 hk
    refine ⟨m, hm, fun m' => ⟨fun h' => h'.unique hlines hgives, ?_⟩, by omega,
      fun r hs hr => location_eq hs hr⟩
    rintro rfl
    exact hgives

/-- An annotation on a line of its own takes the line it stands on. -/
theorem generated_line_location_of_annotation :
    ∃ d, 6 ≤ (Text.splitLines "text\n```js\nf(2)\n// => 4\n\n```".toList).length ∧
      after (Text.splitLines "text\n```js\nf(2)\n// => 4\n\n```".toList) 6 =
        .ok ⟨[(d, true)], none, false, false⟩ ∧
      d.startLine = 2 ∧ 2 ≤ d.code.text.count '\n' ∧
      ∃ m ≤ 6, Gives (Text.splitLines "text\n```js\nf(2)\n// => 4\n\n```".toList) 2 2 m ∧
        (2 + 2 = m ↔
          directives (Text.splitLines "text\n```js\nf(2)\n// => 4\n\n```".toList) 2 m = 0) := by
  have hn : 6 ≤ (Text.splitLines "text\n```js\nf(2)\n// => 4\n\n```".toList).length := by
    decide
  have hp : after (Text.splitLines "text\n```js\nf(2)\n// => 4\n\n```".toList) 6 =
      .ok ⟨[(⟨2, .javascript, false, [[], "__deepStrictEqual(__returnValue, 4);".toList,
        "var __returnValue = f(2);".toList], false, none⟩, true)], none, false, false⟩ :=
    rfl
  refine ⟨_, hn, hp, rfl, by decide, ?_⟩
  obtain ⟨m, hm, hgives, hiff, _⟩ := (@generated_line_location _ "doc.md" _ _ hn hp).2
    _ _ (.head _) 2 (by decide) (by decide)
  exact ⟨m, hm, (hgives m).2 rfl, hiff⟩

/-- A directive inside an example leaves no line: of the two lines behind the fence
one is left, so a failure of the call on line 3 is reported on line 2. -/
theorem directive_shifts_location :
    ∃ p d, after (Text.splitLines "```js\n<!-- skip-example -->\nf()\n```".toList) 3 =
        .ok p ∧ p.current = some d ∧ d.startLine = 1 ∧ d.code.text = "f()\n".toList ∧
      d.code.text.count '\n' ≠ 3 - d.startLine :=
  ⟨⟨[], some ⟨1, .javascript, false, ["f()".toList], false, none⟩, false, true⟩, _,
    rfl, rfl, rfl, rfl, by decide⟩

end Parse

end DocExamples
