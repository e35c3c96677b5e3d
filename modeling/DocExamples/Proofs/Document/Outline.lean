import DocExamples.Document.Read
import DocExamples.Proofs.Document.Feed
import DocExamples.Proofs.Document.Reading

/-!
# The outline of a document

Which examples a document has, where they start, which of them are left out and
whether they share a sandbox: all of that is decided by four kinds of lines. This
file states it on the lines of the text alone, without a state that is carried
along. An example is closed if a closing fence comes before the next opening one;
it is left out if a directive stands behind the opening fence before it; the
examples share a sandbox if the other directive stands anywhere.

Reading keeps two flags and a list, and the work is to say what they mean after
`n` lines. `OutlineAt` does, and the awkward part of it is the example that has
been set aside without its end: that no later line can close it is known at the
moment the next fence opens, and has to be remembered from there.
-/

namespace DocExamples

/-- The language of the example that a line opens. -/
def Fence.Kind.opened? : Fence.Kind → Option Language
  | opening language => some language
  | _ => none

/-- What an example is known by: where and in which language it starts, and whether it
is left out. -/
def Draft.header (d : Draft) : Nat × Language × Bool := (d.startLine, d.language, d.skip)

theorem Draft.SameHeader.header_eq {d e : Draft} (h : d.SameHeader e) :
    e.header = d.header := by
  rw [header, header, h.startLine, h.language, h.skip]

namespace Parse

/-! ## The four kinds of lines -/

/-- Line `i`, counted from zero, opens an example. -/
def Opens (lines : List Line) (i : Nat) : Prop :=
  ∃ line language, lines[i]? = some line ∧ Fence.language? line = .ok (some language)

/-- Line `i` is the given mark, apart from the blanks around it. -/
def Marked (mark : Line) (lines : List Line) (i : Nat) : Prop :=
  ∃ line, lines[i]? = some line ∧ Text.strip line = mark

/-- The first `n` lines close an example that line `i` opens: a closing fence comes
before the next opening one. -/
def ClosedBy (lines : List Line) (i n : Nat) : Prop :=
  ∃ j, i < j ∧ j < n ∧ Marked Fence.mark lines j ∧ ∀ k, i < k → k < j → ¬ Opens lines k

/-- A directive leaves out the example that line `n` opens, if it opens one. -/
def SkippedAt (lines : List Line) (n : Nat) : Prop :=
  ∃ j, j < n ∧ Marked Fence.skipDirective lines j ∧
    ∀ k, j < k → k < n → ¬ Opens lines k

/-- A numbered line as an opening fence: its number and the language of its tag. -/
def opening? (x : Line × Nat) : Option (Nat × Language) :=
  match Fence.language? x.1 with
  | .ok (some language) => some (x.2, language)
  | _ => none

/-- The opening fences in order, each with its line, counted from one, and the
language of its tag. -/
def openings (lines : List Line) : List (Nat × Language) :=
  (lines.zipIdx 1).filterMap opening?

section Line

variable {lines : List Line} {n : Nat} {line : Line} {kind : Fence.Kind}

theorem opens_iff (hl : lines[n]? = some line) (hk : Fence.kind line = .ok kind) :
    Opens lines n ↔ ∃ language, kind = .opening language := by
  constructor
  · rintro ⟨_, language, hline, hlanguage⟩
    rw [hl] at hline
    cases hline
    rw [Fence.kind_eq_opening_iff.2 hlanguage] at hk
    exact ⟨language, (Except.ok.inj hk).symm⟩
  · rintro ⟨language, rfl⟩
    exact ⟨line, language, hl, Fence.kind_eq_opening_iff.1 hk⟩

theorem marked_iff {mark : Line} {k : Fence.Kind} (hl : lines[n]? = some line)
    (hk : Fence.kind line = .ok kind) (hm : k.mark? = some mark) :
    Marked mark lines n ↔ kind = k := by
  constructor
  · rintro ⟨_, hline, hmark⟩
    rw [hl] at hline
    cases hline
    rw [(Fence.kind_eq_iff_strip hm).2 hmark] at hk
    exact (Except.ok.inj hk).symm
  · rintro rfl
    exact ⟨line, hl, (Fence.kind_eq_iff_strip hm).1 hk⟩

theorem openings_take_succ (hl : lines[n]? = some line) (hk : Fence.kind line = .ok kind) :
    openings (lines.take (n + 1)) = openings (lines.take n) ++
      (kind.opened?.map fun language => (n + 1, language)).toList := by
  have hn : n < lines.length := (List.getElem?_eq_some_iff.1 hl).1
  have hlen : (lines.take n).length = n := by
    rw [List.length_take, Nat.min_eq_left (Nat.le_of_lt hn)]
  rw [openings, List.take_add_one, hl, Option.toList_some, List.zipIdx_append,
    List.filterMap_append, hlen, Nat.add_comm 1 n]
  congr 1
  show List.filterMap opening? [(line, n + 1)] = _
  rw [List.filterMap_cons, List.filterMap_nil, opening?]
  cases kind with
  | opening language => rw [Fence.kind_eq_opening_iff.1 hk]; rfl
  | _ =>
      cases hlanguage : Fence.language? line with
      | error e => rfl
      | ok found =>
          cases found with
          | none => rfl
          | some language =>
              rw [Fence.kind_eq_opening_iff.2 hlanguage] at hk
              cases hk

/-- A line that opens nothing leaves a directive in force. -/
theorem skippedAt_succ (hopens : ¬ Opens lines n) :
    SkippedAt lines (n + 1) ↔ Marked Fence.skipDirective lines n ∨ SkippedAt lines n := by
  constructor
  · rintro ⟨j, hj, hskips, hclear⟩
    rcases Nat.lt_succ_iff_lt_or_eq.1 hj with hlt | rfl
    · exact .inr ⟨j, hlt, hskips, fun k hjk hk => hclear k hjk (Nat.lt_succ_of_lt hk)⟩
    · exact .inl hskips
  · rintro (hskips | ⟨j, hj, hskips, hclear⟩)
    · exact ⟨n, Nat.lt_succ_self n, hskips, fun k hnk hk => by omega⟩
    · refine ⟨j, Nat.lt_succ_of_lt hj, hskips, fun k hjk hk => ?_⟩
      rcases Nat.lt_succ_iff_lt_or_eq.1 hk with hlt | rfl
      · exact hclear k hjk hlt
      · exact hopens

/-- Behind an opening fence no directive is in force. -/
theorem not_skippedAt_succ (hopens : Opens lines n)
    (hskips : ¬ Marked Fence.skipDirective lines n) : ¬ SkippedAt lines (n + 1) := by
  rintro ⟨j, hj, hmarked, hclear⟩
  rcases Nat.lt_succ_iff_lt_or_eq.1 hj with hlt | rfl
  · exact hclear n hlt (Nat.lt_succ_self n) hopens
  · exact hskips hmarked

end Line

theorem ClosedBy.mono {lines : List Line} {i m n : Nat} (h : ClosedBy lines i m)
    (hmn : m ≤ n) : ClosedBy lines i n := by
  obtain ⟨j, hij, hj, hclear⟩ := h
  exact ⟨j, hij, Nat.lt_of_lt_of_le hj hmn, hclear⟩

/-! ## What has been read after `n` lines -/

/-- The example was opened by line `i`. -/
structure Begun (lines : List Line) (i : Nat) (d : Draft) : Prop where
  startLine : d.startLine = i + 1
  opens : Opens lines i
  skip : d.skip = true ↔ SkippedAt lines i

theorem Begun.of_sameHeader {lines : List Line} {i : Nat} {d e : Draft}
    (h : Begun lines i d) (hsame : d.SameHeader e) : Begun lines i e where
  startLine := hsame.startLine.trans h.startLine
  opens := h.opens
  skip := by rw [hsame.skip]; exact h.skip

/-- Line `i` opened an example, and no fence has come since. -/
structure Unfenced (lines : List Line) (i n : Nat) : Prop where
  lt : i < n
  noClose : ∀ j, i < j → j < n → ¬ Marked Fence.mark lines j
  noOpen : ∀ j, i < j → j < n → ¬ Opens lines j

theorem Unfenced.succ {lines : List Line} {i n : Nat} (h : Unfenced lines i n)
    (hclose : ¬ Marked Fence.mark lines n) (hopen : ¬ Opens lines n) :
    Unfenced lines i (n + 1) where
  lt := Nat.lt_succ_of_lt h.lt
  noClose j hij hj := by
    rcases Nat.lt_succ_iff_lt_or_eq.1 hj with hlt | rfl
    · exact h.noClose j hij hlt
    · exact hclose
  noOpen j hij hj := by
    rcases Nat.lt_succ_iff_lt_or_eq.1 hj with hlt | rfl
    · exact h.noOpen j hij hlt
    · exact hopen

/-- A closing fence closes the open example. -/
theorem Unfenced.closedBy {lines : List Line} {i n : Nat} (h : Unfenced lines i n)
    (hclose : Marked Fence.mark lines n) : ClosedBy lines i (n + 1) :=
  ⟨n, h.lt, Nat.lt_succ_self n, hclose, fun k hik hk => h.noOpen k hik hk⟩

/-- Once the next fence opens, no line can close an example that is still open. -/
theorem Unfenced.never_closedBy {lines : List Line} {i n : Nat} (h : Unfenced lines i n)
    (hopen : Opens lines n) (hclose : ¬ Marked Fence.mark lines n) (m : Nat) :
    ¬ ClosedBy lines i m := by
  rintro ⟨j, hij, _, hmark, hclear⟩
  rcases Nat.lt_trichotomy j n with hlt | rfl | hgt
  · exact h.noClose j hij hlt hmark
  · exact hclose hmark
  · exact hclear n h.lt hgt hopen

/-- The state of reading, said on the lines. -/
structure OutlineAt (lines : List Line) (n : Nat) (p : Parse) : Prop where
  openings : p.drafts.map (fun x => (x.1.startLine, x.1.language)) =
    openings (lines.take n)
  older : ∀ x ∈ p.older, ∃ i, Begun lines i x.1 ∧
    (x.2 = true → ClosedBy lines i n) ∧ (x.2 = false → ∀ m, ¬ ClosedBy lines i m)
  current : ∀ d, p.current = some d → ∃ i, Begun lines i d ∧ Unfenced lines i n
  skipNext : p.skipNext = true ↔ SkippedAt lines n
  shares : p.shares = true ↔ ∃ i < n, Marked Fence.shareDirective lines i

theorem outlineAt_zero (lines : List Line) : OutlineAt lines 0 {} where
  openings := rfl
  older _ h := absurd h List.not_mem_nil
  current _ h := nomatch h
  skipNext := ⟨(nomatch ·), fun ⟨_, hj, _⟩ => absurd hj (Nat.not_lt_zero _)⟩
  shares := ⟨(nomatch ·), fun ⟨_, hj, _⟩ => absurd hj (Nat.not_lt_zero _)⟩

/-- Only an opening fence adds an example, and what an example is known by stays. -/
theorem map_drafts_stepKind (p : Parse) (line : Line) (number : Nat) (kind : Fence.Kind) :
    (p.stepKind line number kind).drafts.map (fun x => (x.1.startLine, x.1.language)) =
      p.drafts.map (fun x => (x.1.startLine, x.1.language)) ++
        (kind.opened?.map fun language => (number, language)).toList := by
  cases kind with
  | opening language =>
      cases hc : p.current with
      | none => simp [stepKind, setAside, drafts, hc, Draft.start, Fence.Kind.opened?]
      | some d => simp [stepKind, setAside, drafts, hc, Draft.start, Fence.Kind.opened?]
  | closing =>
      cases hc : p.current with
      | none => simp [stepKind, setAside, drafts, hc, Fence.Kind.opened?]
      | some d =>
          have hsame := d.finishLines_sameHeader
          simp [stepKind, setAside, drafts, hc, hsame.startLine, hsame.language,
            Fence.Kind.opened?]
  | skipNext => exact (List.append_nil _).symm
  | share => exact (List.append_nil _).symm
  | body =>
      cases hc : p.current with
      | none => simp [stepKind, drafts, hc, Fence.Kind.opened?]
      | some d =>
          have hsame := d.feed_sameHeader line
          simp [stepKind, drafts, hc, hsame.startLine, hsame.language, Fence.Kind.opened?]

section Step

variable {lines : List Line} {n : Nat} {line : Line} {kind : Fence.Kind} {p : Parse}

theorem OutlineAt.step_older (h : OutlineAt lines n p) (hl : lines[n]? = some line)
    (hk : Fence.kind line = .ok kind) :
    ∀ x ∈ (p.stepKind (content line) (n + 1) kind).older, ∃ i, Begun lines i x.1 ∧
      (x.2 = true → ClosedBy lines i (n + 1)) ∧
      (x.2 = false → ∀ m, ¬ ClosedBy lines i m) := by
  have hold : ∀ x ∈ p.older, ∃ i, Begun lines i x.1 ∧
      (x.2 = true → ClosedBy lines i (n + 1)) ∧
      (x.2 = false → ∀ m, ¬ ClosedBy lines i m) := by
    intro x hx
    obtain ⟨i, hbegun, hclosed, hnever⟩ := h.older x hx
    exact ⟨i, hbegun, fun hx => (hclosed hx).mono (Nat.le_succ n), hnever⟩
  intro x hx
  cases kind with
  | opening language =>
      rw [stepKind, setAside] at hx
      cases hc : p.current with
      | none => rw [hc] at hx; exact hold x hx
      | some d =>
          rw [hc] at hx
          rcases List.mem_cons.1 hx with rfl | hmem
          · obtain ⟨i, hbegun, hopen⟩ := h.current d hc
            refine ⟨i, hbegun, fun h => absurd h Bool.false_ne_true, fun _ => ?_⟩
            refine hopen.never_closedBy ((opens_iff hl hk).2 ⟨language, rfl⟩) fun hm => ?_
            cases (marked_iff hl hk (k := .closing) rfl).1 hm
          · exact hold x hmem
  | closing =>
      rw [stepKind, setAside] at hx
      cases hc : p.current with
      | none => rw [hc] at hx; exact hold x hx
      | some d =>
          rw [hc] at hx
          rcases List.mem_cons.1 hx with rfl | hmem
          · obtain ⟨i, hbegun, hopen⟩ := h.current d hc
            refine ⟨i, hbegun.of_sameHeader d.finishLines_sameHeader, fun _ => ?_,
              fun h => absurd h.symm Bool.false_ne_true⟩
            exact hopen.closedBy ((marked_iff hl hk (k := .closing) rfl).2 rfl)
          · exact hold x hmem
  | skipNext => exact hold x hx
  | share => exact hold x hx
  | body => exact hold x hx

theorem OutlineAt.step_current (h : OutlineAt lines n p) (hl : lines[n]? = some line)
    (hk : Fence.kind line = .ok kind) :
    ∀ d, (p.stepKind (content line) (n + 1) kind).current = some d →
      ∃ i, Begun lines i d ∧ Unfenced lines i (n + 1) := by
  have hstays : (∀ language, kind ≠ .opening language) → kind ≠ .closing →
      ∀ d, p.current = some d → ∃ i, Begun lines i d ∧ Unfenced lines i (n + 1) := by
    intro hopening hclosing d hd
    obtain ⟨i, hbegun, hopen⟩ := h.current d hd
    refine ⟨i, hbegun, hopen.succ (fun hm => ?_) (fun ho => ?_)⟩
    · exact hclosing ((marked_iff hl hk rfl).1 hm)
    · obtain ⟨language, hlanguage⟩ := (opens_iff hl hk).1 ho
      exact hopening language hlanguage
  intro e he
  cases kind with
  | opening language =>
      cases he
      refine ⟨n, ⟨rfl, (opens_iff hl hk).2 ⟨language, rfl⟩, h.skipNext⟩,
        ⟨Nat.lt_succ_self n, fun j hnj hj => ?_, fun j hnj hj => ?_⟩⟩ <;> omega
  | closing => cases he
  | skipNext => exact hstays (fun _ h => nomatch h) (fun h => nomatch h) e he
  | share => exact hstays (fun _ h => nomatch h) (fun h => nomatch h) e he
  | body =>
      obtain ⟨d, hd, rfl⟩ := Option.map_eq_some_iff.1 he
      obtain ⟨i, hbegun, hopen⟩ := hstays (fun _ h => nomatch h) (fun h => nomatch h) d hd
      exact ⟨i, hbegun.of_sameHeader (d.feed_sameHeader (content line)), hopen⟩

theorem OutlineAt.step_skipNext (h : OutlineAt lines n p) (hl : lines[n]? = some line)
    (hk : Fence.kind line = .ok kind) :
    (p.stepKind (content line) (n + 1) kind).skipNext = true ↔ SkippedAt lines (n + 1) := by
  have hskips := marked_iff hl hk (k := .skipNext) rfl
  have hopens := opens_iff hl hk
  have hstays : (∀ language, kind ≠ .opening language) → kind ≠ .skipNext →
      (p.skipNext = true ↔ SkippedAt lines (n + 1)) := by
    intro hopening hskip
    rw [skippedAt_succ fun ho => ?_, h.skipNext, hskips]
    · exact ⟨.inr, fun hor => hor.resolve_left hskip⟩
    · obtain ⟨language, hlanguage⟩ := hopens.1 ho
      exact hopening language hlanguage
  cases kind with
  | opening language =>
      refine iff_of_false Bool.false_ne_true (not_skippedAt_succ (hopens.2 ⟨language, rfl⟩) ?_)
      exact fun hm => nomatch hskips.1 hm
  | closing => exact hstays (fun _ h => nomatch h) (fun h => nomatch h)
  | skipNext =>
      refine iff_of_true rfl ((skippedAt_succ fun ho => ?_).2 (.inl (hskips.2 rfl)))
      obtain ⟨language, hlanguage⟩ := hopens.1 ho
      cases hlanguage
  | share => exact hstays (fun _ h => nomatch h) (fun h => nomatch h)
  | body => exact hstays (fun _ h => nomatch h) (fun h => nomatch h)

theorem OutlineAt.step_shares (h : OutlineAt lines n p) (hl : lines[n]? = some line)
    (hk : Fence.kind line = .ok kind) :
    (p.stepKind (content line) (n + 1) kind).shares = true ↔
      ∃ i < n + 1, Marked Fence.shareDirective lines i := by
  have hshare := marked_iff hl hk (k := .share) rfl
  have hstays : kind ≠ .share →
      (p.shares = true ↔ ∃ i < n + 1, Marked Fence.shareDirective lines i) := by
    intro hne
    rw [h.shares]
    constructor
    · rintro ⟨i, hi, hm⟩
      exact ⟨i, Nat.lt_succ_of_lt hi, hm⟩
    · rintro ⟨i, hi, hm⟩
      rcases Nat.lt_succ_iff_lt_or_eq.1 hi with hlt | rfl
      · exact ⟨i, hlt, hm⟩
      · exact absurd (hshare.1 hm) hne
  cases kind with
  | opening language => exact hstays fun h => nomatch h
  | closing => exact hstays fun h => nomatch h
  | skipNext => exact hstays fun h => nomatch h
  | share => exact iff_of_true rfl ⟨n, Nat.lt_succ_self n, hshare.2 rfl⟩
  | body => exact hstays fun h => nomatch h

theorem OutlineAt.step (h : OutlineAt lines n p) (hl : lines[n]? = some line)
    (hk : Fence.kind line = .ok kind) :
    OutlineAt lines (n + 1) (p.stepKind (content line) (n + 1) kind) where
  openings := by rw [map_drafts_stepKind, h.openings, openings_take_succ hl hk]
  older := h.step_older hl hk
  current := h.step_current hl hk
  skipNext := h.step_skipNext hl hk
  shares := h.step_shares hl hk

end Step

theorem outlineAt_of_after {lines : List Line} {n : Nat} {p : Parse}
    (hn : n ≤ lines.length) (hp : after lines n = .ok p) : OutlineAt lines n p :=
  after_induction (P := OutlineAt lines) (outlineAt_zero lines)
    (fun _ _ _ _ hl _ h hk => h.step hl hk) hn hp

/-! ## The whole text -/

/-- At the end an example is known as closed exactly if its lines close it. -/
theorem OutlineAt.closed_iff {lines : List Line} {p : Parse}
    (h : OutlineAt lines lines.length p) {x : Draft × Bool} (hx : x ∈ p.drafts) :
    ∃ i, Begun lines i x.1 ∧ (x.2 = true ↔ ClosedBy lines i lines.length) := by
  rcases mem_drafts.1 hx with hold | ⟨d, hd, rfl⟩
  · obtain ⟨i, hbegun, hclosed, hnever⟩ := h.older x hold
    refine ⟨i, hbegun, hclosed, fun hc => ?_⟩
    rw [← Bool.not_eq_false]
    exact fun hfalse => hnever hfalse _ hc
  · obtain ⟨i, hbegun, hopen⟩ := h.current d hd
    refine ⟨i, hbegun, (nomatch ·), ?_⟩
    rintro ⟨j, hij, hj, hmark, _⟩
    exact absurd hmark (hopen.noClose j hij hj)

theorem opening?_eq_some {x : Line × Nat} {y : Nat × Language} :
    opening? x = some y ↔ y.1 = x.2 ∧ Fence.language? x.1 = .ok (some y.2) := by
  rw [opening?]
  split
  · next language h =>
      rw [h, Option.some.injEq, Prod.ext_iff, Except.ok.injEq, Option.some.injEq]
      exact ⟨fun ⟨h1, h2⟩ => ⟨h1.symm, h2⟩, fun ⟨h1, h2⟩ => ⟨h1.symm, h2⟩⟩
  · next h => exact iff_of_false (nomatch ·) fun ⟨_, heq⟩ => h _ heq

/-- The openings come in the order of their lines. -/
theorem openings_pairwise (lines : List Line) :
    (openings lines).Pairwise fun x y => x.1 < y.1 := by
  have hnumbers : (lines.zipIdx 1).Pairwise fun x y => x.2 < y.2 := by
    rw [← List.pairwise_map (f := Prod.snd) (R := (· < ·)), List.zipIdx_map_snd]
    exact List.pairwise_lt_range'
  refine hnumbers.filterMap opening? fun x y hlt a ha b hb => ?_
  rw [(opening?_eq_some.1 ha).1, (opening?_eq_some.1 hb).1]
  exact hlt

theorem mem_openings_of_opens {lines : List Line} {i : Nat} (h : Opens lines i) :
    ∃ language, (i + 1, language) ∈ openings lines := by
  obtain ⟨line, language, hl, hlanguage⟩ := h
  refine ⟨language, List.mem_filterMap.2 ⟨(line, i + 1), ?_,
    opening?_eq_some.2 ⟨rfl, hlanguage⟩⟩⟩
  rw [Nat.add_comm]
  exact List.mk_add_mem_zipIdx_iff_getElem?.2 hl

/-- If every tag is known, every line can be read. -/
theorem after_eq_ok {lines : List Line}
    (htags : ∀ line ∈ lines, ∃ found, Fence.language? line = .ok found) {n : Nat}
    (hn : n ≤ lines.length) : ∃ p, after lines n = .ok p := by
  induction n with
  | zero => exact ⟨{}, rfl⟩
  | succ n ih =>
      obtain ⟨p, hp⟩ := ih (Nat.le_of_lt hn)
      have hl : lines[n]? = some lines[n] := List.getElem?_eq_getElem hn
      obtain ⟨found, hfound⟩ := htags lines[n] (List.getElem_mem hn)
      obtain ⟨kind, hk⟩ : ∃ kind, Fence.kind lines[n] = .ok kind := by
        rw [Fence.kind_eq, hfound]
        cases found with
        | some language => exact ⟨_, rfl⟩
        | none => dsimp only; split_ifs <;> exact ⟨_, rfl⟩
      refine ⟨p.stepKind (content lines[n]) (n + 1) kind, ?_⟩
      rw [after_succ hl, hp]
      show p.step lines[n] (n + 1) = _
      rw [step_eq, hk]
      rfl

section Whole

variable {lines : List Line} {p : Parse}

theorem OutlineAt.draft_of_opens (h : OutlineAt lines lines.length p) {i : Nat}
    (hi : Opens lines i) :
    ∃ x ∈ p.drafts, x.1.startLine = i + 1 ∧
      (x.2 = true ↔ ClosedBy lines i lines.length) := by
  obtain ⟨language, hmem⟩ := mem_openings_of_opens hi
  have hmap := h.openings
  rw [List.take_length] at hmap
  rw [← hmap] at hmem
  obtain ⟨x, hx, hkey⟩ := List.mem_map.1 hmem
  have hstart : x.1.startLine = i + 1 := congrArg Prod.fst hkey
  obtain ⟨j, hbegun, hclosed⟩ := h.closed_iff hx
  have hij : j = i := by
    have hj := hbegun.startLine
    omega
  rw [hij] at hclosed
  exact ⟨x, hx, hstart, hclosed⟩

theorem OutlineAt.find?_eq_none_iff (h : OutlineAt lines lines.length p) :
    p.drafts.find? (!·.2) = none ↔ ∀ i, Opens lines i → ClosedBy lines i lines.length := by
  rw [List.find?_eq_none]
  constructor
  · intro hall i hi
    obtain ⟨x, hx, _, hclosed⟩ := h.draft_of_opens hi
    exact hclosed.1 (by simpa using hall x hx)
  · intro hall x hx
    obtain ⟨i, hbegun, hclosed⟩ := h.closed_iff hx
    rw [hclosed.2 (hall i hbegun.opens)]
    decide

/-- The example that decides the error is the first that is not closed. -/
theorem OutlineAt.find?_eq_first (h : OutlineAt lines lines.length p) {i : Nat}
    (hi : Opens lines i) (hopen : ¬ ClosedBy lines i lines.length)
    (hfirst : ∀ j < i, Opens lines j → ClosedBy lines j lines.length) :
    ∃ d, p.drafts.find? (!·.2) = some (d, false) ∧ d.startLine = i + 1 := by
  cases hfind : p.drafts.find? (!·.2) with
  | none => exact absurd (h.find?_eq_none_iff.1 hfind i hi) hopen
  | some x =>
      obtain ⟨d, closed⟩ := x
      obtain ⟨hnot, before, behind, hsplit, hbefore⟩ := List.find?_eq_some_iff_append.1 hfind
      have hfalse : closed = false := by simpa using hnot
      subst hfalse
      have hmem : (d, false) ∈ p.drafts := List.mem_of_find?_eq_some hfind
      obtain ⟨j, hbegun, hclosed⟩ := h.closed_iff hmem
      have hnotClosed : ¬ ClosedBy lines j lines.length := fun hc => nomatch hclosed.2 hc
      have hij : i ≤ j := by
        by_contra hlt
        exact hnotClosed (hfirst j (by omega) hbegun.opens)
      obtain ⟨x, hx, hstart, hxclosed⟩ := h.draft_of_opens hi
      have hxfalse : x.2 = false := by
        rw [← Bool.not_eq_true]
        exact fun hx => hopen (hxclosed.1 hx)
      have hsorted := openings_pairwise (lines.take lines.length)
      rw [← h.openings, List.pairwise_map, hsplit] at hsorted
      rw [hsplit] at hx
      rcases List.mem_append.1 hx with hx | hx
      · have hxtrue := hbefore x hx
        rw [hxfalse] at hxtrue
        cases hxtrue
      · rcases List.mem_cons.1 hx with rfl | hx
        · exact ⟨d, rfl, hstart⟩
        · have hlt : d.startLine < x.1.startLine :=
            List.rel_of_pairwise_cons (List.pairwise_append.1 hsorted).2.1 hx
          have hd : d.startLine = j + 1 := hbegun.startLine
          omega

end Whole

/-! ## Nothing else matters -/

/-- Two states that differ in generated code at most. -/
structure SameOutline (p q : Parse) : Prop where
  older : p.older.map (fun x => (x.1.header, x.2)) = q.older.map (fun x => (x.1.header, x.2))
  current : p.current.map Draft.header = q.current.map Draft.header
  shares : p.shares = q.shares
  skipNext : p.skipNext = q.skipNext

theorem setAside_header (p : Parse) (closed : Bool) :
    (p.setAside closed).map (fun x => (x.1.header, x.2)) =
      (p.current.map fun d => (d.header, closed)).toList ++
        p.older.map (fun x => (x.1.header, x.2)) := by
  rw [setAside]
  cases p.current with
  | none => rfl
  | some d =>
      cases closed with
      | false => rfl
      | true =>
          show ((d.finishLines).header, true) :: _ = _
          rw [d.finishLines_sameHeader.header_eq]
          rfl

theorem SameOutline.stepKind {p q : Parse} (h : SameOutline p q) (line line' : Line)
    (number : Nat) (kind : Fence.Kind) :
    SameOutline (p.stepKind line number kind) (q.stepKind line' number kind) := by
  have haside : ∀ closed, (p.setAside closed).map (fun x => (x.1.header, x.2)) =
      (q.setAside closed).map (fun x => (x.1.header, x.2)) := by
    intro closed
    have hcurrent := congrArg (Option.map fun header => (header, closed)) h.current
    rw [Option.map_map, Option.map_map] at hcurrent
    rw [setAside_header, setAside_header, h.older]
    exact congrArg (·.toList ++ _) hcurrent
  cases kind with
  | opening language =>
      refine ⟨haside false, ?_, h.shares, rfl⟩
      show some (number, language, p.skipNext) = some (number, language, q.skipNext)
      rw [h.skipNext]
  | closing => exact ⟨haside true, rfl, h.shares, h.skipNext⟩
  | skipNext => exact ⟨h.older, h.current, h.shares, rfl⟩
  | share => exact ⟨h.older, h.current, rfl, h.skipNext⟩
  | body =>
      refine ⟨h.older, ?_, h.shares, h.skipNext⟩
      have hfeed : ∀ (l : Line) (o : Option Draft),
          (o.map (·.feed l)).map Draft.header = o.map Draft.header := by
        intro l o
        cases o with
        | none => rfl
        | some d => exact congrArg some (d.feed_sameHeader l).header_eq
      show (p.current.map (·.feed line)).map Draft.header =
        (q.current.map (·.feed line')).map Draft.header
      rw [hfeed, hfeed, h.current]

/-- Lines of the same kinds are read to the same outline. -/
theorem sameOutline_steps {xs ys : List Line} (hkinds : xs.map Fence.kind = ys.map Fence.kind)
    {p q r : Parse} {number : Nat} (h : SameOutline p q) (hr : p.steps number xs = .ok r) :
    ∃ s, q.steps number ys = .ok s ∧ SameOutline r s := by
  induction xs generalizing ys p q number with
  | nil =>
      rw [List.map_nil, eq_comm, List.map_eq_nil_iff] at hkinds
      subst hkinds
      cases hr
      exact ⟨q, rfl, h⟩
  | cons x xs ih =>
      cases ys with
      | nil => cases hkinds
      | cons y ys =>
          rw [List.map_cons, List.map_cons, List.cons.injEq] at hkinds
          rw [steps] at hr
          cases hstep : p.step x number with
          | error e => rw [hstep] at hr; cases hr
          | ok next =>
              rw [hstep] at hr
              obtain ⟨kind, hk, rfl⟩ := step_eq_ok hstep
              rw [steps, step_eq, ← hkinds.1, hk]
              exact ih hkinds.2 (h.stepKind _ _ number kind) hr

theorem SameOutline.drafts {p q : Parse} (h : SameOutline p q) :
    p.drafts.map (fun x => (x.1.header, x.2)) =
      q.drafts.map (fun x => (x.1.header, x.2)) := by
  have hcurrent : ∀ o : Option Draft,
      ((o.map fun d => (d, false)).toList).map (fun x => (x.1.header, x.2)) =
        ((o.map Draft.header).map fun header => (header, false)).toList := by
    intro o
    cases o <;> rfl
  rw [Parse.drafts, Parse.drafts, List.map_append, List.map_append, List.map_reverse,
    List.map_reverse, h.older, hcurrent, hcurrent, h.current]

/-- The outline of a result: all of it but the code of the examples. -/
def outlineOf (parsed : Parsed) : String × Bool × List (String × Nat × Language × Bool) :=
  (parsed.path, parsed.shares,
    parsed.snippets.map fun s => (s.path, s.startLine, s.language, s.skip))

theorem outlineOf_toSnippet (path : String) (p : Parse) :
    outlineOf ⟨path, p.drafts.map fun d => d.1.toSnippet path, p.shares⟩ =
      (path, p.shares,
        (p.drafts.map fun x => (x.1.header, x.2)).map fun x => (path, x.1)) := by
  rw [outlineOf, List.map_map, List.map_map]
  rfl

/-- Texts whose lines are of the same kinds have the same examples but for their code. -/
theorem parseSnippets_congr {text text' path : String}
    (htags : ∀ line ∈ Text.splitLines text.toList, ∃ found, Fence.language? line = .ok found)
    (hkinds : (Text.splitLines text.toList).map Fence.kind =
      (Text.splitLines text'.toList).map Fence.kind) :
    (parseSnippets text path).map outlineOf = (parseSnippets text' path).map outlineOf := by
  obtain ⟨p, hp⟩ := after_eq_ok htags (Nat.le_refl _)
  rw [after, List.take_length] at hp
  obtain ⟨q, hq, hsame⟩ := sameOutline_steps hkinds ⟨rfl, rfl, rfl, rfl⟩ hp
  have hdrafts := hsame.drafts
  have hfind := congrArg (List.find? (!·.2)) hdrafts
  rw [List.find?_map, List.find?_map] at hfind
  rw [parseSnippets_eq, parseSnippets_eq, after, after, List.take_length, List.take_length,
    hp, hq]
  dsimp only [Function.comp_def] at hfind ⊢
  cases hpf : p.drafts.find? fun x => !x.2 with
  | none =>
      cases hqf : q.drafts.find? fun x => !x.2 with
      | some y => rw [hpf, hqf] at hfind; cases hfind
      | none =>
          show Except.ok (outlineOf _) = Except.ok (outlineOf _)
          rw [outlineOf_toSnippet, outlineOf_toSnippet, hdrafts, hsame.shares]
  | some x =>
      cases hqf : q.drafts.find? fun x => !x.2 with
      | none => rw [hpf, hqf] at hfind; cases hfind
      | some y =>
          rw [hpf, hqf] at hfind
          have hstart : x.1.startLine = y.1.startLine :=
            congrArg (·.1.1) (Option.some.inj hfind)
          show Except.error (ParseError.unclosedFence x.1.startLine) =
            Except.error (ParseError.unclosedFence y.1.startLine)
          rw [hstart]

/-! ## The theorem -/

/-- On a text without unknown tags the examples are read exactly if each opening fence is
followed by a closing one before the next opens; the first that is not decides the error.
What is read has one example for each opening fence, in order, left out as the
directives above say, and shares a sandbox if a directive says so. All else in the text
is code or prose and changes nothing of this. -/
theorem parseSnippets_outline {text path : String}
    (htags : ∀ line ∈ Text.splitLines text.toList, ∃ found, Fence.language? line = .ok found) :
    ((∃ parsed, parseSnippets text path = .ok parsed) ↔
      ∀ i, Opens (Text.splitLines text.toList) i →
        ClosedBy (Text.splitLines text.toList) i (Text.splitLines text.toList).length) ∧
    (∀ i, Opens (Text.splitLines text.toList) i →
      ¬ ClosedBy (Text.splitLines text.toList) i (Text.splitLines text.toList).length →
      (∀ j < i, Opens (Text.splitLines text.toList) j →
        ClosedBy (Text.splitLines text.toList) j (Text.splitLines text.toList).length) →
      parseSnippets text path = .error (.unclosedFence (i + 1)) ∧
        Document.examples ⟨path, text⟩ = .error (.noted (.unclosedFence path (i + 1)))) ∧
    (∀ parsed, parseSnippets text path = .ok parsed →
      parsed.path = path ∧
      parsed.snippets.map (fun s => (s.startLine, s.language)) =
        openings (Text.splitLines text.toList) ∧
      (∀ s ∈ parsed.snippets, s.path = path ∧
        (s.skip = true ↔ SkippedAt (Text.splitLines text.toList) (s.startLine - 1))) ∧
      (parsed.shares = true ↔
        ∃ i, Marked Fence.shareDirective (Text.splitLines text.toList) i)) ∧
    ∀ text', (Text.splitLines text.toList).map Fence.kind =
        (Text.splitLines text'.toList).map Fence.kind →
      (parseSnippets text path).map outlineOf = (parseSnippets text' path).map outlineOf := by
  obtain ⟨p, hp⟩ := after_eq_ok htags (Nat.le_refl _)
  have houtline := outlineAt_of_after (Nat.le_refl _) hp
  have hparse := parseSnippets_eq text path
  rw [hp] at hparse
  dsimp only at hparse
  refine ⟨?_, ?_, ?_, fun text' => parseSnippets_congr htags⟩
  · rw [← houtline.find?_eq_none_iff, hparse]
    cases p.drafts.find? fun x => !x.2 with
    | none => exact iff_of_true ⟨_, rfl⟩ rfl
    | some x => exact iff_of_false (fun ⟨_, h⟩ => nomatch h) (nomatch ·)
  · intro i hi hopen hfirst
    obtain ⟨d, hfind, hstart⟩ := houtline.find?_eq_first hi hopen hfirst
    rw [hfind] at hparse
    dsimp only at hparse
    rw [hstart] at hparse
    refine ⟨hparse, ?_⟩
    rw [Document.examples, hparse]
  · intro parsed hparsed
    rw [hparse] at hparsed
    have hopenings := houtline.openings
    rw [List.take_length] at hopenings
    split at hparsed
    · cases hparsed
    · cases hparsed
      refine ⟨rfl, ?_, ?_, ?_⟩
      · rw [← hopenings, List.map_map]
        rfl
      · intro s hs
        obtain ⟨x, hx, rfl⟩ := List.mem_map.1 hs
        obtain ⟨i, hbegun, _⟩ := houtline.closed_iff hx
        refine ⟨rfl, ?_⟩
        show x.1.skip = true ↔ SkippedAt _ (x.1.startLine - 1)
        rw [hbegun.startLine, hbegun.skip]
        rfl
      · rw [houtline.shares]
        constructor
        · rintro ⟨i, _, hm⟩
          exact ⟨i, hm⟩
        · rintro ⟨i, line, hl, hm⟩
          exact ⟨i, (List.getElem?_eq_some_iff.1 hl).1, line, hl, hm⟩

/-- One example behind a directive: it is read, and it is left out. -/
theorem parseSnippets_outline_of_skipped :
    (∀ line ∈ Text.splitLines "<!-- skip-example -->\n```js\n1\n```".toList,
      ∃ found, Fence.language? line = .ok found) ∧
    parseSnippets "<!-- skip-example -->\n```js\n1\n```" "doc.md" =
      .ok ⟨"doc.md", [⟨"doc.md", 2, .javascript, "1\n", true⟩], false⟩ ∧
    SkippedAt (Text.splitLines "<!-- skip-example -->\n```js\n1\n```".toList) 1 := by
  have htags : ∀ line ∈ Text.splitLines "<!-- skip-example -->\n```js\n1\n```".toList,
      ∃ found, Fence.language? line = .ok found :=
    List.forall_mem_cons.2 ⟨⟨none, rfl⟩, List.forall_mem_cons.2 ⟨⟨some .javascript, rfl⟩,
      List.forall_mem_cons.2 ⟨⟨none, rfl⟩, List.forall_mem_cons.2 ⟨⟨none, rfl⟩,
        List.forall_mem_nil _⟩⟩⟩⟩
  have hparse : parseSnippets "<!-- skip-example -->\n```js\n1\n```" "doc.md" =
      .ok ⟨"doc.md", [⟨"doc.md", 2, .javascript, "1\n", true⟩], false⟩ := rfl
  obtain ⟨_, _, hok, _⟩ := @parseSnippets_outline _ "doc.md" htags
  obtain ⟨_, _, hskip, _⟩ := hok _ hparse
  exact ⟨htags, hparse, (hskip _ (.head _)).2.1 rfl⟩

end Parse

end DocExamples
