import DocExamples.Proofs.Document.Outline
import Mathlib.Data.List.ModifyLast

/-!
# One text behind another

A text that is read to its end leaves nothing open, so a second text behind it is
read as it would be alone, with its lines further down. Two things cross the
border: the flag that examples share a sandbox, and a directive behind the last
fence of the first text, which leaves out the first example of the second.

Each of the two readings of the second text is the other one with something done
to its state: examples are put in front and line numbers move (`behind`), or the
first example is left out (`behindSkip`). Both commute with every step, so the
simulation is one induction, `steps_comm`, that knows neither of them.
-/

namespace DocExamples

theorem Text.splitLines_append_line (s t : List Char) :
    splitLines (s ++ '\n' :: t) = splitLines s ++ splitLines t := by
  induction s with
  | nil => rfl
  | cons c rest ih =>
      rw [List.cons_append, splitLines, splitLines, ih]
      split
      · rfl
      · cases h : splitLines rest with
        | nil => exact absurd h (splitLines_ne_nil rest)
        | cons line more => rfl

/-! ## What an example is known by does not matter to its code -/

namespace Draft

/-- The example with another start and another mark. -/
def placed (d : Draft) (startLine : Nat) (skip : Bool) : Draft :=
  { d with startLine := startLine, skip := skip }

section Placed

variable (d : Draft) (startLine : Nat) (skip : Bool) (line : Line)

@[simp] theorem code_placed : (d.placed startLine skip).code = d.code := rfl

@[simp] theorem inComment_placed : (d.placed startLine skip).inComment = d.inComment := rfl

@[simp] theorem block_placed : (d.placed startLine skip).block = d.block := rfl

theorem finishLines_placed :
    (d.placed startLine skip).finishLines = d.finishLines.placed startLine skip := by
  obtain ⟨_, _, _, _, _, block⟩ := d
  rcases block with _ | (_ | _) <;> rfl

theorem feedReturned_placed (a : Expectation) :
    (d.placed startLine skip).feedReturned line a =
      (d.feedReturned line a).placed startLine skip := by
  unfold feedReturned
  cases Text.isAllBlank a.code with
  | false => rfl
  | true =>
      rw [code_placed]
      cases d.code.captureLast? a.expected <;> rfl

theorem feedPlain_placed (output : Option Expectation) :
    (d.placed startLine skip).feedPlain line output =
      (d.feedPlain line output).placed startLine skip := by
  obtain ⟨_, _, _, _, inComment, block⟩ := d
  unfold feedPlain placed
  rcases block with _ | (checked | checked)
  · dsimp only; split_ifs <;> rfl
  · rfl
  · dsimp only; split_ifs <;> rfl

theorem feedOpen_placed :
    (d.placed startLine skip).feedOpen line = (d.feedOpen line).placed startLine skip := by
  unfold feedOpen
  rw [inComment_placed, block_placed]
  cases (if d.inComment then none else Expectation.returned? line) with
  | some a => exact feedReturned_placed d startLine skip line a
  | none =>
      dsimp only
      cases Expectation.logged? line with
      | some a => rfl
      | none =>
          dsimp only
          cases (if d.block.isNone then
              Expectation.nonEmpty (Expectation.output? line) else none) with
          | some a => rfl
          | none => exact feedPlain_placed d startLine skip line _

/-- A line does the same to an example wherever it starts, and whether or not it is
left out. -/
theorem feed_placed :
    (d.placed startLine skip).feed line = (d.feed line).placed startLine skip := by
  unfold feed
  cases Expectation.continuation? line with
  | some _ => exact feedOpen_placed d startLine skip line
  | none =>
      show (d.placed startLine skip).finishLines.feedOpen line = _
      rw [finishLines_placed]
      exact feedOpen_placed d.finishLines startLine skip line

end Placed

/-- The example as it stands `n` lines further down. -/
def movedDown (n : Nat) (d : Draft) : Draft := d.placed (d.startLine + n) d.skip

/-- The example, left out of the run. -/
def leftOut (d : Draft) : Draft := d.placed d.startLine true

theorem feed_movedDown (n : Nat) (d : Draft) (line : Line) :
    (d.movedDown n).feed line = (d.feed line).movedDown n := by
  have h := d.feed_sameHeader line
  rw [movedDown, movedDown, feed_placed, h.startLine, h.skip]

theorem finishLines_movedDown (n : Nat) (d : Draft) :
    (d.movedDown n).finishLines = d.finishLines.movedDown n := by
  have h := d.finishLines_sameHeader
  rw [movedDown, movedDown, finishLines_placed, h.startLine, h.skip]

theorem feed_leftOut (d : Draft) (line : Line) :
    d.leftOut.feed line = (d.feed line).leftOut := by
  rw [leftOut, leftOut, feed_placed, (d.feed_sameHeader line).startLine]

theorem finishLines_leftOut (d : Draft) :
    d.leftOut.finishLines = d.finishLines.leftOut := by
  rw [leftOut, leftOut, finishLines_placed, d.finishLines_sameHeader.startLine]

end Draft

namespace Parse

/-! ## A state of reading, seen from behind another text -/

/-- What has been read, behind `n` lines of a text with the given examples. -/
def behind (older : List (Draft × Bool)) (shares : Bool) (n : Nat) (p : Parse) : Parse where
  older := p.older.map (fun x => (x.1.movedDown n, x.2)) ++ older
  current := p.current.map (Draft.movedDown n)
  shares := p.shares || shares
  skipNext := p.skipNext

/-- An example that was set aside, left out of the run. -/
def leaveOut (x : Draft × Bool) : Draft × Bool := (x.1.leftOut, x.2)

/-- What has been read, behind a directive that leaves out the first example. -/
def behindSkip (p : Parse) : Parse :=
  match p.older, p.current with
  | [], none => { p with skipNext := true }
  | [], some d => { p with current := some d.leftOut }
  | _ :: _, _ => { p with older := p.older.modifyLast leaveOut }

theorem modifyLast_cons (x : Draft × Bool) {older : List (Draft × Bool)} (h : older ≠ []) :
    (x :: older).modifyLast leaveOut = x :: older.modifyLast leaveOut :=
  List.modifyLast_append_of_right_ne_nil leaveOut [x] older h

theorem stepKind_behind (older : List (Draft × Bool)) (shares : Bool) (n : Nat) (p : Parse)
    (line : Line) (number : Nat) (kind : Fence.Kind) :
    (p.behind older shares n).stepKind line (number + n) kind =
      (p.stepKind line number kind).behind older shares n := by
  obtain ⟨newer, current, _, _⟩ := p
  cases kind with
  | opening language => cases current <;> rfl
  | closing =>
      cases current with
      | none => rfl
      | some d =>
          simp only [stepKind, setAside, behind, Option.map_some, if_true, List.map_cons,
            List.cons_append, d.finishLines_movedDown n]
          rfl
  | skipNext => rfl
  | share => rfl
  | body =>
      cases current with
      | none => rfl
      | some d => simp only [stepKind, behind, Option.map_some, Draft.feed_movedDown]

theorem stepKind_behindSkip (p : Parse) (line : Line) (number : Nat) (kind : Fence.Kind) :
    p.behindSkip.stepKind line number kind = (p.stepKind line number kind).behindSkip := by
  obtain ⟨older, current, _, _⟩ := p
  rcases older with _ | ⟨x, older⟩
  · -- no example has been set aside: the first one is open, or still to come
    cases current with
    | none => cases kind <;> rfl
    | some d =>
        cases kind with
        | opening language => rfl
        | closing =>
            simp only [behindSkip, stepKind, setAside, if_true, d.finishLines_leftOut]
            rfl
        | skipNext => rfl
        | share => rfl
        | body => simp only [behindSkip, stepKind, Option.map_some, d.feed_leftOut]
  · -- the first example is the last of those set aside, and no step reaches it
    have hlast := fun y : Draft × Bool => modifyLast_cons y (List.cons_ne_nil x older)
    cases current with
    | none => cases kind <;> rfl
    | some d =>
        cases kind with
        | opening language => simp only [behindSkip, stepKind, setAside, hlast]
        | closing => simp only [behindSkip, stepKind, setAside, hlast]
        | skipNext => rfl
        | share => rfl
        | body => rfl

/-- What commutes with every step commutes with reading. -/
theorem steps_comm {f : Parse → Parse} {n : Nat}
    (hf : ∀ p line number kind,
      (f p).stepKind line (number + n) kind = f (p.stepKind line number kind))
    (p : Parse) (number : Nat) (lines : List Line) :
    (f p).steps (number + n) lines = (p.steps number lines).map f := by
  induction lines generalizing p number with
  | nil => rfl
  | cons line more ih =>
      rw [steps, steps, step_eq, step_eq]
      cases Fence.kind line with
      | error e => rfl
      | ok kind =>
          show ((f p).stepKind (content line) (number + n) kind).steps
            (number + n + 1) more = _
          rw [hf, Nat.add_right_comm, ih]
          rfl

/-! ## The examples of such a state -/

theorem drafts_behind (older : List (Draft × Bool)) (shares : Bool) (n : Nat) (p : Parse) :
    (p.behind older shares n).drafts =
      older.reverse ++ p.drafts.map fun x => (x.1.movedDown n, x.2) := by
  rw [drafts, drafts, behind, List.reverse_append, List.append_assoc, List.map_append,
    List.map_reverse]
  cases p.current <;> rfl

theorem drafts_behindSkip (p : Parse) : p.behindSkip.drafts = p.drafts.modifyHead leaveOut := by
  obtain ⟨older, current, _, _⟩ := p
  rcases older with _ | ⟨x, older⟩
  · cases current <;> rfl
  · obtain ⟨newer, first, hfirst⟩ :=
      (List.eq_nil_or_concat' (x :: older)).resolve_left (List.cons_ne_nil x older)
    simp only [drafts, behindSkip]
    rw [hfirst, List.modifyLast_concat, List.reverse_append, List.reverse_append]
    rfl

theorem shares_behindSkip (p : Parse) : p.behindSkip.shares = p.shares := by
  obtain ⟨older, current, _, _⟩ := p
  rcases older with _ | ⟨x, older⟩
  · cases current <;> rfl
  · rfl

/-- Reading behind a directive is reading with the first example left out. -/
theorem steps_skipNext (skip : Bool) (number : Nat) (lines : List Line) :
    ({ skipNext := skip } : Parse).steps number lines =
      (({} : Parse).steps number lines).map fun p => bif skip then p.behindSkip else p := by
  cases skip with
  | false => cases ({} : Parse).steps number lines <;> rfl
  | true => exact steps_comm (n := 0) stepKind_behindSkip {} number lines

/-! ## What is handed on -/

/-- The examples of what has been read, or the first of them that has no end. -/
def result (path : String) (p : Parse) : Except ParseError Parsed :=
  match p.drafts.find? (!·.2) with
  | some (d, _) => .error (.unclosedFence d.startLine)
  | none => .ok ⟨path, p.drafts.map fun d => d.1.toSnippet path, p.shares⟩

end Parse

/-- The example as it stands `n` lines further down. -/
def Snippet.movedDown (n : Nat) (s : Snippet) : Snippet := { s with startLine := s.startLine + n }

/-- The example, left out of the run if `skip` holds. -/
def Snippet.leftOutIf (skip : Bool) (s : Snippet) : Snippet := { s with skip := skip || s.skip }

/-- The error of a text that stands `n` lines further down. -/
def ParseError.movedDown (n : Nat) : ParseError → ParseError
  | unclosedFence line => unclosedFence (line + n)
  | unknownTag t => unknownTag t

/-- The same examples, the first of which is left out of the run if `skip` holds. -/
def Parsed.firstLeftOutIf (skip : Bool) (parsed : Parsed) : Parsed :=
  { parsed with snippets := parsed.snippets.modifyHead (Snippet.leftOutIf skip) }

/-- The examples of a text, and behind them those of a text that starts `n` lines further
down. -/
def Parsed.followedBy (first : Parsed) (n : Nat) (second : Parsed) : Parsed where
  path := first.path
  snippets := first.snippets ++ second.snippets.map (Snippet.movedDown n)
  shares := first.shares || second.shares

namespace Parse

theorem result_skip (skip : Bool) (path : String) (p : Parse) :
    (bif skip then p.behindSkip else p).result path =
      (p.result path).map (Parsed.firstLeftOutIf skip) := by
  cases skip with
  | false =>
      have hself : Parsed.firstLeftOutIf false = id :=
        funext fun parsed => by
          show { parsed with snippets := parsed.snippets.modifyHead id } = parsed
          rw [List.modifyHead_id, id]
      rw [cond_false, hself]
      cases p.result path <;> rfl
  | true =>
      rw [cond_true, result, result, drafts_behindSkip, shares_behindSkip]
      rcases p.drafts with _ | ⟨⟨d, closed⟩, more⟩
      · rfl
      · cases closed with
        | false => rfl
        | true =>
            show (match more.find? (!·.2) with
              | some (d, _) => _
              | none => _) = Except.map _ (match more.find? (!·.2) with
              | some (d, _) => _
              | none => _)
            cases more.find? (!·.2) <;> rfl

theorem result_behind {older : List (Draft × Bool)} (hclosed : ∀ x ∈ older, x.2 = true)
    (shares : Bool) (n : Nat) (path : String) (p : Parse) :
    (p.behind older shares n).result path =
      ((p.result path).map (Parsed.followedBy
        ⟨path, older.reverse.map fun d => d.1.toSnippet path, shares⟩ n)).mapError
        (ParseError.movedDown n) := by
  have hnone : older.reverse.find? (!·.2) = none :=
    List.find?_eq_none.2 fun x hx => by rw [hclosed x (List.mem_reverse.1 hx)]; decide
  have hfind : (p.drafts.map fun x => (x.1.movedDown n, x.2)).find? (!·.2) =
      (p.drafts.find? (!·.2)).map fun x => (x.1.movedDown n, x.2) := List.find?_map
  rw [result, result, drafts_behind, List.find?_append, hnone, Option.none_or, hfind]
  cases p.drafts.find? (!·.2) with
  | some x => rfl
  | none =>
      show Except.ok (Parsed.mk _ _ _) = Except.ok (Parsed.mk _ _ _)
      rw [List.map_append, List.map_map, List.map_map]
      show Except.ok (Parsed.mk _ _ (p.shares || shares)) = _
      rw [Bool.or_comm]
      rfl

theorem codes_followedBy (first second : Parsed) (n : Nat) (skip : Bool) :
    (first.followedBy n (second.firstLeftOutIf skip)).snippets.map (·.code) =
      first.snippets.map (·.code) ++ second.snippets.map (·.code) := by
  rw [Parsed.followedBy, Parsed.firstLeftOutIf, List.map_append, List.map_map]
  congr 1
  cases second.snippets <;> rfl

/-! ## The theorem -/

theorem parseSnippets_eq_result (text path : String) :
    parseSnippets text path =
      match ({} : Parse).steps 1 (Text.splitLines text.toList) with
      | .error e => .error (.unknownTag e)
      | .ok p => p.result path := rfl

/-- A text that has been read to its end leaves no example open. -/
theorem closed_of_result {p : Parse} {path : String} {parsed : Parsed}
    (h : p.result path = .ok parsed) :
    p.current = none ∧ (∀ x ∈ p.older, x.2 = true) ∧
      parsed = ⟨path, p.older.reverse.map fun d => d.1.toSnippet path, p.shares⟩ := by
  rw [result] at h
  split at h
  · cases h
  · next hfind =>
      cases h
      have hall : ∀ x ∈ p.drafts, x.2 = true := by
        simpa using List.find?_eq_none.1 hfind
      have hcurrent : p.current = none := by
        cases hc : p.current with
        | none => rfl
        | some d => exact nomatch hall (d, false) (mem_drafts.2 (.inr ⟨d, hc, rfl⟩))
      refine ⟨hcurrent, fun x hx => hall x (mem_drafts.2 (.inl hx)), ?_⟩
      rw [drafts, hcurrent, Option.map_none, Option.toList_none, List.append_nil]

theorem path_of_parseSnippets {text path : String} {parsed : Parsed}
    (h : parseSnippets text path = .ok parsed) : parsed.path = path := by
  rw [parseSnippets_eq_result] at h
  split at h
  · cases h
  · obtain ⟨_, _, rfl⟩ := closed_of_result h
    rfl

/-- Reading goes on behind a text as it starts, but for the directive. -/
theorem eq_behind {p : Parse} (h : p.current = none) (n : Nat) :
    p = ({ skipNext := p.skipNext } : Parse).behind p.older p.shares n := by
  obtain ⟨older, current, shares, skipNext⟩ := p
  cases h
  rfl

/-- A second text behind one that is read to its end. -/
theorem parseSnippets_append_eq {a b path : String} {first : Parsed}
    (h : parseSnippets a path = .ok first) :
    ∃ skip : Bool, (skip = true ↔
        SkippedAt (Text.splitLines a.toList) (Text.splitLines a.toList).length) ∧
      parseSnippets (a ++ "\n" ++ b) path =
        (((parseSnippets b path).map (Parsed.firstLeftOutIf skip)).map
          (first.followedBy (Text.splitLines a.toList).length)).mapError
            (ParseError.movedDown (Text.splitLines a.toList).length) := by
  rw [parseSnippets_eq_result] at h
  split at h
  · cases h
  · next p hp =>
      obtain ⟨hcurrent, hclosed, rfl⟩ := closed_of_result h
      have hafter : after (Text.splitLines a.toList) (Text.splitLines a.toList).length = .ok p := by
        rw [after, List.take_length, hp]
      refine ⟨p.skipNext, (outlineAt_of_after (Nat.le_refl _) hafter).skipNext, ?_⟩
      have hlines : Text.splitLines (a ++ "\n" ++ b).toList =
          Text.splitLines a.toList ++ Text.splitLines b.toList := by
        rw [String.toList_append, String.toList_append, List.append_assoc]
        exact Text.splitLines_append_line _ _
      have hsteps : p.steps (1 + (Text.splitLines a.toList).length) (Text.splitLines b.toList) =
          ((({} : Parse).steps 1 (Text.splitLines b.toList)).map fun q =>
            bif p.skipNext then q.behindSkip else q).map fun q =>
              q.behind p.older p.shares (Text.splitLines a.toList).length := by
        conv_lhs => rw [eq_behind hcurrent (Text.splitLines a.toList).length]
        rw [steps_comm (stepKind_behind p.older p.shares _), steps_skipNext]
      rw [parseSnippets_eq_result, parseSnippets_eq_result, hlines, steps_append, hp]
      show (match p.steps _ _ with
        | .error e => _
        | .ok p => _) = _
      rw [hsteps]
      cases ({} : Parse).steps 1 (Text.splitLines b.toList) with
      | error e => rfl
      | ok q =>
          show Parse.result path _ = Except.mapError _ (Except.map _ (Except.map _ (q.result path)))
          rw [result_behind hclosed, result_skip]

/-- Behind a text that can be read, a second text is read exactly if it can be read alone.
The examples of the first stay as they are; those of the second follow with their
lines further down, the first of them also left out if a directive stands behind the
last opening fence of the first text. So the code of an example depends on no text before
it. An example of the second text that has no end is reported on its line in the whole. -/
theorem parseSnippets_append {a b path : String} {first : Parsed}
    (h : parseSnippets a path = .ok first) :
    ((∃ whole, parseSnippets (a ++ "\n" ++ b) path = .ok whole) ↔
      ∃ second, parseSnippets b path = .ok second) ∧
    (∀ second, parseSnippets b path = .ok second → ∃ skip : Bool,
      (skip = true ↔
        SkippedAt (Text.splitLines a.toList) (Text.splitLines a.toList).length) ∧
      parseSnippets (a ++ "\n" ++ b) path = .ok
        ⟨path, first.snippets ++ (second.snippets.modifyHead (Snippet.leftOutIf skip)).map
          (Snippet.movedDown (Text.splitLines a.toList).length),
          first.shares || second.shares⟩) ∧
    (∀ second whole, parseSnippets b path = .ok second →
      parseSnippets (a ++ "\n" ++ b) path = .ok whole →
      whole.snippets.map (·.code) =
        first.snippets.map (·.code) ++ second.snippets.map (·.code)) ∧
    (∀ line, parseSnippets b path = .error (.unclosedFence line) →
      parseSnippets (a ++ "\n" ++ b) path =
        .error (.unclosedFence (line + (Text.splitLines a.toList).length))) ∧
    ∀ t, parseSnippets b path = .error (.unknownTag t) →
      parseSnippets (a ++ "\n" ++ b) path = .error (.unknownTag t) := by
  obtain ⟨skip, hskip, heq⟩ := parseSnippets_append_eq (b := b) h
  rw [heq]
  have hpath : first.path = path := path_of_parseSnippets h
  refine ⟨?_, ?_, ?_, ?_, ?_⟩
  · cases parseSnippets b path with
    | error e => exact iff_of_false (fun ⟨_, hw⟩ => nomatch hw) fun ⟨_, hs⟩ => nomatch hs
    | ok second => exact iff_of_true ⟨_, rfl⟩ ⟨second, rfl⟩
  · intro second hb
    refine ⟨skip, hskip, ?_⟩
    rw [hb, ← hpath]
    rfl
  · intro second whole hb hwhole
    rw [hb] at hwhole
    cases hwhole
    exact codes_followedBy first second _ skip
  · intro line hb
    rw [hb]
    rfl
  · intro t hb
    rw [hb]
    rfl

/-- A directive at the end of the first text reaches the first example of the second, and
no other. -/
theorem parseSnippets_append_of_directive :
    parseSnippets "```js\n1\n```\n<!-- skip-example -->" "doc.md" =
      .ok ⟨"doc.md", [⟨"doc.md", 1, .javascript, "1\n", false⟩], false⟩ ∧
    parseSnippets "```js\n2\n```\n```ts\n3\n```" "doc.md" =
      .ok ⟨"doc.md", [⟨"doc.md", 1, .javascript, "2\n", false⟩,
        ⟨"doc.md", 4, .typescript, "3\n", false⟩], false⟩ ∧
    parseSnippets ("```js\n1\n```\n<!-- skip-example -->" ++ "\n" ++
        "```js\n2\n```\n```ts\n3\n```") "doc.md" =
      .ok ⟨"doc.md", [⟨"doc.md", 1, .javascript, "1\n", false⟩,
        ⟨"doc.md", 5, .javascript, "2\n", true⟩,
        ⟨"doc.md", 8, .typescript, "3\n", false⟩], false⟩ := by
  have ha : parseSnippets "```js\n1\n```\n<!-- skip-example -->" "doc.md" =
      .ok ⟨"doc.md", [⟨"doc.md", 1, .javascript, "1\n", false⟩], false⟩ := rfl
  have hb : parseSnippets "```js\n2\n```\n```ts\n3\n```" "doc.md" =
      .ok ⟨"doc.md", [⟨"doc.md", 1, .javascript, "2\n", false⟩,
        ⟨"doc.md", 4, .typescript, "3\n", false⟩], false⟩ := rfl
  refine ⟨ha, hb, ?_⟩
  obtain ⟨skip, hskip, hwhole⟩ := (parseSnippets_append ha).2.1 _ hb
  have htrue : skip = true :=
    hskip.2 ⟨3, by decide, ⟨Fence.skipDirective, rfl, rfl⟩, fun k hk hlt =>
      absurd (Nat.lt_of_lt_of_le hlt (by decide : _ ≤ 4)) (by omega)⟩
  rw [hwhole, htrue]
  rfl

end Parse

end DocExamples
