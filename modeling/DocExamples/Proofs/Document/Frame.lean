import DocExamples.Proofs.Document.Comments
import DocExamples.Proofs.Document.Location

/-!
# What a step leaves alone

Reading goes on in one example at a time. All others stay as they were handed on,
and in the open one a line of the body comes in behind the code there is. This
file says how far that holds down to the characters.

There are two ways back into code that stands already, and both end at its last
line. The end of a block of `//` lines puts a call behind it, once a line of the
block was checked; and an annotation on a line of its own takes the line before it
as the expression to be compared. They never meet in one step: such an annotation
is itself a `//` line and continues the block it stands in, which
`continuation?_of_withMarks?` says.
-/

namespace DocExamples

/-! ## An annotation on a line of its own -/

/-- The comment of a line starts with two slashes. -/
theorem Comment.startsComment_of_start {mode : Mode} {before rest : List Char} {i : Nat}
    (h : (scanFrom mode before rest).start = some i) :
    ∃ k, i = before.length + k ∧ Expectation.startsComment (rest.drop k) = true := by
  obtain ⟨front, more, hrest, hi, _⟩ := exists_front_of_start (a := ⟨mode, before, rest⟩) h
  refine ⟨front.length, hi, ?_⟩
  rw [show rest = front ++ '/' :: '/' :: more from hrest, List.drop_left]
  rfl

theorem Text.stripLeft_append_of_isAllBlank {s t : List Char} (h : isAllBlank s = true) :
    stripLeft (s ++ t) = stripLeft t :=
  List.dropWhile_append_of_pos (List.all_eq_true.1 h)

namespace Expectation

theorem stripLeft_of_startsComment {s : List Char} (h : startsComment s = true) :
    Text.stripLeft s = s := by
  obtain ⟨more, rfl⟩ := List.isPrefixOf_iff_prefix.1 h
  rfl

/-- Behind blanks, a comment is the whole line. -/
theorem startsComment_of_splitComment {line code comment : Line}
    (h : splitComment line = some (code, comment)) (hcode : Text.isAllBlank code = true) :
    startsComment (Text.stripLeft line) = true := by
  rw [splitComment] at h
  split at h
  · next hstart => exact hstart
  · obtain ⟨i, hi, heq⟩ := Option.map_eq_some_iff.1 h
    cases heq
    obtain ⟨k, hik, hstart⟩ := Comment.startsComment_of_start hi
    rw [List.length_nil, Nat.zero_add] at hik
    subst hik
    rw [← List.take_append_drop i line, Text.stripLeft_append_of_isAllBlank hcode,
      stripLeft_of_startsComment hstart]
    exact hstart

theorem continuation?_of_startsComment {line : Line} (hline : '\n' ∉ line)
    (h : startsComment (Text.stripLeft line) = true) :
    continuation? line = some (Text.strip ((Text.stripLeft line).drop 2)) := by
  have htext : '\n' ∉ (Text.stripLeft line).drop 2 :=
    fun hm => hline (Text.stripLeft_subset line (List.drop_subset 2 _ hm))
  rw [continuation?, if_pos h, Text.wholeLine_of_not_mem htext]
  rfl

/-- An annotation on a line of its own continues a block of `//` lines. -/
theorem continuation?_of_withMarks? {words : List String} {line : Line} {a : Expectation}
    (hline : '\n' ∉ line) (h : withMarks? words line = some a)
    (hcode : Text.isAllBlank a.code = true) : continuation? line ≠ none := by
  rw [withMarks?] at h
  split at h
  · cases h
  · next code comment hsplit =>
      obtain ⟨expected, -, rfl⟩ := Option.map_eq_some_iff.1 h
      rw [continuation?_of_startsComment hline (startsComment_of_splitComment hsplit hcode)]
      exact Option.some_ne_none _

end Expectation

namespace Draft

/-! ## The code of the open example -/

/-- Holds when a block of `//` lines is open of which a line has been checked. -/
def hasChecked (d : Draft) : Bool :=
  match d.block with
  | some (.ofLines checked) => checked != 0
  | _ => false

/-- What the end of a block of `//` lines makes of the text of the code. -/
inductive Drained (d : Draft) : List Char → Prop where
  /-- No line of such a block has been checked, and the text stays. -/
  | kept (h : d.hasChecked = false) : Drained d d.code.text
  /-- The last line goes on with the call that nothing is left. -/
  | called (front : List Char) (h : d.hasChecked = true)
      (hold : d.code.text = front ++ ['\n']) :
      Drained d (front ++ ' ' :: (Assertion.drained ++ ['\n']))

/-- What a line of the body makes of the text of the code. -/
inductive Changed (d : Draft) (line : Line) : List Char → Prop where
  /-- The text stays, and one line comes in behind it. -/
  | kept (added : Line) (hadded : '\n' ∉ added)
      (hends : Expectation.continuation? line = none → d.hasChecked = false)
      (hcap : d.capture? line = none) :
      Changed d line (d.code.text ++ (added ++ ['\n']))
  /-- A block of `//` lines with a checked line ends here: the call that nothing is left
  stands behind the old text, and one line comes in. -/
  | drained (front : List Char) (added : Line) (hadded : '\n' ∉ added)
      (hends : Expectation.continuation? line = none) (hchecked : d.hasChecked = true)
      (hold : d.code.text = front ++ ['\n']) :
      Changed d line
        (front ++ ' ' :: (Assertion.drained ++ ['\n']) ++ (added ++ ['\n']))
  /-- The line is an annotation that stands alone: the last line becomes the statement
  that stores its value, and the comparison comes in behind it. -/
  | captured (a : Expectation) (hc : d.inComment = false)
      (ha : Expectation.returned? line = some a) (hcode : Text.isAllBlank a.code = true)
      (older : Code) (last expression : Line) (hold : d.code = last :: older)
      (he : Assertion.expression? last = some expression)
      (hstored : '\n' ∉ Assertion.capture (Text.indentOf last) expression)
      (hadded : '\n' ∉ Text.indentOf last ++ Assertion.expectReturned a.expected) :
      Changed d line (older.text ++
        (Assertion.capture (Text.indentOf last) expression ++ ['\n']) ++
        (Text.indentOf last ++ Assertion.expectReturned a.expected ++ ['\n']))

theorem hasChecked_eq_true_iff {d : Draft} :
    d.hasChecked = true ↔ ∃ checked, d.block = some (.ofLines checked) ∧ checked ≠ 0 := by
  rw [hasChecked]
  split
  · next checked hb =>
      rw [hb, bne_iff_ne]
      exact ⟨fun h => ⟨checked, rfl, h⟩, fun ⟨n, hn, hne⟩ => by cases hn; exact hne⟩
  · next hb =>
      refine iff_of_false Bool.false_ne_true fun ⟨n, hn, _⟩ => ?_
      exact hb n hn

theorem finishLines_drained {d : Draft} (hd : d.Lined) :
    Drained d d.finishLines.code.text := by
  cases hchecked : d.hasChecked with
  | false =>
      have hsame : d.finishLines.code = d.code := by
        rcases d.finishLines_cases with heq | ⟨checked, hb, heq⟩
        · rw [heq]
        · have hzero : checked = 0 := by
            by_contra hne
            rw [hasChecked_eq_true_iff.2 ⟨checked, hb, hne⟩] at hchecked
            cases hchecked
          rw [heq]
          exact if_pos hzero
      rw [hsame]
      exact .kept hchecked
  | true =>
      obtain ⟨checked, hb, hne⟩ := hasChecked_eq_true_iff.1 hchecked
      have hfin : d.finishLines.code = d.code.extendLast Assertion.drained := by
        rw [finishLines, hb]
        exact if_neg hne
      have hopen : d.block ≠ none := by rw [hb]; exact Option.some_ne_none _
      cases hcode : d.code with
      | nil => exact absurd hcode (hd.block hopen)
      | cons last older =>
          have hold : d.code.text = Code.text older ++ last ++ ['\n'] := by
            rw [hcode, Code.text_cons, List.append_assoc]
          have hdrained := Drained.called _ hchecked hold
          rw [hfin, hcode, Code.extendLast, Code.text_cons]
          simpa only [List.append_assoc, List.cons_append] using hdrained

/-- Where a line captures the line before, it ends no block. -/
theorem continuation?_of_capture? {d : Draft} {line : Line} {code : Code}
    (hline : '\n' ∉ line) (h : d.capture? line = some code) :
    Expectation.continuation? line ≠ none := by
  obtain ⟨-, a, ha, hcode, -⟩ := capture?_eq_some_iff.1 h
  exact Expectation.continuation?_of_withMarks? hline
    (Expectation.eq_some_of_nonEmpty ha) hcode

theorem settle_of_continuation? {d : Draft} {line : Line}
    (h : Expectation.continuation? line ≠ none) : d.settle line = d := by
  rw [settle, if_neg]
  rwa [Option.isNone_iff_eq_none]

theorem settle_of_continuation?_eq_none {d : Draft} {line : Line}
    (h : Expectation.continuation? line = none) : d.settle line = d.finishLines := by
  rw [settle, h]
  rfl

/-- A line of the body changes the code in one of three ways. -/
theorem feed_changed {d : Draft} (hd : d.Lined) {line : Line} (hline : '\n' ∉ line) :
    Changed d line (d.feed line).code.text := by
  rcases (d.fed_feed line).code_cases hline with hcap | ⟨hnone, added, hadded, hcode⟩
  · have hcont := continuation?_of_capture? hline hcap
    rw [settle_of_continuation? hcont] at hcap
    obtain ⟨hc, a, ha, hblank, hlast⟩ := capture?_eq_some_iff.1 hcap
    obtain ⟨-, hexpected⟩ := not_mem_of_withMarks? hline (Expectation.eq_some_of_nonEmpty ha)
    obtain ⟨last, older, stored, compared, hold, hpair, hnew⟩ :=
      Code.captureLast?_eq_some hexpected hd.lines hlast
    have hlines := hd.lines
    rw [hold] at hlines
    obtain ⟨hstored, hcompared⟩ :=
      Assertion.not_mem_captureLine? (hlines last (.head _)) hexpected hpair
    obtain ⟨expression, he, heq⟩ := Option.map_eq_some_iff.1 hpair
    cases heq
    rw [hnew, Code.text_cons, Code.text_cons]
    exact .captured a hc ha hblank older last expression hold he hstored hcompared
  · rw [hcode, Code.text_cons]
    cases hcont : Expectation.continuation? line with
    | some text =>
        have hne : Expectation.continuation? line ≠ none := by
          rw [hcont]; exact Option.some_ne_none _
        rw [settle_of_continuation? hne] at hnone ⊢
        exact .kept added hadded (fun h => absurd h hne) hnone
    | none =>
        have hcapnone : d.capture? line = none := by
          rw [Option.eq_none_iff_forall_ne_some]
          exact fun code h => continuation?_of_capture? hline h hcont
        rw [settle_of_continuation?_eq_none hcont]
        have hdrained := finishLines_drained hd
        generalize d.finishLines.code.text = text at hdrained ⊢
        cases hdrained with
        | kept h => exact .kept added hadded (fun _ => h) hcapnone
        | called front h hold => exact .drained front added hadded hcont h hold

end Draft

namespace Parse

/-! ## States that reading comes to -/

/-- The states that lines can lead to, whatever numbers they have. -/
inductive Reachable : Parse → Prop where
  | start : Reachable {}
  | step {p q : Parse} {line : Line} {number : Nat} (hp : Reachable p)
      (hline : '\n' ∉ line) (h : p.step line number = .ok q) : Reachable q

theorem Reachable.steps {p q : Parse} {number : Nat} {lines : List Line}
    (hp : Reachable p) (hlines : ∀ line ∈ lines, '\n' ∉ line)
    (h : p.steps number lines = .ok q) : Reachable q := by
  induction lines generalizing p number with
  | nil =>
      cases h
      exact hp
  | cons line more ih =>
      obtain ⟨hline, hmore⟩ := List.forall_mem_cons.1 hlines
      rw [Parse.steps] at h
      split at h
      · next next hnext => exact ih (hp.step hline hnext) hmore h
      · cases h

/-- In every state that reading comes to, the code of the open example is single lines. -/
theorem Reachable.lined {p : Parse} (hp : Reachable p) :
    ∀ d, p.current = some d → d.Lined := by
  induction hp with
  | start => exact fun d h => nomatch h
  | @step p q line number _ hline h ih =>
      obtain ⟨kind, -, rfl⟩ := step_eq_ok h
      intro e he
      cases kind with
      | opening language =>
          cases he
          exact ⟨fun _ h => absurd h List.not_mem_nil, fun h => absurd rfl h⟩
      | closing => cases he
      | skipNext => exact ih e he
      | share => exact ih e he
      | body =>
          obtain ⟨d, hd, rfl⟩ := Option.map_eq_some_iff.1 he
          have hcontent : '\n' ∉ content line := fun hm => hline (content_subset line hm)
          exact (Draft.feed_code (ih d hd) hcontent).2.2

/-- The examples read so far as they are handed on, each with whether it was closed. -/
def examples (p : Parse) (path : String) : List (Snippet × Bool) :=
  p.drafts.map fun x => (x.1.toSnippet path, x.2)

theorem examples_of_current {p : Parse} {d : Draft} (h : p.current = some d)
    (path : String) :
    p.examples path =
      (p.older.reverse.map fun x => (x.1.toSnippet path, x.2)) ++
        [(d.toSnippet path, false)] := by
  rw [examples, drafts, h, List.map_append]
  rfl

/-- An opening fence sets the open example aside as it is, behind the others. -/
theorem examples_opening (p : Parse) (path : String) (line : Line) (number : Nat)
    (language : Language) :
    (p.stepKind line number (.opening language)).examples path =
      p.examples path ++ [(⟨path, number, language, "", p.skipNext⟩, false)] := by
  have hdrafts : (p.setAside false).reverse = p.drafts := by
    rw [setAside, drafts]
    cases p.current with
    | none => exact (List.append_nil _).symm
    | some d => exact List.reverse_cons
  rw [examples_of_current rfl, examples, ← hdrafts]
  rfl

/-- A closing fence ends the open example in its place. -/
theorem examples_closing {p : Parse} {d : Draft} (h : p.current = some d)
    (path : String) (line : Line) (number : Nat) :
    (p.stepKind line number .closing).examples path =
      (p.older.reverse.map fun x => (x.1.toSnippet path, x.2)) ++
        [(d.finishLines.toSnippet path, true)] := by
  have hdrafts : (p.stepKind line number .closing).drafts =
      p.older.reverse ++ [(d.finishLines, true)] := by
    rw [drafts, stepKind, setAside, h]
    exact (List.append_nil _).trans List.reverse_cons
  rw [examples, hdrafts, List.map_append]
  rfl

end Parse

theorem Draft.toSnippet_of_sameHeader {d e : Draft} (h : Draft.SameHeader d e)
    (path : String) :
    e.toSnippet path = { d.toSnippet path with code := String.ofList e.code.text } := by
  rw [toSnippet, h.startLine, h.language, h.skip]
  rfl

namespace Parse

/-- In every state that reading comes to, a line changes one example at most, unless its
tag is unknown and there is no next state. An opening fence adds an empty example behind all
others. A directive changes none, and with no example open no other line does. A closing
fence ends the open example, whose code it changes only by the call that ends a block. A
line of the body adds one line to the code of the open example, and it changes the last of
the lines before it where a block ends or where it is an annotation on a line of its own. -/
theorem step_frame {p : Parse} (hp : Reachable p) {line : Line} (hline : '\n' ∉ line)
    (path : String) (number : Nat) :
    (∀ t, Fence.kind line = .error t → p.step line number = .error t) ∧
    ∀ kind, Fence.kind line = .ok kind → ∃ q, p.step line number = .ok q ∧
      (∀ language, kind = .opening language →
        q.examples path =
          p.examples path ++ [(⟨path, number, language, "", p.skipNext⟩, false)]) ∧
      (kind = .skipNext ∨ kind = .share → q.examples path = p.examples path) ∧
      (p.current = none → (∀ language, kind ≠ .opening language) →
        q.examples path = p.examples path) ∧
      ∀ d, p.current = some d →
        ∃ before, p.examples path = before ++ [(d.toSnippet path, false)] ∧
          (kind = .closing → ∃ code, d.Drained code ∧
            q.examples path =
              before ++ [({ d.toSnippet path with code := String.ofList code }, true)]) ∧
          (kind = .body → ∃ code, d.Changed (content line) code ∧
            q.examples path =
              before ++ [({ d.toSnippet path with code := String.ofList code }, false)]) := by
  refine ⟨fun t ht => by rw [step_eq, ht]; rfl, fun kind hkind => ?_⟩
  refine ⟨p.stepKind (content line) number kind, by rw [step_eq, hkind]; rfl, ?_, ?_, ?_, ?_⟩
  · rintro language rfl
    exact examples_opening p path (content line) number language
  · rintro (rfl | rfl) <;> rfl
  · intro hnone hopening
    cases kind with
    | opening language => exact absurd rfl (hopening language)
    | closing => simp only [examples, drafts, stepKind, setAside, hnone]
    | skipNext => rfl
    | share => rfl
    | body => simp only [examples, drafts, stepKind, hnone, Option.map_none]
  · intro d hd
    have hlined := hp.lined d hd
    refine ⟨_, examples_of_current hd path, ?_, ?_⟩
    · rintro rfl
      refine ⟨_, Draft.finishLines_drained hlined, ?_⟩
      rw [examples_closing hd,
        Draft.toSnippet_of_sameHeader d.finishLines_sameHeader path]
    · rintro rfl
      have hcontent : '\n' ∉ content line := fun hm => hline (content_subset line hm)
      have hnext : (p.stepKind (content line) number .body).current =
          some (d.feed (content line)) := by
        rw [stepKind, hd]
        rfl
      refine ⟨_, Draft.feed_changed hlined hcontent, ?_⟩
      rw [examples_of_current hnext,
        Draft.toSnippet_of_sameHeader (d.feed_sameHeader (content line)) path]
      rfl

/-- Code behind a block with one checked line. -/
theorem step_frame_behind_block :
    ∃ p d, ({} : Parse).steps 1 ["```js".toList, "// output:".toList, "// 1".toList] = .ok p ∧
      Reachable p ∧ '\n' ∉ "f()".toList ∧ p.current = some d ∧ d.hasChecked = true ∧
      ∃ q code, p.step "f()".toList 4 = .ok q ∧ d.Changed "f()".toList code ∧
        q.examples "doc.md" =
          [({ d.toSnippet "doc.md" with code := String.ofList code }, false)] := by
  have hlines : ∀ line ∈ ["```js".toList, "// output:".toList, "// 1".toList],
      '\n' ∉ line := by decide
  have hsteps : ({} : Parse).steps 1 ["```js".toList, "// output:".toList, "// 1".toList] =
      .ok ⟨[], some ⟨1, .javascript, false,
        ["__deepStrictEqual(__nextOutput(), \"1\");".toList, "// output:".toList], false,
        some (.ofLines 1)⟩, false, false⟩ := rfl
  have hp := Reachable.start.steps hlines hsteps
  have hline : '\n' ∉ "f()".toList := by decide
  obtain ⟨q, hq, -, -, -, hopen⟩ := (step_frame hp hline "doc.md" 4).2 .body rfl
  obtain ⟨before, hbefore, -, hbody⟩ := hopen _ rfl
  obtain ⟨code, hcode, hexamples⟩ := hbody rfl
  have hnil : before = [] := List.length_eq_zero_iff.1 (by
    have hlength := congrArg List.length hbefore
    rw [List.length_append] at hlength
    exact (Nat.succ.inj hlength).symm)
  rw [hnil] at hexamples
  exact ⟨_, _, hsteps, hp, hline, rfl, rfl, q, code, hq, hcode, hexamples⟩

end Parse

end DocExamples
