import DocExamples.Proofs.Document.Blocks
import DocExamples.Proofs.Document.Outside

/-!
# Values that a line is compared with

The expected value of a line of code stands in a comment behind the line or on a line of
its own below it. The two are read by different code: behind the line, the text in front of
the comment is taken; below it, the last line of the code generated so far. `Annotates`
holds of the lines and values for which a comment behind the line is the comment of the
line, and for these the two forms are shown to make the same comparison.

The second half is about the first form alone, and about all code in front of the comment.
Whether there is something to compare is decided by the first characters of the code. That
is right for code that holds comments only, and wrong for code that starts with a comment
and goes on: its annotation is dropped without a word.
-/

namespace DocExamples

namespace Expectation

/-- The comment that states the value of what stands in front of it. -/
def returnComment (expected : Line) : Line := ['/', '/', ' ', '=', '>', ' '] ++ expected

section Forms

variable {line expected : Line}

theorem afterMarks_returnComment (h : '\n' ∉ expected) :
    afterMarks ["=>"] (returnComment expected) = some (' ' :: expected) := by
  have hmark : dropMark "=>" ([' ', '=', '>', ' '] ++ expected) = some (' ' :: expected) := rfl
  have hsingle : '\n' ∉ ' ' :: expected := by
    rw [List.mem_cons, not_or]
    exact ⟨by decide, h⟩
  have hdrop : (returnComment expected).drop 2 = [' ', '=', '>', ' '] ++ expected := rfl
  rw [afterMarks, hdrop, List.foldlM_cons, hmark]
  exact Text.wholeLine_of_not_mem hsingle

theorem returned?_of_splitComment {code : Line} (h : '\n' ∉ expected)
    (htrim : Text.strip expected = expected) (hne : expected ≠ [])
    (hsplit : splitComment line = some (code, returnComment expected)) :
    returned? line = some ⟨code, expected⟩ := by
  have hstrip : Text.strip (' ' :: expected) = expected := by
    have hblank := Text.strip_stripLeft (' ' :: expected)
    rw [← hblank]
    show Text.strip (Text.stripLeft expected) = expected
    rw [Text.strip_stripLeft, htrim]
  have hfilter : (!expected.isEmpty) = true := by
    rw [Bool.not_eq_true', List.isEmpty_eq_false_iff]
    exact hne
  rw [returned?, withMarks?, hsplit]
  dsimp only
  rw [afterMarks_returnComment h, Option.map_some, hstrip, nonEmpty, Option.filter_some,
    if_pos hfilter]

theorem splitComment_returnComment (expected : Line) :
    splitComment (returnComment expected) = some ([], returnComment expected) := rfl

/-- A comment one blank behind a line that is not blank does not start before. -/
theorem splitComment_append {comment : Line} (hblank : Text.isAllBlank line = false)
    (hstart : Comment.lineCommentStart (line ++ ' ' :: comment) = some (line.length + 1)) :
    splitComment (line ++ ' ' :: comment) = some (line ++ [' '], comment) ∧
      splitComment line = none := by
  have hindent : (Text.indentOf line).length ≤ line.length :=
    (List.takeWhile_prefix Text.isBlank).length_le
  obtain ⟨hstrip, hindents⟩ := Text.stripLeft_append_of_not hblank (' ' :: comment)
  have hlong : startsComment (Text.stripLeft (line ++ ' ' :: comment)) ≠ true := by
    intro h
    have hstart' := Comment.scanFrom_start_of_startsComment h []
    rw [hindents] at hstart'
    have heq := Option.some.inj (hstart.symm.trans hstart')
    rw [List.length_nil] at heq
    omega
  have hfront : startsComment (Text.stripLeft line) ≠ true := by
    intro h
    refine hlong (List.isPrefixOf_iff_prefix.2 ?_)
    rw [hstrip]
    exact (List.isPrefixOf_iff_prefix.1 h).trans (List.prefix_append _ _)
  have hscan : Comment.scan line false = ⟨false, none⟩ :=
    Comment.scanFrom_of_start_append (hstart.trans (congrArg some (Nat.zero_add _).symm))
  constructor
  · have hlength : (line ++ [' ']).length = line.length + 1 := List.length_append
    rw [splitComment, if_neg hlong, hstart, Option.map_some, List.append_cons,
      List.take_left' hlength, List.drop_left' hlength]
  · rw [splitComment, if_neg hfront, Comment.lineCommentStart, hscan]
    rfl

theorem withMarks?_of_splitComment (h : splitComment line = none) (words : List String) :
    withMarks? words line = none := by
  rw [withMarks?, h]

end Forms

end Expectation

namespace Assertion

theorem capture_eq (indent e : List Char) :
    capture indent e = indent ++ "var __returnValue = ".toList ++ e ++ [';'] := by
  have hvariable : "var ".toList ++ returnVariable ++ " = ".toList =
      "var __returnValue = ".toList := by decide
  unfold capture
  rw [List.append_assoc indent, List.append_assoc indent, hvariable]

theorem expression?_concat_blank {line : Line} (h : Text.isAllBlank line = false) :
    expression? (line ++ [' ']) = expression? line ∧
      Text.indentOf (line ++ [' ']) = Text.indentOf line := by
  obtain ⟨hstrip, hindent⟩ := Text.stripLeft_append_of_not h [' ']
  refine ⟨?_, hindent⟩
  have hdrop : Text.dropTrailing (fun c => c == ';' || Text.isBlank c)
      (Text.stripLeft line ++ [' ']) =
      Text.dropTrailing (fun c => c == ';' || Text.isBlank c) (Text.stripLeft line) :=
    Text.dropTrailing_append_of_all (List.forall_mem_singleton.2 rfl)
  simp only [expression?, hstrip, hdrop]

end Assertion

/-- What an annotation on a line of its own makes of the last line of the code. -/
theorem Code.captureLast?_cons {last expected : Line} (hlast : '\n' ∉ last)
    (hexpected : '\n' ∉ expected) (older : Code) :
    Code.captureLast? expected (last :: older) =
      (Assertion.expression? last).map fun x =>
        (Text.indentOf last ++ Assertion.expectReturned expected) ::
          Assertion.capture (Text.indentOf last) x :: older := by
  have hcompared : '\n' ∉ Text.indentOf last ++ Assertion.expectReturned expected := by
    rw [List.mem_append, not_or]
    exact ⟨fun hm => hlast (Text.indentOf_subset last hm),
      Assertion.not_mem_expectReturned hexpected⟩
  rw [captureLast?, Assertion.captureLine?, Option.map_map]
  refine congrArg (Option.map · (Assertion.expression? last)) (funext fun x => ?_)
  simp only [Function.comp_apply, Text.splitLines_of_not_mem hcompared]
  rfl

namespace Draft

variable {d : Draft} {line : Line}

theorem settle_of_block_eq_none (hb : d.block = none) (line : Line) : d.settle line = d :=
  settle_of_not_ofLines fun _ h => nomatch hb.symm.trans h

/-- Outside comments and blocks a line without a comment is taken as it stands. -/
theorem feed_of_splitComment_eq_none (hb : d.block = none) (hc : d.inComment = false)
    (hsplit : Expectation.splitComment line = none)
    (hopen : Comment.openAfter line false = false) : d.feed line = d.append line := by
  have hnone : ∀ words, Expectation.withMarks? words line = none :=
    Expectation.withMarks?_of_splitComment hsplit
  have hreturned : Expectation.returned? line = none := congrArg _ (hnone ["=>"])
  have hlogged : Expectation.logged? line = none := congrArg _ (hnone ["log", "=>"])
  have houtput : Expectation.output? line = none := hnone ["output:"]
  have hopen' : { d.append line with inComment := Comment.openAfter line d.inComment } =
      d.append line := by
    rw [hc, hopen, ← hc]
    rfl
  rw [feed, ← settle, settle_of_block_eq_none hb, feedOpen, hc, hreturned, hlogged, houtput, hb]
  simp only [feedPlain, hb, hc]
  rw [hc] at hopen'
  exact hopen'

/-- Outside comments an annotation of the value of code on its line is taken there. -/
theorem feed_of_annotated {a : Expectation} (hc : d.inComment = false)
    (ha : Expectation.returned? line = some a) (hcode : Text.isAllBlank a.code = false) :
    d.feed line = d.finishLines.append
      ((Assertion.inlineReturn? a.code a.expected).getD line) := by
  have hnone := Expectation.continuation?_of_code (Expectation.eq_some_of_nonEmpty ha) hcode
  have hc' : d.finishLines.inComment = false := d.finishLines_inComment.trans hc
  rw [feed, ← settle, settle_of_continuation?_eq_none hnone, feedOpen, hc', ha]
  simp only [Bool.false_eq_true, if_false]
  rw [feedReturned, if_neg (by rw [hcode]; exact Bool.false_ne_true)]

/-- Outside comments an annotation on a line of its own compares the last line of the code, or
stays the comment it is. -/
theorem feed_of_standing {a : Expectation} {last : Line} {older : Code} (hline : '\n' ∉ line)
    (hc : d.inComment = false) (ha : Expectation.returned? line = some a)
    (hcode : Text.isAllBlank a.code = true) (hlast : '\n' ∉ last)
    (hd : d.code = last :: older) :
    d.feed line = { d with
      code := ((Assertion.expression? last).map fun x =>
        (Text.indentOf last ++ Assertion.expectReturned a.expected) ::
          Assertion.capture (Text.indentOf last) x :: older).getD (line :: d.code) } := by
  have hmarks := Expectation.eq_some_of_nonEmpty ha
  have hcont := Expectation.continuation?_of_withMarks? hline hmarks hcode
  have hcapture := Code.captureLast?_cons hlast (not_mem_of_withMarks? hline hmarks).2 older
  have hfeed : d.feed line = d.feedReturned line a := by
    rw [feed, ← settle, settle_of_continuation? hcont, feedOpen, hc, ha]
    rfl
  rw [hfeed, feedReturned, if_pos hcode, hd, hcapture]
  cases Assertion.expression? last with
  | none => simp only [Option.map_none, Option.getD_none, append, hd, Code.append_of_not_mem hline]
  | some x => rfl

end Draft

namespace Parse

theorem content_of_getLast?_ne {line : Line} (h : line.getLast? ≠ some '\r') :
    content line = line := by
  rcases List.eq_nil_or_concat' line with rfl | ⟨front, c, rfl⟩
  · rfl
  · have hc : (c == '\r') = false := by
      rw [beq_eq_false_iff_ne]
      rintro rfl
      exact h List.getLast?_concat
    exact Text.dropTrailing_append_cons_of_not (p := (· == '\r')) hc front []

theorem step_body {p : Parse} {d : Draft} {line : Line} (hd : p.current = some d)
    (hbody : Fence.kind line = .ok .body) (number : Nat) :
    p.step line number = .ok { p with current := some (d.feed (content line)) } := by
  rw [step_eq, hbody, Except.map, stepKind, hd, Option.map_some]

theorem steps_body_pair {p : Parse} {d : Draft} {line next : Line} (hd : p.current = some d)
    (hline : Fence.kind line = .ok .body) (hnext : Fence.kind next = .ok .body)
    (number : Nat) :
    p.steps number [line, next] =
      .ok { p with current := some ((d.feed (content line)).feed (content next)) } := by
  have hbody : ∀ l ∈ [line, next], Fence.kind l = .ok .body :=
    List.forall_mem_cons.2 ⟨hline, List.forall_mem_singleton.2 hnext⟩
  exact steps_body hd hbody

end Parse

/-! ## Behind the line or below it -/

open Expectation Assertion

/-- A line and a value such that the value can be stated behind the line: the comment that
states it is where the line first has one. -/
structure Annotates (line expected : Line) : Prop where
  single : '\n' ∉ line
  valueSingle : '\n' ∉ expected
  notBlank : Text.isAllBlank line = false
  noReturn : line.getLast? ≠ some '\r'
  trimmed : Text.strip expected = expected
  nonEmpty : expected ≠ []
  body : Fence.kind line = .ok .body
  bodyBehind : Fence.kind (line ++ ' ' :: returnComment expected) = .ok .body
  start : Comment.lineCommentStart (line ++ ' ' :: returnComment expected) =
    some (line.length + 1)

namespace Annotates

variable {line expected : Line} (h : Annotates line expected)
include h

theorem content_append (front : Line) : Parse.content (front ++ expected) = front ++ expected := by
  refine Parse.content_of_getLast?_ne ?_
  rw [List.getLast?_append_of_ne_nil front h.nonEmpty, ← h.trimmed]
  exact Text.getLast?_strip_ne (by decide)

theorem not_mem_returnComment : '\n' ∉ returnComment expected := by
  rw [returnComment, List.mem_append, not_or]
  exact ⟨by decide, h.valueSingle⟩

theorem openAfter : Comment.openAfter line false = false := by
  have hscan : Comment.scan line false = ⟨false, none⟩ :=
    Comment.scanFrom_of_start_append (h.start.trans (congrArg some (Nat.zero_add _).symm))
  rw [Comment.openAfter, hscan]

/-- The line with its comment becomes one line of code. -/
theorem feed_behind {d : Draft} (hb : d.block = none) (hc : d.inComment = false) :
    d.feed (line ++ ' ' :: returnComment expected) =
      { d with
        code := ((expression? line).map fun e =>
          capture (Text.indentOf line) e ++ ' ' :: expectReturned expected).getD
            (line ++ ' ' :: returnComment expected) :: d.code } := by
  have hsplit := (splitComment_append h.notBlank h.start).1
  have hcode : Text.isAllBlank (line ++ [' ']) = false := by
    rw [Text.isAllBlank_append, h.notBlank, Bool.false_and]
  have hbehind : '\n' ∉ line ++ ' ' :: returnComment expected := by
    rw [List.mem_append, List.mem_cons, not_or, not_or]
    exact ⟨h.single, by decide, h.not_mem_returnComment⟩
  have hfront : '\n' ∉ line ++ [' '] := by
    rw [List.mem_append, List.mem_singleton, not_or]
    exact ⟨h.single, by decide⟩
  obtain ⟨hexpression, hindent⟩ := expression?_concat_blank h.notBlank
  have hinline : inlineReturn? (line ++ [' ']) expected = (expression? line).map fun e =>
      capture (Text.indentOf line) e ++ ' ' :: expectReturned expected := by
    rw [inlineReturn?, hexpression, hindent]
  have hadded : '\n' ∉ (inlineReturn? (line ++ [' ']) expected).getD
      (line ++ ' ' :: returnComment expected) := by
    cases hin : inlineReturn? (line ++ [' ']) expected with
    | none => exact hbehind
    | some stored => exact not_mem_inlineReturn? hfront h.valueSingle hin
  rw [Draft.feed_of_annotated hc
    (returned?_of_splitComment h.valueSingle h.trimmed h.nonEmpty hsplit) hcode,
    Draft.finishLines_of_not_ofLines fun _ hsome => nomatch hb.symm.trans hsome]
  rw [Draft.append, Code.append_of_not_mem hadded, hinline]

/-- The line and its comment below become two lines of code. -/
theorem feed_below {d : Draft} (hb : d.block = none) (hc : d.inComment = false) :
    (d.feed line).feed (returnComment expected) =
      { d with
        code := ((expression? line).map fun e =>
          (Text.indentOf line ++ expectReturned expected) ::
            capture (Text.indentOf line) e :: d.code).getD
              (returnComment expected :: line :: d.code) } := by
  have hnone := (splitComment_append h.notBlank h.start).2
  have hfirst : d.feed line = { d with code := line :: d.code } := by
    rw [Draft.feed_of_splitComment_eq_none hb hc hnone h.openAfter, Draft.append,
      Code.append_of_not_mem h.single]
  rw [hfirst, Draft.feed_of_standing (d := { d with code := line :: d.code })
    h.not_mem_returnComment hc (returned?_of_splitComment h.valueSingle h.trimmed h.nonEmpty
      (splitComment_returnComment expected)) rfl h.single rfl]

end Annotates

namespace Parse

/-- The value of a line is stated behind it or below it, and it makes no difference which:
with an example open, no block open and no comment, both forms compare the same expression
with the same value, in the same indentation, and only what stands between the two
statements differs; or neither compares anything, and the lines stay as they are. -/
theorem return_forms_agree {p : Parse} {d : Draft} (hd : p.current = some d)
    (hb : d.block = none) (hc : d.inComment = false) {line expected : Line}
    (h : Annotates line expected) (number : Nat) :
    ∃ behind below : Code,
      p.step (line ++ " // => ".toList ++ expected) number =
        .ok { p with current := some { d with code := behind } } ∧
      p.steps number [line, "// => ".toList ++ expected] =
        .ok { p with current := some { d with code := below } } ∧
      ((∃ e front back, expression? line = some e ∧
          front = d.code.text ++ Text.indentOf line ++ "var __returnValue = ".toList ++ e ∧
          back = expectReturned expected ++ ['\n'] ∧
          behind.text = front ++ [';', ' '] ++ back ∧
          below.text = front ++ [';', '\n'] ++ Text.indentOf line ++ back) ∨
        (expression? line = none ∧
          behind = (line ++ " // => ".toList ++ expected) :: d.code ∧
          below = ("// => ".toList ++ expected) :: line :: d.code)) := by
  have hmark : "// => ".toList = ['/', '/', ' ', '=', '>', ' '] := by decide
  have hmark' : " // => ".toList = [' ', '/', '/', ' ', '=', '>', ' '] := by decide
  have hwhole : line ++ " // => ".toList ++ expected = line ++ ' ' :: returnComment expected := by
    rw [hmark', List.append_assoc]
    rfl
  have hcomment : "// => ".toList ++ expected = returnComment expected := by
    rw [hmark]
    rfl
  have hcontent : content (line ++ ' ' :: returnComment expected) =
      line ++ ' ' :: returnComment expected := by
    rw [← hwhole]
    exact h.content_append _
  have hkind : Fence.kind (returnComment expected) = .ok .body := by
    refine Fence.kind_of_startsComment ?_
    rw [startsComment_strip]
    rfl
  rw [hwhole, hcomment]
  refine ⟨((expression? line).map fun e =>
      capture (Text.indentOf line) e ++ ' ' :: expectReturned expected).getD
        (line ++ ' ' :: returnComment expected) :: d.code,
    ((expression? line).map fun e => (Text.indentOf line ++ expectReturned expected) ::
      capture (Text.indentOf line) e :: d.code).getD
        (returnComment expected :: line :: d.code), ?_, ?_, ?_⟩
  · exact (step_body hd h.bodyBehind number).trans (by rw [hcontent, h.feed_behind hb hc])
  · refine (steps_body_pair hd h.body hkind number).trans ?_
    have hcontent' : content (returnComment expected) = returnComment expected :=
      h.content_append _
    rw [content_of_getLast?_ne h.noReturn, hcontent', h.feed_below hb hc]
  · cases expression? line with
    | none => exact .inr ⟨rfl, rfl, rfl⟩
    | some e =>
        refine .inl ⟨e, _, _, rfl, rfl, rfl, ?_, ?_⟩
        · simp only [Option.map_some, Option.getD_some, Code.text_cons, capture_eq,
            List.append_assoc, List.cons_append, List.nil_append]
        · simp only [Option.map_some, Option.getD_some, Code.text_cons, capture_eq,
            List.append_assoc, List.cons_append, List.nil_append]

/-- An indented call with a semicolon, whose value is stated behind it and below it. -/
theorem return_forms_agree_on_call :
    Annotates "  f('//');".toList "[1]".toList ∧
    ∃ behind below : Code,
      ({ current := some (.start 1 .javascript false) } : Parse).step
          "  f('//'); // => [1]".toList 2 =
        .ok { current := some { Draft.start 1 .javascript false with code := behind } } ∧
      ({ current := some (.start 1 .javascript false) } : Parse).steps 2
          ["  f('//');".toList, "// => [1]".toList] =
        .ok { current := some { Draft.start 1 .javascript false with code := below } } ∧
      behind.text =
        "  var __returnValue = f('//'); __deepStrictEqual(__returnValue, [1]);\n".toList ∧
      below.text =
        "  var __returnValue = f('//');\n  __deepStrictEqual(__returnValue, [1]);\n".toList := by
  have h : Annotates "  f('//');".toList "[1]".toList :=
    ⟨by decide, by decide, rfl, by decide, rfl, by decide, rfl, rfl, rfl⟩
  obtain ⟨behind, below, hbehind, hbelow, hforms⟩ :=
    return_forms_agree (p := { current := some (.start 1 .javascript false) }) rfl rfl rfl h 2
  refine ⟨h, behind, below, hbehind, hbelow, ?_⟩
  rcases hforms with ⟨e, front, back, he, rfl, rfl, htext, htext'⟩ | ⟨hnone, -⟩
  · obtain rfl := Option.some.inj he
    exact ⟨htext.trans (by decide), htext'.trans (by decide)⟩
  · cases hnone

end Parse

/-! ## Code in front of the comment -/

namespace Parse

/-- An annotation of the value of the code in front of it, on a line outside comments, is
taken or left by how the code starts. With anything in the code that is no comment, no blank
and no semicolon, the code is compared, unless it starts with a star or a comment. With such
a start the annotation is left, and the line stays as it is; and that is where it belongs if
the code holds comments only. -/
theorem annotated_code_compared {p : Parse} {d : Draft} (hd : p.current = some d)
    (hc : d.inComment = false) {line : Line} (hline : '\n' ∉ line)
    (hbody : Fence.kind line = .ok .body) {a : Expectation}
    (ha : returned? (content line) = some a) (hcode : Text.isAllBlank a.code = false)
    (number : Nat) :
    ((∃ c ∈ Comment.outside a.code false, Text.isBlank c = false ∧ c ≠ ';') →
      ¬ StartsMarked a.code → ∃ e,
        e = Text.dropTrailing endsBefore (Text.stripLeft a.code) ∧ e ≠ [] ∧
        p.step line number = .ok { p with current := some { d.finishLines with
          code := (capture (Text.indentOf a.code) e ++ ' ' :: expectReturned a.expected) ::
            d.finishLines.code } }) ∧
    (StartsMarked a.code → inlineReturn? a.code a.expected = none ∧
      p.step line number = .ok { p with current := some { d.finishLines with
        code := content line :: d.finishLines.code } }) ∧
    (Text.isAllBlank (Comment.outside a.code false) = true → StartsMarked a.code) := by
  have hcontent := not_mem_content hline
  have hstep : p.step line number = .ok { p with current := some (d.finishLines.append
      ((inlineReturn? a.code a.expected).getD (content line))) } := by
    rw [step_body hd hbody, Draft.feed_of_annotated hc ha hcode]
  obtain ⟨hfront, hexpected⟩ := Draft.not_mem_of_withMarks? hcontent (eq_some_of_nonEmpty ha)
  refine ⟨fun hsome hmarked => ?_, fun hmarked => ?_, fun hblank => ?_⟩
  · have hne : expression? a.code ≠ none := by
      rw [Ne, expression?_eq_none_iff, not_or]
      refine ⟨fun hall => ?_, hmarked⟩
      obtain ⟨c, hmem, hblank, hsemicolon⟩ := hsome
      have hends := hall c (Comment.outsideFrom_subset _ _ _ hmem)
      rw [endsBefore, hblank, Bool.or_false, beq_iff_eq] at hends
      exact hsemicolon hends
    obtain ⟨e, he⟩ := Option.ne_none_iff_exists'.1 hne
    have hinline : inlineReturn? a.code a.expected =
        some (capture (Text.indentOf a.code) e ++ ' ' :: expectReturned a.expected) := by
      rw [inlineReturn?, he, Option.map_some]
    refine ⟨e, (expression?_eq_some he).1, (expression?_eq_some he).2, ?_⟩
    rw [hstep, hinline, Option.getD_some, Draft.append,
      Code.append_of_not_mem (not_mem_inlineReturn? hfront hexpected hinline)]
  · have hnone : inlineReturn? a.code a.expected = none := by
      rw [inlineReturn?, expression?_eq_none_iff.2 (.inr hmarked), Option.map_none]
    refine ⟨hnone, ?_⟩
    rw [hstep, hnone, Option.getD_none, Draft.append, Code.append_of_not_mem hcontent]
  · rcases Comment.isPrefix_of_outsideFrom hblank with hall | hprefix | hprefix
    · rw [hcode] at hall
      cases hall
    · exact ⟨_, .head _, hprefix⟩
    · exact ⟨_, .tail _ (.head _), hprefix⟩

/-- A call with a comment behind it, and a comment that holds a call. -/
theorem annotated_code_compared_of_commented_call :
    returned? "f() /* two */ // => 4".toList = some ⟨"f() /* two */ ".toList, ['4']⟩ ∧
    (∃ e, ({ current := some (.start 1 .javascript false) } : Parse).step
        "f() /* two */ // => 4".toList 2 = .ok { current := some e } ∧
      e.code = ["var __returnValue = f() /* two */; __deepStrictEqual(__returnValue, 4);".toList]) ∧
    StartsMarked "/* f() */ ".toList ∧
    ({ current := some (.start 1 .javascript false) } : Parse).step
        "/* f() */ // => 4".toList 2 =
      .ok { current := some { Draft.start 1 .javascript false with
        code := ["/* f() */ // => 4".toList] } } := by
  have hreturned : returned? (content "f() /* two */ // => 4".toList) =
      some ⟨"f() /* two */ ".toList, ['4']⟩ := by decide
  have hreturned' : returned? (content "/* f() */ // => 4".toList) =
      some ⟨"/* f() */ ".toList, ['4']⟩ := by decide
  have hnot : ∀ mark ∈ commentMarks, ¬ mark <+: Text.stripLeft "f() /* two */ ".toList := by
    decide
  have hcall := (annotated_code_compared
    (p := { current := some (.start 1 .javascript false) }) rfl rfl (by decide) rfl
    hreturned rfl 2).1 ⟨'f', by decide, by decide, by decide⟩
    fun ⟨mark, hmark, hprefix⟩ => hnot mark hmark hprefix
  have hcomment := (annotated_code_compared
    (p := { current := some (.start 1 .javascript false) }) rfl rfl (by decide) rfl
    hreturned' rfl 2).2
  have hmarked : StartsMarked "/* f() */ ".toList := hcomment.2 (by decide)
  obtain ⟨e, rfl, -, hstep⟩ := hcall
  exact ⟨by decide, ⟨_, hstep, by decide⟩, hmarked, (hcomment.1 hmarked).2⟩

/-- Code that starts with a comment is never compared, whatever stands behind the
comment. -/
theorem comment_hides_code :
    returned? "/* two */ f() // => 4".toList = some ⟨"/* two */ f() ".toList, ['4']⟩ ∧
    'f' ∈ Comment.outside "/* two */ f() ".toList false ∧
    inlineReturn? "/* two */ f() ".toList ['4'] = none ∧
    ({ current := some (.start 1 .javascript false) } : Parse).step
        "/* two */ f() // => 4".toList 2 =
      .ok { current := some { Draft.start 1 .javascript false with
        code := ["/* two */ f() // => 4".toList] } } := by
  refine ⟨by decide, by decide, by decide, by decide⟩

end Parse

end DocExamples
