import DocExamples.Proofs.Document.Concatenation
import DocExamples.Proofs.Document.Tags
import DocExamples.Proofs.Document.Values

/-!
# Which fence ends which

An opening fence may be longer than three backticks: what stands between the three and the
tag only has to be no word character. The line that ends an example is compared as a
whole, so it is three backticks and no more. Both questions are answered here for a fence of
any length, and then for a text that holds one example.

So every fence that opens can be closed, but not by a fence as long as itself: with four
backticks on either side the last line is one more line of the body, and the text has no
examples at all.
-/

namespace DocExamples

namespace Text

theorem splitLines_joinWith {lines : List (List Char)} (hne : lines ≠ [])
    (h : ∀ line ∈ lines, '\n' ∉ line) : splitLines (joinWith ['\n'] lines) = lines := by
  induction lines with
  | nil => exact absurd rfl hne
  | cons line more ih =>
      obtain ⟨hline, hmore⟩ := List.forall_mem_cons.1 h
      rcases more with _ | ⟨next, more⟩
      · exact splitLines_of_not_mem hline
      · rw [joinWith_cons_of_ne_nil _ _ (List.cons_ne_nil next more), List.append_assoc,
          List.singleton_append, splitLines_append_line, splitLines_of_not_mem hline,
          ih (List.cons_ne_nil next more) hmore, List.singleton_append]

theorem strip_of_forall_not_isBlank {s : List Char} (h : ∀ c ∈ s, isBlank c = false) :
    strip s = s := by
  have hself : ∀ {t : List Char}, (∀ c ∈ t, isBlank c = false) → t.dropWhile isBlank = t := by
    intro t ht
    rcases t with _ | ⟨c, t⟩
    · rfl
    · exact List.dropWhile_cons_of_neg (by rw [ht c (.head _)]; decide)
  rw [strip, stripLeft, hself h, stripRight, dropTrailing,
    hself fun c hc => h c (List.mem_reverse.1 hc), List.reverse_reverse]

end Text

/-! ## Fences of any length -/

namespace Fence

/-- A line of backticks. -/
def ticks (n : Nat) : Line := List.replicate n '\x60'

theorem ticks_eq_mark_iff {n : Nat} : ticks n = mark ↔ n = 3 := by
  refine ⟨fun h => ?_, fun h => h ▸ rfl⟩
  have hlength := congrArg List.length h
  rwa [ticks, List.length_replicate] at hlength

theorem isBlank_of_mem_ticks {n : Nat} : ∀ c ∈ ticks n, Text.isBlank c = false := by
  intro c hc
  rw [List.eq_of_mem_replicate hc]
  decide

theorem ticks_ne_of_mem {n : Nat} {s : Line} {c : Char} (hc : c ∈ s) (hne : c ≠ '\x60') :
    ticks n ≠ s := by
  rintro rfl
  exact hne (List.eq_of_mem_replicate hc)

/-- Behind the first three backticks all others are skipped with whatever stands in front of
the tag. -/
theorem tag?_of_strip {line tag : List Char} {n : Nat} (hn : 3 ≤ n)
    (hline : Text.strip line = ticks n ++ tag) (hword : ∀ c ∈ tag, Text.isWord c = true) :
    tag? line = if languages.any (·.1 = tag.map foldChar) then some tag else none := by
  obtain ⟨k, rfl⟩ := Nat.exists_eq_add_of_le hn
  have hsplit : ticks (3 + k) ++ tag = mark ++ (ticks k ++ tag) := by
    rw [ticks, List.replicate_add, List.append_assoc]
    rfl
  have hticks : (ticks k ++ tag).dropWhile (fun c => !Text.isWord c) = tag := by
    rw [List.dropWhile_append_of_pos fun c hc => by rw [List.eq_of_mem_replicate hc]; rfl]
    rcases tag with _ | ⟨c, tag⟩
    · rfl
    · exact List.dropWhile_cons_of_neg (by rw [hword c (.head _)]; decide)
  have hprefix : mark.isPrefixOf (mark ++ (ticks k ++ tag)) = true :=
    List.isPrefixOf_iff_prefix.2 (List.prefix_append _ _)
  simp only [tag?, hline, hsplit, hprefix, if_true, List.drop_left, hticks]

/-- A line of backticks alone has no tag. -/
theorem tag?_ticks (n : Nat) : tag? (ticks n) = none := by
  by_cases hn : 3 ≤ n
  · have hstrip : Text.strip (ticks n) = ticks n ++ [] := by
      rw [Text.strip_of_forall_not_isBlank isBlank_of_mem_ticks, List.append_nil]
    rw [tag?_of_strip hn hstrip (List.forall_mem_nil _)]
    rfl
  · match n, hn with
    | 0, _ => rfl
    | 1, _ => rfl
    | 2, _ => rfl
    | n + 3, hn => exact absurd (Nat.le_add_left 3 n) hn

/-- Of all lines of backticks only that of three means anything to a document. -/
theorem kind_ticks (n : Nat) : kind (ticks n) = .ok (if n = 3 then .closing else .body) := by
  have hlanguage : language? (ticks n) = .ok none := by rw [language?, tag?_ticks]
  have hskip : ticks n ≠ skipDirective := ticks_ne_of_mem (c := '<') (.head _) (by decide)
  have hshare : ticks n ≠ shareDirective := ticks_ne_of_mem (c := '<') (.head _) (by decide)
  rw [kind_eq, hlanguage, Text.strip_of_forall_not_isBlank isBlank_of_mem_ticks]
  simp only [ticks_eq_mark_iff, hskip, hshare, if_false]
  split <;> rfl

/-! ### Tags in either case -/

theorem isAlphanum_of_mem_languages : ∀ x ∈ languages, ∀ c ∈ x.1, c.isAlphanum = true := by
  have hall : (languages.all fun x => x.1.all (·.isAlphanum)) = true := rfl
  simpa only [List.all_eq_true] using hall

theorem eq_of_mem_languages :
    ∀ x ∈ languages, ∀ y ∈ languages, x.1 = y.1 → x.2 = y.2 := by decide

/-- A letter in the case of its own: reading it as a tag is putting it in lower case. -/
structure TagLetter (c : Char) : Prop where
  fold : foldChar c = c.toLower
  word : Text.isWord c = true
  notBlank : Text.isBlank c = false
  notStray : c ∉ strayLetters

theorem lt_of_toLower_lt {c : Char} (h : c.toLower.toNat < 128) : c.toNat < 128 := by
  unfold Char.toLower at h
  split at h
  · next hupper => exact Nat.lt_of_le_of_lt (UInt32.le_iff_toNat_le.1 hupper.2) (by decide)
  · exact h

theorem tagLetter_of_toLower {c : Char} (h : c.toLower.toNat < 128)
    (hc : c.toLower.isAlphanum = true) : TagLetter c := by
  have hall : ∀ n < 128, (Char.ofNat n).toLower.isAlphanum = true →
      foldChar (Char.ofNat n) = (Char.ofNat n).toLower ∧ (Char.ofNat n).isAlphanum = true ∧
        Text.isBlank (Char.ofNat n) = false ∧ Char.ofNat n ∉ strayLetters := by
    decide
  have hletter := hall c.toNat (lt_of_toLower_lt h)
  rw [Char.ofNat_toNat] at hletter
  obtain ⟨hfold, hword, hblank, hstray⟩ := hletter hc
  exact ⟨hfold, Text.isWord_of_isAlphanum hword, hblank, hstray⟩

variable {tag : List Char} {language : Language}

theorem tagLetter_of_mem (htag : (tag.map Char.toLower, language) ∈ languages) :
    ∀ c ∈ tag, TagLetter c := fun c hc =>
  have hmem : c.toLower ∈ tag.map Char.toLower := List.mem_map_of_mem hc
  tagLetter_of_toLower (ascii_of_mem_languages _ htag _ hmem)
    (isAlphanum_of_mem_languages _ htag _ hmem)

theorem not_mem_ticks_append {n : Nat} (htag : (tag.map Char.toLower, language) ∈ languages) :
    '\n' ∉ ticks n ++ tag := by
  intro hmem
  rcases List.mem_append.1 hmem with hticks | hletter
  · exact absurd (isBlank_of_mem_ticks _ hticks) (by decide)
  · exact absurd (tagLetter_of_mem htag _ hletter).notBlank (by decide)

/-- Three backticks or more with a tag in either case open an example of its language. -/
theorem kind_ticks_append {n : Nat} (hn : 3 ≤ n)
    (htag : (tag.map Char.toLower, language) ∈ languages) :
    kind (ticks n ++ tag) = .ok (.opening language) := by
  have hletter := tagLetter_of_mem htag
  have hfold : tag.map foldChar = tag.map Char.toLower :=
    List.map_congr_left fun c hc => (hletter c hc).fold
  have hstrip : Text.strip (ticks n ++ tag) = ticks n ++ tag :=
    Text.strip_of_forall_not_isBlank <|
      List.forall_mem_append.2 ⟨isBlank_of_mem_ticks, fun c hc => (hletter c hc).notBlank⟩
  have hany : languages.any (·.1 = tag.map foldChar) = true :=
    List.any_eq_true.2 ⟨_, htag, decide_eq_true hfold.symm⟩
  have htag? : tag? (ticks n ++ tag) = some tag := by
    rw [tag?_of_strip hn hstrip fun c hc => (hletter c hc).word, if_pos hany]
  obtain ⟨found, hfound, hlanguage⟩ :=
    language?_of_not_stray htag? fun c hc => (hletter c hc).notStray
  have heq : found = language := eq_of_mem_languages _ hfound _ htag hfold
  rw [kind_eq_opening_iff, hlanguage, heq]

end Fence

/-! ## Bodies without annotations -/

/-- A line that states no value, no console line and no start of an output block. -/
structure Expectation.Unmarked (line : Line) : Prop where
  returned : returned? line = none
  logged : logged? line = none
  output : output? line = none
  sentinel : isOutputSentinel line = false

namespace Draft

/-- Where no output block is open, a line without annotations is taken as it stands. -/
theorem feed_of_unmarked {d : Draft} {line : Line} (hb : d.block = none)
    (h : Expectation.Unmarked line) :
    d.feed line = { d.append line with inComment := Comment.openAfter line d.inComment } := by
  have hfed := d.fed_feed line
  rw [settle_of_block_eq_none hb] at hfed
  generalize d.feed line = e at hfed
  cases hfed with
  | compared a _ ha => exact nomatch h.returned.symm.trans ha
  | captured a _ ha => exact nomatch h.returned.symm.trans ha
  | uncaptured a _ ha => exact nomatch h.returned.symm.trans ha
  | logged a _ ha => exact nomatch h.logged.symm.trans ha
  | shown a _ _ _ ha => exact nomatch h.output.symm.trans (Expectation.eq_some_of_nonEmpty ha)
  | closed _ _ _ hblock => exact nomatch hb.symm.trans hblock
  | checkedInComment _ _ _ hblock => exact nomatch hb.symm.trans hblock
  | checkedLine _ _ _ hblock => exact nomatch hb.symm.trans hblock
  | openedLines a _ _ _ _ ha => exact nomatch h.output.symm.trans ha
  | openedComment _ _ _ _ hs => exact nomatch h.sentinel.symm.trans hs
  | plain => rfl

/-- A body without annotations is the code, line by line. -/
theorem feedLines_of_unmarked {d : Draft} {body : List Line} (hb : d.block = none)
    (hsingle : ∀ line ∈ body, '\n' ∉ line)
    (hbody : ∀ line ∈ body, Expectation.Unmarked (Parse.content line)) :
    (d.feedLines body).block = none ∧
      (d.feedLines body).code = (body.map Parse.content).reverse ++ d.code := by
  induction body generalizing d with
  | nil => exact ⟨hb, rfl⟩
  | cons line more ih =>
      obtain ⟨hline, hmore⟩ := List.forall_mem_cons.1 hbody
      obtain ⟨hone, hsingle⟩ := List.forall_mem_cons.1 hsingle
      have hfeed := feed_of_unmarked hb hline
      have hblock : (d.feed (Parse.content line)).block = none := by rw [hfeed]; exact hb
      have hcode : (d.feed (Parse.content line)).code = Parse.content line :: d.code := by
        rw [hfeed]
        exact Code.append_of_not_mem (Parse.not_mem_content hone) _
      obtain ⟨hblock', hcode'⟩ := ih hblock hsingle hmore
      refine ⟨hblock', hcode'.trans ?_⟩
      rw [hcode, List.map_cons, List.reverse_cons, List.append_assoc, List.singleton_append]

theorem feedLines_sameHeader (d : Draft) (body : List Line) : SameHeader d (d.feedLines body) := by
  induction body generalizing d with
  | nil => exact ⟨rfl, rfl, rfl⟩
  | cons line more ih => exact (d.feed_sameHeader (Parse.content line)).trans (ih _)

/-- The code that the lines of an example become. -/
def codeOf (language : Language) (body : List Line) : String :=
  String.ofList ((start 1 language false).feedLines body).finishLines.code.text

theorem codeOf_of_unmarked (language : Language) {body : List Line}
    (hsingle : ∀ line ∈ body, '\n' ∉ line)
    (hbody : ∀ line ∈ body, Expectation.Unmarked (Parse.content line)) :
    codeOf language body =
      String.ofList (body.map fun line => Parse.content line ++ ['\n']).flatten := by
  obtain ⟨hblock, hcode⟩ := feedLines_of_unmarked (d := start 1 language false) rfl hsingle hbody
  have hfinish : ((start 1 language false).feedLines body).finishLines =
      (start 1 language false).feedLines body := by rw [finishLines, hblock]
  rw [codeOf, hfinish, hcode, start, List.append_nil, Code.text, List.reverse_reverse,
    List.map_map]
  rfl

end Draft

/-! ## A text of one example -/

namespace Parse

/-- What the line behind the body finds: the open example is all that has been read. -/
theorem steps_example {opening : Line} {language : Language} {body : List Line}
    (hopening : Fence.kind opening = .ok (.opening language))
    (hbody : ∀ line ∈ body, Fence.kind line = .ok .body) (last : Line) :
    ({} : Parse).steps 1 (opening :: body ++ [last]) =
      ({ current := some ((Draft.start 1 language false).feedLines body) } : Parse).step last
        (2 + body.length) := by
  rw [List.cons_append, steps, step_eq, hopening]
  exact steps_body_concat (p := { current := some (Draft.start 1 language false) }) rfl hbody

variable {opening last : Line} {language : Language} {body : List Line} {text : String}

/-- An opening fence, a body and the closing mark are one example. -/
theorem parseSnippets_of_closing
    (htext : Text.splitLines text.toList = opening :: body ++ [last])
    (hopening : Fence.kind opening = .ok (.opening language))
    (hbody : ∀ line ∈ body, Fence.kind line = .ok .body)
    (hlast : Fence.kind last = .ok .closing) (path : String) :
    parseSnippets text path =
      .ok ⟨path, [⟨path, 1, language, Draft.codeOf language body, false⟩], false⟩ := by
  let d := (Draft.start 1 language false).feedLines body
  have hheader : (Draft.start 1 language false).SameHeader d.finishLines :=
    (Draft.feedLines_sameHeader _ body).trans d.finishLines_sameHeader
  rw [parseSnippets_eq_result, htext, steps_example hopening hbody, step_eq, hlast]
  show Except.ok (Parsed.mk path [d.finishLines.toSnippet path] false) = _
  rw [Draft.toSnippet_of_sameHeader hheader]
  rfl

/-- An opening fence with nothing but lines of a body behind it is an error. -/
theorem parseSnippets_of_body
    (htext : Text.splitLines text.toList = opening :: body ++ [last])
    (hopening : Fence.kind opening = .ok (.opening language))
    (hbody : ∀ line ∈ body, Fence.kind line = .ok .body)
    (hlast : Fence.kind last = .ok .body) (path : String) :
    parseSnippets text path = .error (.unclosedFence 1) := by
  let d := ((Draft.start 1 language false).feedLines body).feed (content last)
  have hheader : (Draft.start 1 language false).SameHeader d :=
    (Draft.feedLines_sameHeader _ body).trans (Draft.feed_sameHeader _ (content last))
  rw [parseSnippets_eq_result, htext, steps_example hopening hbody, step_eq, hlast]
  show Except.error (ParseError.unclosedFence d.startLine) = _
  rw [hheader.startLine]
  rfl

/-- A text of one example: a fence of `n` backticks with a tag, the lines of a body, and a
fence of `m` backticks. -/
def fenced (n : Nat) (tag : List Char) (body : List Line) (m : Nat) : String :=
  String.ofList <| Text.joinWith ['\n'] ((Fence.ticks n ++ tag) :: body ++ [Fence.ticks m])

theorem splitLines_fenced {n m : Nat} {tag : List Char}
    (htag : (tag.map Char.toLower, language) ∈ Fence.languages)
    (hsingle : ∀ line ∈ body, '\n' ∉ line) :
    Text.splitLines (fenced n tag body m).toList =
      (Fence.ticks n ++ tag) :: body ++ [Fence.ticks m] := by
  have hlast : '\n' ∉ Fence.ticks m := fun h => absurd (Fence.isBlank_of_mem_ticks _ h) (by decide)
  rw [fenced, String.toList_ofList]
  refine Text.splitLines_joinWith (List.cons_ne_nil _ _) (List.forall_mem_append.2 ⟨?_, ?_⟩)
  · exact List.forall_mem_cons.2 ⟨Fence.not_mem_ticks_append htag, hsingle⟩
  · exact List.forall_mem_singleton.2 hlast

/-- A fence of three backticks or more opens an example whatever the case of its tag, and a
fence of exactly three ends it: the text is then that one example, whose code is the body
itself if no line of it is annotated. Behind a fence of any other length the text has no
examples. So a fence as long as the opening one ends the example only at three backticks. -/
theorem parseSnippets_fenced {n : Nat} (hn : 3 ≤ n) {tag : List Char} {language : Language}
    (htag : (tag.map Char.toLower, language) ∈ Fence.languages) {body : List Line}
    (hsingle : ∀ line ∈ body, '\n' ∉ line)
    (hbody : ∀ line ∈ body, Fence.kind line = .ok .body) (path : String) :
    (∀ m, parseSnippets (fenced n tag body m) path =
      if m = 3 then
        .ok ⟨path, [⟨path, 1, language, Draft.codeOf language body, false⟩], false⟩
      else .error (.unclosedFence 1)) ∧
    ((∀ line ∈ body, Expectation.Unmarked (content line)) →
      Draft.codeOf language body =
        String.ofList (body.map fun line => content line ++ ['\n']).flatten) ∧
    ((∃ parsed, parseSnippets (fenced n tag body n) path = .ok parsed) ↔ n = 3) := by
  have hopening := Fence.kind_ticks_append hn htag
  have hread : ∀ m, parseSnippets (fenced n tag body m) path =
      if m = 3 then
        .ok ⟨path, [⟨path, 1, language, Draft.codeOf language body, false⟩], false⟩
      else .error (.unclosedFence 1) := by
    intro m
    have htext := splitLines_fenced (n := n) (m := m) htag hsingle
    have hlast := Fence.kind_ticks m
    split_ifs at hlast ⊢
    · exact parseSnippets_of_closing htext hopening hbody hlast path
    · exact parseSnippets_of_body htext hopening hbody hlast path
  refine ⟨hread, Draft.codeOf_of_unmarked language hsingle, ?_⟩
  rw [hread n]
  split_ifs with h
  · exact iff_of_true ⟨_, rfl⟩ h
  · exact iff_of_false (nomatch ·) h

/-- Four backticks in front of a tag in mixed case: three end the example. -/
theorem parseSnippets_fenced_of_four_ticks :
    3 ≤ 4 ∧ ("JavaScript".toList.map Char.toLower, Language.javascript) ∈ Fence.languages ∧
    (∀ line ∈ ["f()".toList, "~~~".toList], '\n' ∉ line) ∧
    (∀ line ∈ ["f()".toList, "~~~".toList], Fence.kind line = .ok .body) ∧
    parseSnippets "````JavaScript\nf()\n~~~\n```" "doc.md" =
      .ok ⟨"doc.md", [⟨"doc.md", 1, .javascript, "f()\n~~~\n", false⟩], false⟩ := by
  have htag : ("JavaScript".toList.map Char.toLower, Language.javascript) ∈ Fence.languages := by
    decide
  have hsingle : ∀ line ∈ ["f()".toList, "~~~".toList], '\n' ∉ line := by decide
  have hbody : ∀ line ∈ ["f()".toList, "~~~".toList], Fence.kind line = .ok .body :=
    List.forall_mem_cons.2 ⟨rfl, List.forall_mem_singleton.2 rfl⟩
  have hunmarked : ∀ line ∈ ["f()".toList, "~~~".toList],
      Expectation.Unmarked (content line) :=
    List.forall_mem_cons.2 ⟨⟨rfl, rfl, rfl, rfl⟩,
      List.forall_mem_singleton.2 ⟨rfl, rfl, rfl, rfl⟩⟩
  obtain ⟨hread, hcode, _⟩ := parseSnippets_fenced (by decide : 3 ≤ 4) htag hsingle hbody "doc.md"
  refine ⟨by decide, htag, hsingle, hbody, (hread 3).trans ?_⟩
  rw [if_pos rfl, hcode hunmarked]
  rfl

/-- Four backticks on either side: the fence that should end the example is a line of it. -/
theorem four_ticks_left_open :
    3 ≤ 4 ∧ ("js".toList.map Char.toLower, Language.javascript) ∈ Fence.languages ∧
    Fence.kind "f()".toList = .ok .body ∧
    fenced 4 "js".toList ["f()".toList] 4 = "````js\nf()\n````" ∧
    parseSnippets "````js\nf()\n````" "doc.md" = .error (.unclosedFence 1) :=
  ⟨by decide, by decide, rfl, rfl, rfl⟩

end Parse

end DocExamples
