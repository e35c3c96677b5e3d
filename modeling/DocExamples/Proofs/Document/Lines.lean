import DocExamples.Document.Snippet
import DocExamples.Proofs.Json.Literal
import Mathlib.Data.List.TakeDrop
import Mathlib.Data.List.TakeWhile

/-!
# Lines stay lines

The reader of documents hands on single lines, and what it writes into generated
code is put together from pieces of those lines and from texts of its own. So
no generated statement holds a line feed, and adding one to code adds exactly
one line. That is what the count of generated lines rests on.

Everything here is about the characters of a piece: trimming, splitting off a
comment and dropping marks only take characters away, a literal is plain ASCII,
and the texts of the library itself are checked by evaluation.
-/

namespace DocExamples

/-! ## Pieces of a text -/

namespace Text

theorem stripLeft_subset (s : List Char) : stripLeft s ⊆ s :=
  List.dropWhile_subset isBlank

theorem dropTrailing_subset (p : Char → Bool) (s : List Char) :
    dropTrailing p s ⊆ s := by
  intro c hc
  rw [dropTrailing, List.mem_reverse] at hc
  exact List.mem_reverse.1 (List.dropWhile_subset p hc)

theorem stripRight_subset (s : List Char) : stripRight s ⊆ s :=
  dropTrailing_subset isBlank s

theorem strip_subset (s : List Char) : strip s ⊆ s :=
  fun _ hc => stripLeft_subset s (stripRight_subset _ hc)

theorem indentOf_subset (s : List Char) : indentOf s ⊆ s :=
  List.takeWhile_subset isBlank

theorem splitLines_of_not_mem {s : List Char} (h : '\n' ∉ s) :
    splitLines s = [s] := by
  induction s with
  | nil => rfl
  | cons c rest ih =>
      rw [List.mem_cons, not_or] at h
      rw [splitLines, if_neg (Ne.symm h.1), ih h.2]

theorem splitAt_of_not_mem {mark : Char} {s : List Char} (h : mark ∉ s) :
    splitAt mark s = [s] := by
  induction s with
  | nil => rfl
  | cons c rest ih =>
      obtain ⟨hc, hrest⟩ := not_or.1 (mt List.mem_cons.2 h)
      rw [splitAt, if_neg (Ne.symm hc), ih hrest]

theorem joinWith_cons_of_ne_nil (separator line : List Char) {more : List (List Char)}
    (h : more ≠ []) :
    joinWith separator (line :: more) = line ++ separator ++ joinWith separator more := by
  cases more with
  | nil => exact absurd rfl h
  | cons next more => rfl

theorem joinWith_append (separator : List Char) {front more : List (List Char)}
    (hfront : front ≠ []) (hmore : more ≠ []) :
    joinWith separator (front ++ more) =
      joinWith separator front ++ separator ++ joinWith separator more := by
  induction front with
  | nil => exact absurd rfl hfront
  | cons line front ih =>
      cases front with
      | nil => exact joinWith_cons_of_ne_nil separator line hmore
      | cons next front =>
          rw [List.cons_append,
            joinWith_cons_of_ne_nil _ _ (List.append_ne_nil_of_right_ne_nil _ hmore),
            ih (List.cons_ne_nil _ _), joinWith_cons_of_ne_nil _ line (List.cons_ne_nil next front)]
          simp only [List.append_assoc]

theorem joinWith_splitLines (s : List Char) : joinWith ['\n'] (splitLines s) = s := by
  induction s with
  | nil => rfl
  | cons c rest ih =>
      rw [splitLines]
      split
      · next hc =>
          rw [joinWith_cons_of_ne_nil _ _ (splitLines_ne_nil rest), ih, hc]
          rfl
      · split
        · next hnil => exact absurd hnil (splitLines_ne_nil rest)
        · next line more hsplit =>
            rw [hsplit] at ih
            rw [← ih]
            cases more <;> rfl

theorem subset_of_mem_splitLines {s line : List Char} (h : line ∈ splitLines s) : line ⊆ s := by
  rw [← joinWith_splitLines s]
  generalize splitLines s = lines at h
  induction lines with
  | nil => cases h
  | cons first more ih =>
      intro c hc
      rcases List.mem_cons.1 h with rfl | hmem
      · cases more with
        | nil => exact hc
        | cons next more => exact List.mem_append_left _ (List.mem_append_left _ hc)
      · rw [joinWith_cons_of_ne_nil _ _ (List.ne_nil_of_mem hmem)]
        exact List.mem_append_right _ (ih hmem hc)

theorem not_mem_of_mem_splitLines {s : List Char} :
    ∀ {line : List Char}, line ∈ splitLines s → '\n' ∉ line := by
  induction s with
  | nil =>
      intro line h
      rw [splitLines, List.mem_singleton] at h
      rw [h]
      exact List.not_mem_nil
  | cons c rest ih =>
      intro line h
      rw [splitLines] at h
      split at h
      · rcases List.mem_cons.1 h with rfl | hmem
        · exact List.not_mem_nil
        · exact ih hmem
      · next hc =>
          split at h
          · next hnil => exact absurd hnil (splitLines_ne_nil rest)
          · next first more hsplit =>
              rcases List.mem_cons.1 h with rfl | hmem
              · have hfirst : '\n' ∉ first := ih (by rw [hsplit]; exact .head _)
                rw [List.mem_cons, not_or]
                exact ⟨Ne.symm hc, hfirst⟩
              · exact ih (by rw [hsplit]; exact .tail _ hmem)

theorem wholeLine_subset {s t : List Char} (h : wholeLine s = some t) : t ⊆ s := by
  have hspan : (s.span (· ≠ '\n')).1 ⊆ s := by
    rw [List.span_eq_takeWhile_dropWhile]
    exact List.takeWhile_subset _
  rw [wholeLine] at h
  split at h
  · next heq => cases h; rw [heq] at hspan; exact hspan
  · next heq => cases h; rw [heq] at hspan; exact hspan
  · cases h

theorem wholeLine_of_not_mem {s : List Char} (h : '\n' ∉ s) : wholeLine s = some s := by
  have hspan : s.span (· ≠ '\n') = (s, []) := by
    rw [List.span_eq_takeWhile_dropWhile]
    have hall : ∀ c ∈ s, decide (c ≠ '\n') = true :=
      fun c hc => decide_eq_true fun heq => h (heq ▸ hc)
    rw [List.takeWhile_eq_self_iff.2 hall, List.dropWhile_eq_nil_iff.2 hall]
  rw [wholeLine, hspan]

end Text

/-! ## Annotations -/

namespace Expectation

theorem splitComment_subset {line code comment : Line}
    (h : splitComment line = some (code, comment)) : code ⊆ line ∧ comment ⊆ line := by
  rw [splitComment] at h
  split at h
  · cases h
    exact ⟨List.nil_subset _, Text.stripLeft_subset line⟩
  · obtain ⟨i, _, heq⟩ := Option.map_eq_some_iff.1 h
    cases heq
    exact ⟨List.take_subset i line, List.drop_subset i line⟩

theorem dropMark_subset {word : String} {s t : List Char}
    (h : dropMark word s = some t) : t ⊆ s := by
  unfold dropMark at h
  extract_lets u at h
  have hu : u ⊆ s := by
    cases s with
    | nil => exact List.Subset.refl _
    | cons c rest =>
        by_cases hc : Text.isBlank c = true
        · simp only [u, if_pos hc]; exact List.subset_cons_self c rest
        · simp only [u, if_neg hc]; exact List.Subset.refl _
  split at h
  · cases h
    exact fun c hc => hu (List.drop_subset _ _ hc)
  · cases h

theorem foldlM_dropMark_subset {words : List String} :
    ∀ {s t : List Char}, words.foldlM (fun s word => dropMark word s) s = some t →
      t ⊆ s := by
  induction words with
  | nil =>
      intro s t h
      cases h
      exact List.Subset.refl _
  | cons word more ih =>
      intro s t h
      rw [List.foldlM_cons, Option.bind_eq_bind, Option.bind_eq_some_iff] at h
      obtain ⟨u, hu, hmore⟩ := h
      exact fun c hc => dropMark_subset hu (ih hmore hc)

theorem afterMarks_subset {words : List String} {comment t : Line}
    (h : afterMarks words comment = some t) : t ⊆ comment := by
  rw [afterMarks, Option.bind_eq_some_iff] at h
  obtain ⟨u, hu, ht⟩ := h
  intro c hc
  exact List.drop_subset 2 comment
    (foldlM_dropMark_subset hu (Text.wholeLine_subset ht hc))

/-- An annotation consists of characters of its line. -/
theorem withMarks?_subset {words : List String} {line : Line} {a : Expectation}
    (h : withMarks? words line = some a) : a.code ⊆ line ∧ a.expected ⊆ line := by
  rw [withMarks?] at h
  split at h
  · cases h
  · next code comment hsplit =>
      obtain ⟨hcode, hcomment⟩ := splitComment_subset hsplit
      obtain ⟨t, ht, heq⟩ := Option.map_eq_some_iff.1 h
      cases heq
      exact ⟨hcode, fun c hc => hcomment (afterMarks_subset ht (Text.strip_subset t hc))⟩

theorem eq_some_of_nonEmpty {found : Option Expectation} {a : Expectation}
    (h : nonEmpty found = some a) : found = some a := by
  rw [nonEmpty, Option.filter_eq_some_iff] at h
  exact h.1

end Expectation

/-! ## Generated statements

A piece that comes from the document is free of line feeds because its line
is; the rest of a statement is a text of the library, checked by evaluation. -/

namespace Assertion

theorem not_mem_equalCall {actual expected : List Char} (ha : '\n' ∉ actual)
    (he : '\n' ∉ expected) : '\n' ∉ equalCall actual expected := by
  unfold equalCall
  simp only [List.mem_append, ha, he, or_false]
  decide

theorem not_mem_drained : '\n' ∉ drained := by decide

theorem not_mem_place {statement : List Char} (h : '\n' ∉ statement)
    (inComment : Bool) : '\n' ∉ place statement inComment := by
  rw [place]
  split
  · unfold reopenComment
    simp only [List.mem_append, h, or_false]
    decide
  · exact h

theorem not_mem_expectOutput (text : Line) (inComment : Bool) :
    '\n' ∉ expectOutput text inComment :=
  not_mem_place (not_mem_equalCall (by decide) (Json.not_mem_quoteAscii text)) inComment

theorem not_mem_expectLogged {values : Line} (h : '\n' ∉ values)
    (inComment : Bool) : '\n' ∉ expectLogged values inComment := by
  refine not_mem_place (not_mem_equalCall (by decide) ?_) inComment
  simp only [List.mem_append, h, or_false]
  decide

theorem expression?_subset {line e : Line} (h : expression? line = some e) :
    e ⊆ line := by
  simp only [expression?] at h
  split at h
  · cases h
  · cases h
    intro c hc
    exact Text.stripLeft_subset line (Text.dropTrailing_subset _ _ hc)

theorem not_mem_capture {indent e : List Char} (hi : '\n' ∉ indent)
    (he : '\n' ∉ e) : '\n' ∉ capture indent e := by
  unfold capture
  simp only [List.mem_append, hi, he, or_false, false_or]
  decide

theorem not_mem_expectReturned {expected : Line} (h : '\n' ∉ expected) :
    '\n' ∉ expectReturned expected :=
  not_mem_equalCall (by decide) h

theorem not_mem_inlineReturn? {code expected stored : Line} (hc : '\n' ∉ code)
    (he : '\n' ∉ expected) (h : inlineReturn? code expected = some stored) :
    '\n' ∉ stored := by
  obtain ⟨e, hexpr, rfl⟩ := Option.map_eq_some_iff.1 h
  have hindent : '\n' ∉ Text.indentOf code := fun hm => hc (Text.indentOf_subset code hm)
  have hcapture : '\n' ∉ capture (Text.indentOf code) e :=
    not_mem_capture hindent fun hm => hc (expression?_subset hexpr hm)
  rw [List.mem_append, List.mem_cons, not_or, not_or]
  exact ⟨hcapture, by decide, not_mem_expectReturned he⟩

theorem not_mem_captureLine? {line expected stored compared : Line}
    (hl : '\n' ∉ line) (he : '\n' ∉ expected)
    (h : captureLine? line expected = some (stored, compared)) :
    '\n' ∉ stored ∧ '\n' ∉ compared := by
  obtain ⟨e, hexpr, heq⟩ := Option.map_eq_some_iff.1 h
  cases heq
  have hindent : '\n' ∉ Text.indentOf line := fun hm => hl (Text.indentOf_subset line hm)
  refine ⟨not_mem_capture hindent fun hm => hl (expression?_subset hexpr hm), ?_⟩
  rw [List.mem_append, not_or]
  exact ⟨hindent, not_mem_expectReturned he⟩

theorem not_mem_afterCode {code statement : List Char} (hc : '\n' ∉ code)
    (hs : '\n' ∉ statement) (inComment : Bool) :
    '\n' ∉ afterCode code statement inComment := by
  have hbody : '\n' ∉ Text.stripRight code :=
    fun hm => hc (Text.stripRight_subset code hm)
  simp only [afterCode]
  split
  · simp [hc, hs]
  · split
    · simp [hbody, hs]
    · simp [hbody, hs]

end Assertion

end DocExamples
