import DocExamples.Proofs.Document.Reading

/-!
# Tags of fences

A tag is accepted by one comparison and looked up by another. The comparison folds
letters, so that the long s is an `s` and both unusual forms of `i` are an `i`; the
table is asked for the tag in lower case, which leaves these three letters apart.
For every other letter the two agree, and a tag of such letters is always found.

So reading a text ends in one of three ways, and the third is known exactly: the
first line whose accepted tag holds one of the three letters decides it.
-/

namespace DocExamples

/-- The letters that agree with a letter of some tag and keep apart from it in lower
case: the long s, the dotless i and the capital i with a dot. -/
def Fence.strayLetters : List Char := ['ſ', 'ı', 'İ']

namespace Text

/-- Where neither of the two letters with a lower case of their own occurs, lower case
goes letter by letter. -/
theorem lowerFrom_eq_map {before s : List Char}
    (h : ∀ c ∈ s, c.toNat ≠ 0x130 ∧ c.toNat ≠ 0x3A3) :
    lowerFrom before s = s.map lowerChar := by
  induction s generalizing before with
  | nil => rfl
  | cons c rest ih =>
      obtain ⟨⟨hdotted, hsigma⟩, hrest⟩ := List.forall_mem_cons.1 h
      rw [lowerFrom, if_neg hdotted, if_neg hsigma, ih hrest]
      rfl

theorem exists_form_of_stray : ∀ c ∈ Fence.strayLetters, c.toNat ≠ 0x3A3 ∧
    ∃ d ∈ (if c.toNat = 0x130 then [Char.ofNat 0x69, Char.ofNat 0x307] else [lowerChar c]),
      128 ≤ d.toNat := by
  simp only [Fence.strayLetters, List.forall_mem_cons]
  exact ⟨⟨by decide, 'ſ', .head _, by decide⟩, ⟨by decide, 'ı', .head _, by decide⟩,
    ⟨by decide, Char.ofNat 0x307, .tail _ (.head _), by decide⟩, List.forall_mem_nil _⟩

/-- In lower case each of the three letters leaves a character that is not ASCII. -/
theorem exists_mem_lowerFrom {c : Char} (hc : c ∈ Fence.strayLetters) {s : List Char}
    (hs : c ∈ s) (before : List Char) : ∃ d ∈ lowerFrom before s, 128 ≤ d.toNat := by
  induction s generalizing before with
  | nil => exact absurd hs List.not_mem_nil
  | cons first rest ih =>
      rcases List.mem_cons.1 hs with rfl | hrest
      · obtain ⟨hsigma, d, hd, hlarge⟩ := exists_form_of_stray c hc
        refine ⟨d, ?_, hlarge⟩
        rw [lowerFrom, if_neg hsigma]
        exact List.mem_append_left _ hd
      · obtain ⟨d, hd, hlarge⟩ := ih hrest (first :: before)
        refine ⟨d, ?_, hlarge⟩
        rw [lowerFrom]
        exact List.mem_append_right _ hd

end Text

namespace Fence

theorem ascii_of_mem_languages :
    ∀ x ∈ languages, ∀ c ∈ x.1, c.toNat < 128 := by
  have hall : (languages.all fun x => x.1.all (·.toNat < 128)) = true := rfl
  simpa only [List.all_eq_true, decide_eq_true_eq] using hall

/-- An accepted tag is a tag of the table once its letters are folded. -/
theorem mem_languages_of_tag? {line : Line} {tag : List Char} (h : tag? line = some tag) :
    ∃ language, (tag.map foldChar, language) ∈ languages := by
  simp only [tag?] at h
  split at h
  · split at h
    · next hany =>
        cases h
        obtain ⟨⟨key, language⟩, hmem, hkey⟩ := List.any_eq_true.1 hany
        rw [decide_eq_true_eq] at hkey
        exact ⟨language, hkey ▸ hmem⟩
    · cases h
  · cases h

/-- Apart from the three letters, folding a tag is the same as putting it in lower
case. -/
theorem lower_eq_map_foldChar {tag : List Char} {language : Language}
    (hmem : (tag.map foldChar, language) ∈ languages) (h : ∀ c ∈ tag, c ∉ strayLetters) :
    Text.lower tag = tag.map foldChar := by
  have hfold : ∀ c ∈ tag, foldChar c = Text.lowerChar c := by
    intro c hc
    have hnot := h c hc
    simp only [strayLetters, List.mem_cons, List.not_mem_nil, or_false, not_or] at hnot
    rw [foldChar, if_neg hnot.1, if_neg (not_or.2 hnot.2)]
  rw [Text.lower, Text.lowerFrom_eq_map, List.map_congr_left hfold]
  intro c hc
  refine ⟨fun hdotted => ?_, fun hsigma => ?_⟩
  · have hc' : c = 'İ' := Char.toNat_inj.1 hdotted
    exact h c hc (hc' ▸ by decide)
  · -- a sigma folds to a letter of no tag
    have hc' : c = 'Σ' := Char.toNat_inj.1 hsigma
    have hlt := ascii_of_mem_languages _ hmem (foldChar c) (List.mem_map_of_mem hc)
    rw [hc'] at hlt
    exact absurd hlt (by decide)

theorem language?_of_tag? {line : Line} {tag : List Char} (h : tag? line = some tag) :
    language? line = match languages.find? (·.1 = Text.lower tag) with
      | some (_, language) => .ok (some language)
      | none => .error ⟨Text.lower tag⟩ := by
  cases hfind : languages.find? (·.1 = Text.lower tag) <;> simp only [language?, h, hfind]

/-- A tag without the three letters is found, as the tag that it folds to. -/
theorem language?_of_not_stray {line : Line} {tag : List Char} (h : tag? line = some tag)
    (hstray : ∀ c ∈ tag, c ∉ strayLetters) :
    ∃ language, (tag.map foldChar, language) ∈ languages ∧
      language? line = .ok (some language) := by
  obtain ⟨language, hmem⟩ := mem_languages_of_tag? h
  rw [language?_of_tag? h, lower_eq_map_foldChar hmem hstray]
  cases hfind : languages.find? (·.1 = tag.map foldChar) with
  | none =>
      have hno := List.find?_eq_none.1 hfind _ hmem
      exact absurd (decide_eq_true rfl) hno
  | some found =>
      have hkey := List.find?_some hfind
      rw [decide_eq_true_eq] at hkey
      exact ⟨found.2, hkey ▸ List.mem_of_find?_eq_some hfind, rfl⟩

/-- A tag with one of the three letters is accepted and not found. -/
theorem language?_of_stray {line : Line} {tag : List Char} (h : tag? line = some tag)
    (hstray : ∃ c ∈ tag, c ∈ strayLetters) :
    language? line = .error ⟨Text.lower tag⟩ := by
  obtain ⟨c, hc, hcs⟩ := hstray
  have hnone : languages.find? (·.1 = Text.lower tag) = none := by
    refine List.find?_eq_none.2 fun x hx hkey => ?_
    obtain ⟨d, hd, hlarge⟩ := Text.exists_mem_lowerFrom hcs hc []
    have hlt := ascii_of_mem_languages x hx d (by rw [of_decide_eq_true hkey]; exact hd)
    omega
  rw [language?_of_tag? h, hnone]

theorem language?_eq_error_iff_of_tag? {line : Line} {tag : List Char}
    (h : tag? line = some tag) :
    language? line = .error ⟨Text.lower tag⟩ ↔ ∃ c ∈ tag, c ∈ strayLetters := by
  refine ⟨fun herror => ?_, language?_of_stray h⟩
  by_contra hno
  obtain ⟨language, _, hok⟩ := language?_of_not_stray h fun c hc hcs => hno ⟨c, hc, hcs⟩
  rw [hok] at herror
  cases herror

/-- The line opens an example whose tag holds one of the three letters. -/
def Stray (line : Line) : Prop := ∃ tag, tag? line = some tag ∧ ∃ c ∈ tag, c ∈ strayLetters

theorem language?_eq_error_iff {line : Line} :
    (∃ t, language? line = .error t) ↔ Stray line := by
  constructor
  · rintro ⟨t, ht⟩
    cases htag : tag? line with
    | none =>
        rw [language?, htag] at ht
        cases ht
    | some tag =>
        refine ⟨tag, htag, ?_⟩
        by_contra hno
        obtain ⟨language, _, hok⟩ :=
          language?_of_not_stray htag fun c hc hcs => hno ⟨c, hc, hcs⟩
        rw [hok] at ht
        cases ht
  · rintro ⟨tag, htag, hstray⟩
    exact ⟨_, language?_of_stray htag hstray⟩

theorem kind_eq_error_iff {line : Line} {t : UnknownTag} :
    kind line = .error t ↔ language? line = .error t := by
  rw [kind_eq]
  cases language? line with
  | error e =>
      exact ⟨fun h => congrArg _ (Except.error.inj h), fun h => congrArg _ (Except.error.inj h)⟩
  | ok found =>
      cases found with
      | some language => exact iff_of_false (nomatch ·) (nomatch ·)
      | none =>
          dsimp only
          split_ifs <;> exact iff_of_false (nomatch ·) (nomatch ·)

end Fence

/-- Where something holds of an element of a list, there is a first such element. -/
theorem exists_first {α : Type} {P : α → Prop} {xs : List α} (h : ∃ x ∈ xs, P x) :
    ∃ before x after, xs = before ++ x :: after ∧ (∀ y ∈ before, ¬ P y) ∧ P x := by
  classical
  obtain ⟨y, hy, hP⟩ := h
  cases hfind : xs.find? (P ·) with
  | none => exact absurd (decide_eq_true hP) (List.find?_eq_none.1 hfind y hy)
  | some x =>
      obtain ⟨hx, before, after, hsplit, hclear⟩ := List.find?_eq_some_iff_append.1 hfind
      exact ⟨before, x, after, hsplit, fun z hz => by simpa using hclear z hz,
        of_decide_eq_true hx⟩

namespace Parse

theorem step_eq_error_iff {p : Parse} {line : Line} {number : Nat} {t : UnknownTag} :
    p.step line number = .error t ↔ Fence.language? line = .error t := by
  rw [step_eq, ← Fence.kind_eq_error_iff]
  cases Fence.kind line with
  | error e =>
      exact ⟨fun h => congrArg _ (Except.error.inj h), fun h => congrArg _ (Except.error.inj h)⟩
  | ok kind => exact iff_of_false (nomatch ·) (nomatch ·)

/-- Reading stops at the first line whose tag is accepted and not found. -/
theorem steps_eq_error_iff {p : Parse} {number : Nat} {lines : List Line} {t : UnknownTag} :
    p.steps number lines = .error t ↔
      ∃ before line after, lines = before ++ line :: after ∧
        (∀ l ∈ before, ¬ Fence.Stray l) ∧ Fence.language? line = .error t := by
  induction lines generalizing p number with
  | nil =>
      refine iff_of_false (nomatch ·) ?_
      rintro ⟨before, line, after, hsplit, _⟩
      cases before <;> cases hsplit
  | cons first more ih =>
      rw [steps]
      cases hstep : p.step first number with
      | error e =>
          have he := step_eq_error_iff.1 hstep
          constructor
          · rintro ⟨⟩
            exact ⟨[], first, more, rfl, List.forall_mem_nil _, he⟩
          · rintro ⟨before, line, after, hsplit, hclear, ht⟩
            cases before with
            | nil =>
                cases hsplit
                rw [he] at ht
                cases ht
                rfl
            | cons x xs =>
                cases hsplit
                exact absurd (Fence.language?_eq_error_iff.1 ⟨e, he⟩) (hclear first (.head _))
      | ok next =>
          have hclearFirst : ¬ Fence.Stray first := by
            intro hstray
            obtain ⟨e, he⟩ := Fence.language?_eq_error_iff.2 hstray
            rw [step_eq_error_iff.2 he] at hstep
            cases hstep
          rw [ih]
          constructor
          · rintro ⟨before, line, after, rfl, hclear, ht⟩
            exact ⟨first :: before, line, after, rfl,
              List.forall_mem_cons.2 ⟨hclearFirst, hclear⟩, ht⟩
          · rintro ⟨before, line, after, hsplit, hclear, ht⟩
            cases before with
            | nil =>
                cases hsplit
                exact absurd (Fence.language?_eq_error_iff.1 ⟨t, ht⟩) hclearFirst
            | cons x xs =>
                cases hsplit
                exact ⟨xs, line, after, rfl, (List.forall_mem_cons.1 hclear).2, ht⟩

/-- A line of the text opens an example whose tag holds one of the three letters. -/
def Strays (text : String) : Prop := ∃ line ∈ Text.splitLines text.toList, Fence.Stray line

theorem parseSnippets_eq_unknownTag_iff {text path : String} {t : UnknownTag} :
    parseSnippets text path = .error (.unknownTag t) ↔
      ({} : Parse).steps 1 (Text.splitLines text.toList) = .error t := by
  rw [parseSnippets]
  split
  · next e h =>
      rw [h]
      exact ⟨fun h => by cases h; rfl, fun h => by cases h; rfl⟩
  · next p h =>
      rw [h]
      refine iff_of_false (fun h => ?_) (nomatch ·)
      split at h <;> cases h

/-- Reading a text fails by an unknown tag exactly if one of its lines has one. -/
theorem exists_unknownTag_iff {text : String} (path : String) :
    (∃ t, parseSnippets text path = .error (.unknownTag t)) ↔ Strays text := by
  simp only [parseSnippets_eq_unknownTag_iff, steps_eq_error_iff]
  constructor
  · rintro ⟨t, before, line, after, hsplit, _, ht⟩
    exact ⟨line, hsplit ▸ List.mem_append_right _ (.head _),
      Fence.language?_eq_error_iff.1 ⟨t, ht⟩⟩
  · intro hstrays
    obtain ⟨before, line, after, hsplit, hclear, hstray⟩ := exists_first hstrays
    obtain ⟨t, ht⟩ := Fence.language?_eq_error_iff.2 hstray
    exact ⟨t, before, line, after, hsplit, hclear, ht⟩

end Parse

end DocExamples
