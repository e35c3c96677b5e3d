import DocExamples.Document.Parse
import DocExamples.Proofs.Document.Lines
import Mathlib.Data.List.DropRight

/-!
# Reading a document line by line

`Parse.steps` is a fold that stops at a tag it does not know. This file turns it
into the form that statements about documents need: `Parse.after lines n` is
what has been read after the first `n` lines, one more line is one more step,
and what holds at the start and through every step holds after every line.

The kind of a line is decided by the line without the blanks around it, so the
carriage returns that a step drops first make no difference to it. Hence the
four kinds that matter can be told on the lines of the document as they stand.
-/

namespace DocExamples

/-! ## Trimming twice -/

namespace Text

theorem dropTrailing_append_of_all {p : Char → Bool} {s t : List Char}
    (h : ∀ c ∈ t, p c = true) : dropTrailing p (s ++ t) = dropTrailing p s := by
  have ht : ∀ c ∈ t.reverse, p c = true := fun c hc => h c (List.mem_reverse.1 hc)
  rw [dropTrailing, dropTrailing, List.reverse_append,
    List.dropWhile_append_of_pos ht]

/-- What trimming drops at the end of a text, put back. -/
theorem dropTrailing_append_rtakeWhile (p : Char → Bool) (s : List Char) :
    dropTrailing p s ++ s.rtakeWhile p = s :=
  List.rdropWhile_append_rtakeWhile

theorem dropTrailing_isPrefix (p : Char → Bool) (s : List Char) : dropTrailing p s <+: s :=
  ⟨s.rtakeWhile p, dropTrailing_append_rtakeWhile p s⟩

/-- What stands in front of a character that is kept stays. -/
theorem dropTrailing_append_cons_of_not {p : Char → Bool} {c : Char} (hc : p c = false)
    (s t : List Char) : dropTrailing p (s ++ c :: t) = s ++ c :: dropTrailing p t := by
  rw [dropTrailing, dropTrailing, List.reverse_append, List.reverse_cons, List.append_assoc,
    List.singleton_append, List.dropWhile_append]
  split
  · next hempty =>
      rw [List.isEmpty_iff] at hempty
      rw [hempty, List.dropWhile_cons_of_neg (by rw [hc]; exact Bool.false_ne_true)]
      simp
  · simp

/-- A mark at the front stays there, if its last character is one that is kept. -/
theorem prefix_dropTrailing_iff {p : Char → Bool} {mark : List Char}
    (hmark : mark.getLast?.any (fun c => !p c) = true) (s : List Char) :
    mark <+: dropTrailing p s ↔ mark <+: s := by
  constructor
  · exact fun h => h.trans (dropTrailing_isPrefix p s)
  · rintro ⟨t, rfl⟩
    obtain ⟨c, hlast, hc⟩ := (Option.any_eq_true _ _).1 hmark
    obtain ⟨front, rfl⟩ := List.getLast?_eq_some_iff.1 hlast
    rw [List.append_assoc, List.singleton_append,
      dropTrailing_append_cons_of_not ((Bool.not_eq_true' _).mp hc)]
    exact ⟨dropTrailing p t, by rw [List.append_assoc, List.singleton_append]⟩

theorem strip_append_of_all {s t : List Char} (h : ∀ c ∈ t, isBlank c = true) :
    strip (s ++ t) = strip s := by
  rw [strip, strip, stripLeft, stripLeft, List.dropWhile_append]
  split
  · next hempty =>
      rw [List.isEmpty_iff] at hempty
      rw [hempty, List.dropWhile_eq_nil_iff.2 h]
  · exact dropTrailing_append_of_all h

theorem strip_dropTrailing {p : Char → Bool} (hp : ∀ c, p c = true → isBlank c = true)
    (s : List Char) : strip (dropTrailing p s) = strip s := by
  have h : strip (dropTrailing p s ++ s.rtakeWhile p) = strip (dropTrailing p s) :=
    strip_append_of_all fun c hc => hp c (List.mem_rtakeWhile_imp hc)
  rw [dropTrailing_append_rtakeWhile] at h
  exact h.symm

theorem strip_stripLeft (s : List Char) : strip (stripLeft s) = strip s := by
  rw [strip, stripLeft, stripLeft, List.dropWhile_idempotent]
  rfl

theorem strip_strip (s : List Char) : strip (strip s) = strip s := by
  have h : strip (strip s) = strip (stripLeft s) :=
    strip_dropTrailing (fun _ hc => hc) (stripLeft s)
  rw [h, strip_stripLeft]

end Text

/-! ## The kind of a line -/

namespace Fence

theorem language?_strip (line : Line) : language? (Text.strip line) = language? line := by
  unfold language? tag?
  rw [Text.strip_strip]

/-- The kind of a line, by the questions in the order in which they are asked. -/
theorem kind_eq (line : Line) :
    kind line = match language? line with
      | .error e => .error e
      | .ok (some language) => .ok (.opening language)
      | .ok none =>
        if Text.strip line = mark then .ok .closing
        else if Text.strip line = skipDirective then .ok .skipNext
        else if Text.strip line = shareDirective then .ok .share
        else .ok .body := by
  unfold kind
  simp only [language?_strip]
  cases language? line with
  | error e => rfl
  | ok found =>
      cases found with
      | some language => rfl
      | none => simp only [bind, Except.bind]; split_ifs <;> rfl

theorem kind_congr {line line' : Line} (h : Text.strip line = Text.strip line') :
    kind line = kind line' := by
  rw [kind_eq, kind_eq, ← language?_strip line, ← language?_strip line', h]

theorem kind_eq_opening_iff {line : Line} {language : Language} :
    kind line = .ok (.opening language) ↔ language? line = .ok (some language) := by
  rw [kind_eq]
  constructor
  · intro h
    split at h
    · cases h
    · next hl => cases h; exact hl
    · split_ifs at h <;> cases h
  · intro h
    rw [h]

/-- The line that a kind is, for the kinds that are one line. -/
def Kind.mark? : Kind → Option Line
  | closing => some mark
  | skipNext => some skipDirective
  | share => some shareDirective
  | _ => none

theorem kind_eq_iff_strip {line s : Line} {k : Kind} (hk : k.mark? = some s) :
    kind line = .ok k ↔ Text.strip line = s := by
  constructor
  · intro h
    rw [kind_eq] at h
    split at h
    · cases h
    · cases h; cases hk
    · split_ifs at h with hm hs hh
      · cases h; cases hk; exact hm
      · cases h; cases hk; exact hs
      · cases h; cases hk; exact hh
      · cases h; cases hk
  · rintro rfl
    have hself : kind line = kind (Text.strip line) := kind_congr (Text.strip_strip line).symm
    generalize Text.strip line = s at hself hk
    rw [hself]
    cases k <;> cases hk <;> rfl

end Fence

/-! ## Lines in order -/

namespace Parse

/-- A line without the carriage returns at its end, which do not belong to it. -/
def content (line : Line) : Line := Text.dropTrailing (· == '\r') line

theorem content_subset (line : Line) : content line ⊆ line :=
  Text.dropTrailing_subset _ line

theorem not_mem_content {line : Line} (h : '\n' ∉ line) : '\n' ∉ content line :=
  fun hm => h (content_subset line hm)

theorem strip_content (line : Line) : Text.strip (content line) = Text.strip line := by
  refine Text.strip_dropTrailing (fun c hc => ?_) line
  rw [eq_of_beq hc]
  rfl

theorem kind_content (line : Line) : Fence.kind (content line) = Fence.kind line :=
  Fence.kind_congr (strip_content line)

theorem step_eq (p : Parse) (line : Line) (number : Nat) :
    p.step line number = (Fence.kind line).map (p.stepKind (content line) number) := by
  rw [← kind_content]
  rfl

theorem step_eq_ok {p q : Parse} {line : Line} {number : Nat}
    (h : p.step line number = .ok q) :
    ∃ kind, Fence.kind line = .ok kind ∧ q = p.stepKind (content line) number kind := by
  rw [step_eq] at h
  cases hk : Fence.kind line with
  | error e => rw [hk] at h; cases h
  | ok kind => rw [hk] at h; cases h; exact ⟨kind, rfl, rfl⟩

theorem steps_append {p : Parse} {number : Nat} {xs ys : List Line} :
    p.steps number (xs ++ ys) =
      (p.steps number xs).bind fun q => q.steps (number + xs.length) ys := by
  induction xs generalizing p number with
  | nil => rfl
  | cons line more ih =>
      rw [List.cons_append, steps, steps]
      cases p.step line number with
      | error e => rfl
      | ok q =>
          dsimp only
          rw [ih, List.length_cons, Nat.add_assoc, Nat.add_comm 1]

/-- What has been read after the first `n` lines. -/
def after (lines : List Line) (n : Nat) : Except UnknownTag Parse :=
  ({} : Parse).steps 1 (lines.take n)

theorem after_succ {lines : List Line} {n : Nat} {line : Line}
    (h : lines[n]? = some line) :
    after lines (n + 1) = (after lines n).bind (·.step line (n + 1)) := by
  obtain ⟨hn, hline⟩ := List.getElem?_eq_some_iff.1 h
  rw [after, after, List.take_add_one, h, Option.toList_some, steps_append,
    List.length_take, Nat.min_eq_left (Nat.le_of_lt hn), Nat.add_comm 1 n]
  congr 1
  funext p
  rw [steps]
  cases p.step line (n + 1) <;> rfl

/-- One more line is one more step. -/
theorem after_succ_eq_ok {lines : List Line} {n : Nat} {line : Line} {q : Parse}
    (h : lines[n]? = some line) (hq : after lines (n + 1) = .ok q) :
    ∃ p kind, after lines n = .ok p ∧ Fence.kind line = .ok kind ∧
      q = p.stepKind (content line) (n + 1) kind := by
  rw [after_succ h] at hq
  cases hp : after lines n with
  | error e => rw [hp] at hq; cases hq
  | ok p =>
      rw [hp] at hq
      obtain ⟨kind, hk, heq⟩ := step_eq_ok hq
      exact ⟨p, kind, rfl, hk, heq⟩

/-- What holds at the start and through every step holds after every line. -/
theorem after_induction {lines : List Line} {P : Nat → Parse → Prop} (h0 : P 0 {})
    (hstep : ∀ n line p kind, lines[n]? = some line → after lines n = .ok p →
      P n p → Fence.kind line = .ok kind →
      P (n + 1) (p.stepKind (content line) (n + 1) kind)) :
    ∀ {n : Nat} {p : Parse}, n ≤ lines.length → after lines n = .ok p → P n p := by
  intro n
  induction n with
  | zero =>
      intro p _ hp
      cases hp
      exact h0
  | succ n ih =>
      intro q hn hq
      have hline : lines[n]? = some lines[n] := List.getElem?_eq_getElem hn
      obtain ⟨p, kind, hp, hk, rfl⟩ := after_succ_eq_ok hline hq
      exact hstep n lines[n] p kind hline hp (ih (Nat.le_of_lt hn) hp) hk

/-! ## The examples so far -/

theorem mem_drafts {p : Parse} {x : Draft × Bool} :
    x ∈ p.drafts ↔ x ∈ p.older ∨ ∃ d, p.current = some d ∧ x = (d, false) := by
  rw [drafts, List.mem_append, List.mem_reverse, Option.mem_toList,
    Option.map_eq_some_iff]
  simp only [eq_comm]

/-- A closing fence ends the open example. -/
theorem mem_drafts_closing {p : Parse} {line : Line} {number : Nat} {x : Draft × Bool}
    (h : x ∈ (p.stepKind line number .closing).drafts) :
    x ∈ p.older ∨ ∃ d, p.current = some d ∧ x = (d.finishLines, true) := by
  rcases mem_drafts.1 h with hold | ⟨d, hd, _⟩
  · rw [stepKind, setAside] at hold
    cases hc : p.current with
    | none => rw [hc] at hold; exact .inl hold
    | some d =>
        rw [hc] at hold
        rcases List.mem_cons.1 hold with rfl | hmem
        · exact .inr ⟨d, rfl, rfl⟩
        · exact .inl hmem
  · cases hd

/-- An opening fence sets the open example aside as it is. -/
theorem mem_drafts_opening {p : Parse} {line : Line} {number : Nat}
    {language : Language} {x : Draft × Bool}
    (h : x ∈ (p.stepKind line number (.opening language)).drafts) :
    x ∈ p.drafts ∨ x = (Draft.start number language p.skipNext, false) := by
  rcases mem_drafts.1 h with hold | ⟨d, hd, rfl⟩
  · rw [stepKind, setAside] at hold
    cases hc : p.current with
    | none => rw [hc] at hold; exact .inl (mem_drafts.2 (.inl hold))
    | some d =>
        rw [hc] at hold
        rcases List.mem_cons.1 hold with rfl | hmem
        · exact .inl (mem_drafts.2 (.inr ⟨d, hc, rfl⟩))
        · exact .inl (mem_drafts.2 (.inl hmem))
  · cases hd
    exact .inr rfl

theorem parseSnippets_eq (text path : String) :
    parseSnippets text path =
      match after (Text.splitLines text.toList) (Text.splitLines text.toList).length with
      | .error e => .error (.unknownTag e)
      | .ok p =>
        match p.drafts.find? (!·.2) with
        | some (d, _) => .error (.unclosedFence d.startLine)
        | none => .ok ⟨path, p.drafts.map fun d => d.1.toSnippet path, p.shares⟩ := by
  rw [after, List.take_length]
  rfl

end Parse

end DocExamples
