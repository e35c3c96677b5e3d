import DocExamples.Proofs.Document.Standing
import DocExamples.Report.Details

/-!
# What is cut off a diagnostic

A report shows the part of a diagnostic that stands in front of the frames of the stack. The place
of the cut is found by a search for blanks at the start of a line, the word `at` and one more blank.
Line feeds are blanks too, so what is found may begin some blank lines above the line with the word.

Nothing comes of that as long as the line is indented: the blank lines above it are at the end of
what is shown, where blanks are dropped anyway. But below a blank line the word is found at the
start of a line as well, and a message that goes on there with "at least one argument" loses its
end. So the lines that are taken for frames are more than the frames. `TakenAt` says which they are;
they are told apart from the frames, `FrameLineAt`, by nothing but the blanks in front of the word.

What is left after the cut does not change any more. A front of a text has no match that the text
has not, since a match never looks at what stands behind it, and where the cut is made there was
none further left.
-/

namespace DocExamples.Details

/-! ## Places in a text -/

/-- Holds of a front of a text behind which a line begins. The flag says whether one begins at the
start of the text. -/
def StartsLine (atStart : Bool) (front : List Char) : Prop :=
  front.getLast?.elim atStart (· == '\n') = true

/-- Holds of a text that starts like a frame of a stack: blanks, the word `at` and a blank. -/
def StartsFrame (s : List Char) : Prop :=
  ∃ indent c rest, s = indent ++ 'a' :: 't' :: c :: rest ∧ indent ≠ [] ∧
    Text.isAllBlank indent = true ∧ Text.isBlank c = true

/-- The pattern of frames matches between two parts of a text. -/
def FrameAt (front behind : List Char) : Prop := StartsLine true front ∧ StartsFrame behind

/-- The first place in a text between two parts of which `P` holds. -/
structure IsFirst (P : List Char → List Char → Prop) (s front behind : List Char) : Prop where
  eq : s = front ++ behind
  holds : P front behind
  le : ∀ f g, s = f ++ g → P f g → front.length ≤ f.length

theorem IsFirst.unique {P : List Char → List Char → Prop}
    {s front behind front' behind' : List Char} (h : IsFirst P s front behind)
    (h' : IsFirst P s front' behind') : front = front' ∧ behind = behind' := by
  have hlength : front.length = front'.length :=
    Nat.le_antisymm (h.le front' behind' h'.eq h'.holds) (h'.le front behind h.eq h.holds)
  exact List.append_inj (h.eq.symm.trans h'.eq) hlength

theorem exists_isFirst {P : List Char → List Char → Prop} {s front behind : List Char}
    (hs : s = front ++ behind) (h : P front behind) : ∃ f g, IsFirst P s f g := by
  induction hlength : front.length using Nat.strong_induction_on generalizing front behind with
  | _ n ih =>
      by_cases hmin : ∀ f g, s = f ++ g → P f g → front.length ≤ f.length
      · exact ⟨front, behind, hs, h, hmin⟩
      · push Not at hmin
        obtain ⟨f, g, hs', h', hlt⟩ := hmin
        exact ih f.length (hlength ▸ hlt) hs' h' rfl

theorem startsLine_cons {atStart : Bool} {c : Char} {front : List Char} :
    StartsLine atStart (c :: front) ↔ StartsLine (c == '\n') front := by
  rw [StartsLine, StartsLine, List.getLast?_cons]
  cases front.getLast? <;> rfl

theorem startsLine_concat (atStart : Bool) (front : List Char) :
    StartsLine atStart (front ++ ['\n']) := by
  rw [StartsLine, List.getLast?_concat]
  rfl

theorem not_mem_of_isAllBlank {s : List Char} (h : Text.isAllBlank s = true) {c : Char}
    (hc : Text.isBlank c = false) : c ∉ s := by
  intro hmem
  rw [List.all_eq_true.1 h c hmem] at hc
  exact nomatch hc

theorem isFrame_iff (s : List Char) : isFrame s = true ↔ StartsFrame s := by
  have hboth := List.takeWhile_append_dropWhile (p := Text.isBlank) (l := s)
  rw [isFrame, List.span_eq_takeWhile_dropWhile]
  constructor
  · intro h
    cases htake : s.takeWhile Text.isBlank with
    | nil =>
        rw [htake] at h
        exact absurd h Bool.false_ne_true
    | cons b blanks =>
        have hindent : Text.isAllBlank (b :: blanks) = true := by
          rw [← htake, Text.isAllBlank, List.all_eq_true]
          exact fun x hx => List.mem_takeWhile_imp hx
        rw [htake] at h hboth
        rcases hdrop : s.dropWhile Text.isBlank with _ | ⟨x, _ | ⟨y, _ | ⟨c, rest⟩⟩⟩ <;>
          rw [hdrop] at h hboth
        · exact absurd h Bool.false_ne_true
        · simp at h
        · simp at h
        · by_cases hword : x = 'a' ∧ y = 't'
          · obtain ⟨rfl, rfl⟩ := hword
            exact ⟨b :: blanks, c, rest, hboth.symm, List.cons_ne_nil _ _, hindent, h⟩
          · simp_all
  · rintro ⟨indent, c, rest, rfl, hne, hblank, hc⟩
    have hindent := List.all_eq_true.1 hblank
    rw [List.takeWhile_append_of_pos hindent, List.dropWhile_append_of_pos hindent]
    obtain ⟨b, blanks, rfl⟩ := List.exists_cons_of_ne_nil hne
    exact hc

theorem StartsFrame.append {s : List Char} (h : StartsFrame s) (t : List Char) :
    StartsFrame (s ++ t) := by
  obtain ⟨indent, c, rest, rfl, hne, hblank, hc⟩ := h
  exact ⟨indent, c, rest ++ t, by simp, hne, hblank, hc⟩

theorem StartsFrame.ne_nil {s : List Char} (h : StartsFrame s) : s ≠ [] := by
  obtain ⟨indent, c, rest, rfl, -, -, -⟩ := h
  exact List.append_ne_nil_of_right_ne_nil _ (List.cons_ne_nil _ _)

theorem StartsFrame.blanks_append {blanks s : List Char} (hblanks : Text.isAllBlank blanks = true)
    (h : StartsFrame s) : StartsFrame (blanks ++ s) := by
  obtain ⟨indent, c, rest, rfl, hne, hindent, hc⟩ := h
  refine ⟨blanks ++ indent, c, rest, (List.append_assoc _ _ _).symm, ?_, ?_, hc⟩
  · exact List.append_ne_nil_of_right_ne_nil _ hne
  · rw [Text.isAllBlank_append, hblanks, hindent]
    rfl

/-! ## The search -/

/-- The search finds the first place where a line starts like a frame, if there is one. -/
theorem beforeFrame?_spec (atStart : Bool) (s : List Char) :
    (beforeFrame? atStart s = none ∧
        ∀ front behind, s = front ++ behind → StartsLine atStart front → ¬ StartsFrame behind) ∨
      ∃ front behind, beforeFrame? atStart s = some front ∧
        IsFirst (fun f g => StartsLine atStart f ∧ StartsFrame g) s front behind := by
  induction s generalizing atStart with
  | nil =>
      refine .inl ⟨rfl, fun front behind hs _ hframe => ?_⟩
      exact hframe.ne_nil (List.append_eq_nil_iff.1 hs.symm).2
  | cons c rest ih =>
      by_cases hhere : atStart = true ∧ StartsFrame (c :: rest)
      · refine .inr ⟨[], c :: rest, ?_, rfl, hhere, fun _ _ _ _ => Nat.zero_le _⟩
        rw [beforeFrame?, hhere.1, (isFrame_iff _).2 hhere.2]
        rfl
      -- A place behind the first character is one of the rest.
      have hplace : ∀ f g, c :: rest = f ++ g → StartsLine atStart f ∧ StartsFrame g →
          ∃ f', f = c :: f' ∧ rest = f' ++ g ∧ StartsLine (c == '\n') f' := by
        rintro (_ | ⟨c', f⟩) g hs ⟨hline, hframe⟩
        · exact absurd ⟨hline, by rw [hs]; exact hframe⟩ hhere
        · obtain ⟨rfl, hrest⟩ := List.cons.inj hs
          exact ⟨f, rfl, hrest, startsLine_cons.1 hline⟩
      have hstep : beforeFrame? atStart (c :: rest) =
          (beforeFrame? (c == '\n') rest).map (c :: ·) := by
        rw [beforeFrame?, if_neg]
        rw [Bool.and_eq_true, isFrame_iff]
        exact hhere
      rcases ih (c == '\n') with ⟨hnone, hall⟩ | ⟨front, behind, hsome, hfirst⟩
      · refine .inl ⟨by rw [hstep, hnone]; rfl, fun f g hs hline hframe => ?_⟩
        obtain ⟨f', -, hrest, hline'⟩ := hplace f g hs ⟨hline, hframe⟩
        exact hall f' g hrest hline' hframe
      · refine .inr ⟨c :: front, behind, by rw [hstep, hsome]; rfl, ?_, ?_, ?_⟩
        · rw [hfirst.eq, List.cons_append]
        · exact ⟨startsLine_cons.2 hfirst.holds.1, hfirst.holds.2⟩
        · intro f g hs hboth
          obtain ⟨f', rfl, hrest, hline'⟩ := hplace f g hs hboth
          exact Nat.succ_le_succ (hfirst.le f' g hrest ⟨hline', hboth.2⟩)

theorem relevant_of_none {d : List Char} (h : ∀ front behind, d = front ++ behind →
    ¬ FrameAt front behind) : relevant d = Text.stripRight d := by
  rcases beforeFrame?_spec true d with ⟨hnone, -⟩ | ⟨front, behind, -, hfirst⟩
  · rw [relevant, hnone]
  · exact absurd hfirst.holds (h front behind hfirst.eq)

theorem relevant_of_first {d front behind : List Char} (h : IsFirst FrameAt d front behind) :
    relevant d = Text.stripRight (if front = [] then d else front) := by
  rcases beforeFrame?_spec true d with ⟨-, hall⟩ | ⟨f, g, hsome, hfirst⟩
  · exact absurd h.holds.2 (hall front behind h.eq h.holds.1)
  · obtain ⟨rfl, -⟩ := h.unique hfirst
    rw [relevant, hsome]
    cases front <;> rfl

/-- A diagnostic has a first frame or none. -/
theorem exists_first_frame (d : List Char) :
    (∀ front behind, d = front ++ behind → ¬ FrameAt front behind) ∨
      ∃ front behind, IsFirst FrameAt d front behind := by
  rcases beforeFrame?_spec true d with ⟨-, hall⟩ | ⟨front, behind, -, hfirst⟩
  · exact .inl fun front behind hd h => hall front behind hd h.1 h.2
  · exact .inr ⟨front, behind, hfirst⟩

/-! ## What is left -/

theorem stripRight_stripRight (s : List Char) :
    Text.stripRight (Text.stripRight s) = Text.stripRight s :=
  List.rdropWhile_idempotent Text.isBlank s

theorem stripRight_append_of_isAllBlank {s t : List Char} (h : Text.isAllBlank t = true) :
    Text.stripRight (s ++ t) = Text.stripRight s :=
  Text.dropTrailing_append_of_all (List.all_eq_true.1 h)

/-- A front of a text has no frame that the text has not. -/
theorem FrameAt.of_isPrefix {r d front behind : List Char} (hbegins : r <+: d)
    (hr : r = front ++ behind) (h : FrameAt front behind) :
    ∃ behind', d = front ++ behind' ∧ FrameAt front behind' := by
  obtain ⟨t, rfl⟩ := hbegins
  exact ⟨behind ++ t, by rw [hr, List.append_assoc], h.1, h.2.append t⟩

/-- Trimming leaves a frame at the start of a text, or only blanks and the word of it. -/
theorem stripRight_of_startsFrame {d : List Char} (h : StartsFrame d) :
    StartsFrame (Text.stripRight d) ∨
      ∃ indent, Text.isAllBlank indent = true ∧ Text.stripRight d = indent ++ ['a', 't'] := by
  obtain ⟨indent, c, rest, rfl, hne, hblank, hc⟩ := h
  have hword : Text.stripRight (indent ++ 'a' :: 't' :: c :: rest) =
      indent ++ 'a' :: 't' :: Text.stripRight (c :: rest) := by
    have ht : Text.isBlank 't' = false := by decide
    have h := Text.dropTrailing_append_cons_of_not ht (indent ++ ['a']) (c :: rest)
    rwa [List.append_assoc, List.append_assoc] at h
  rw [hword]
  rcases Text.dropTrailing_isPrefix Text.isBlank (c :: rest) with ⟨dropped, hdropped⟩
  cases hkept : Text.stripRight (c :: rest) with
  | nil => exact .inr ⟨indent, hblank, rfl⟩
  | cons c' rest' =>
      rw [← Text.stripRight, hkept] at hdropped
      exact .inl ⟨indent, c', rest', rfl, hne, hblank, (List.cons.inj hdropped).1 ▸ hc⟩

theorem not_frameAt_word {indent front behind : List Char} (hindent : Text.isAllBlank indent = true)
    (h : indent ++ ['a', 't'] = front ++ behind) : ¬ FrameAt front behind := by
  rintro ⟨-, indent', c, rest, rfl, -, -, -⟩
  have hword : indent ++ 'a' :: ['t'] = (front ++ indent') ++ 'a' :: ('t' :: c :: rest) := by
    rw [h, List.append_assoc]
  have hindent' : 'a' ∉ indent := not_mem_of_isAllBlank hindent (by decide)
  have hrest := ((List.append_cons_inj_of_notMem hindent' (by decide)).1 hword).2.2
  exact nomatch hrest

/-- What is left is trimmed and starts like a frame, which only a diagnostic does that does so
itself, or has no frame at all. -/
theorem relevant_cases (d : List Char) :
    (∃ front, front <+: d ∧ relevant d = Text.stripRight front) ∧
      ((StartsFrame d ∧ StartsFrame (relevant d)) ∨
        ∀ front behind, relevant d = front ++ behind → ¬ FrameAt front behind) := by
  rcases exists_first_frame d with hnone | ⟨front, behind, hfirst⟩
  · rw [relevant_of_none hnone]
    refine ⟨⟨d, List.prefix_refl d, rfl⟩, .inr fun f g hr hframe => ?_⟩
    obtain ⟨g', hd, hframe'⟩ := hframe.of_isPrefix (Text.dropTrailing_isPrefix _ d) hr
    exact hnone f g' hd hframe'
  rw [relevant_of_first hfirst]
  by_cases hempty : front = []
  · subst hempty
    have hstart : StartsFrame d := by
      rw [hfirst.eq]
      exact hfirst.holds.2
    rw [if_pos rfl]
    refine ⟨⟨d, List.prefix_refl d, rfl⟩, ?_⟩
    rcases stripRight_of_startsFrame hstart with hkept | ⟨indent, hindent, hword⟩
    · exact .inl ⟨hstart, hkept⟩
    · exact .inr fun f g hr => not_frameAt_word hindent (hword.symm.trans hr)
  · rw [if_neg hempty]
    have hbegins : front <+: d := hfirst.eq ▸ List.prefix_append front behind
    refine ⟨⟨front, hbegins, rfl⟩, .inr fun f g hr hframe => ?_⟩
    have htrimmed := Text.dropTrailing_isPrefix Text.isBlank front
    obtain ⟨g', hd, hframe'⟩ := hframe.of_isPrefix (htrimmed.trans hbegins) hr
    -- A frame in what is left would stand further left than the first one.
    have hlength := htrimmed.length_le
    have hpos := List.length_pos_of_ne_nil hframe.2.ne_nil
    have hle := hfirst.le f g' hd hframe'
    rw [← Text.stripRight, hr, List.length_append] at hlength
    omega

/-- What a report shows of a diagnostic is a front of it without blanks at the end, it would be
shown whole itself, and there is no frame in it unless the diagnostic starts with one. -/
theorem relevant_stable (d : List Char) :
    relevant d <+: d ∧ Text.stripRight (relevant d) = relevant d ∧
      relevant (relevant d) = relevant d ∧
      (¬ FrameAt [] d → ∀ front behind, relevant d = front ++ behind → ¬ FrameAt front behind) := by
  obtain ⟨⟨front, hfront, hr⟩, hcases⟩ := relevant_cases d
  have htrimmed : Text.stripRight (relevant d) = relevant d := by
    rw [hr, stripRight_stripRight]
  refine ⟨?_, htrimmed, ?_, fun hstart => ?_⟩
  · rw [hr]
    exact (Text.dropTrailing_isPrefix Text.isBlank front).trans hfront
  · rcases hcases with ⟨-, hleft⟩ | hnone
    · have hfirst : IsFirst FrameAt (relevant d) [] (relevant d) :=
        ⟨rfl, ⟨rfl, hleft⟩, fun _ _ _ _ => Nat.zero_le _⟩
      rw [relevant_of_first hfirst, if_pos rfl, htrimmed]
    · rw [relevant_of_none hnone, htrimmed]
  · exact hcases.resolve_left fun h => hstart ⟨rfl, h.1⟩

/-- The blanks above a frame go with it, and the frame is not looked for in what is left. -/
theorem relevant_stable_of_blank_lines :
    let d := "Error: a\n\n  b \n \n\tat f (x:1)\n    at <eval> (x:2)\n".toList
    relevant d = "Error: a\n\n  b".toList ∧ ¬ FrameAt [] d ∧
      ∀ front behind, relevant d = front ++ behind → ¬ FrameAt front behind := by
  intro d
  have hstart : ¬ FrameAt [] d := by
    rintro ⟨-, hframe⟩
    exact absurd ((isFrame_iff d).2 hframe) (by decide +kernel)
  exact ⟨by decide +kernel, hstart, (relevant_stable d).2.2.2 hstart⟩

/-! ## Lines that are taken for frames -/

/-- Holds of a front of a text whose last line is blank, so that what follows stands below it. -/
def EndsInBlankLine (front : List Char) : Prop :=
  ∃ above blanks, front = above ++ (blanks ++ ['\n']) ∧ StartsLine true above ∧
    Text.isAllBlank blanks = true

/-- A frame of a stack as it is written: a line that is indented with spaces or tabs and goes on
with the word `at` and a blank, which may be the end of the line. -/
def FrameLineAt (front behind : List Char) : Prop :=
  StartsLine true front ∧ ∃ indent c rest, behind = indent ++ 'a' :: 't' :: c :: rest ∧
    indent ≠ [] ∧ (∀ x ∈ indent, x = ' ' ∨ x = '\t') ∧ Text.isBlank c = true

/-- A line that is taken for a frame. Any blanks will do for its indentation, and below a blank
line it needs none. -/
def TakenAt (front behind : List Char) : Prop :=
  StartsLine true front ∧ ∃ indent c rest, behind = indent ++ 'a' :: 't' :: c :: rest ∧
    (indent ≠ [] ∨ EndsInBlankLine front) ∧ Text.isAllBlank indent = true ∧ '\n' ∉ indent ∧
    Text.isBlank c = true

/-- Holds of a diagnostic that is cut where its frames begin, and nowhere if it has none. Where no
words stand above the first frame it says nothing. -/
def OnlyFramesTrimmed (d : List Char) : Prop :=
  ((∀ front behind, d = front ++ behind → ¬ FrameLineAt front behind) →
      relevant d = Text.stripRight d) ∧
    ∀ front behind, IsFirst FrameLineAt d front behind → Text.isAllBlank front = false →
      relevant d = Text.stripRight front

theorem isBlank_of_spaceOrTab {c : Char} (h : c = ' ' ∨ c = '\t') :
    Text.isBlank c = true ∧ c ≠ '\n' := by
  rcases h with rfl | rfl <;> decide

theorem FrameLineAt.takenAt {front behind : List Char} (h : FrameLineAt front behind) :
    TakenAt front behind := by
  obtain ⟨hline, indent, c, rest, rfl, hne, hindent, hc⟩ := h
  refine ⟨hline, indent, c, rest, rfl, .inl hne, ?_, fun hmem => ?_, hc⟩
  · exact List.all_eq_true.2 fun x hx => (isBlank_of_spaceOrTab (hindent x hx)).1
  · exact (isBlank_of_spaceOrTab (hindent _ hmem)).2 rfl

/-- The search matches at a line that is taken for a frame, or at blank lines above it. -/
theorem TakenAt.exists_frameAt {front behind : List Char} (h : TakenAt front behind) :
    ∃ above blanks, front = above ++ blanks ∧ Text.isAllBlank blanks = true ∧
      FrameAt above (blanks ++ behind) := by
  obtain ⟨hline, indent, c, rest, rfl, hplace, hindent, -, hc⟩ := h
  rcases hplace with hne | ⟨above, blanks, rfl, habove, hblanks⟩
  · exact ⟨front, [], (List.append_nil _).symm, rfl, hline, indent, c, rest, rfl, hne, hindent, hc⟩
  · have hall : Text.isAllBlank (blanks ++ ['\n']) = true := by
      rw [Text.isAllBlank_append, hblanks]
      rfl
    refine ⟨above, blanks ++ ['\n'], rfl, hall, habove, blanks ++ ['\n'] ++ indent, c, rest,
      (List.append_assoc _ _ _).symm, by simp, ?_, hc⟩
    rw [Text.isAllBlank_append, hall, hindent]
    rfl

/-- A text is one line, or there is a last one. -/
theorem exists_last_line (s : List Char) :
    '\n' ∉ s ∨ ∃ front line, s = front ++ '\n' :: line ∧ '\n' ∉ line := by
  induction s with
  | nil => exact .inl List.not_mem_nil
  | cons c s ih =>
      rcases ih with hnone | ⟨front, line, rfl, hline⟩
      · by_cases hc : c = '\n'
        · exact .inr ⟨[], s, by rw [hc]; rfl, hnone⟩
        · refine .inl fun hmem => ?_
          rcases List.mem_cons.1 hmem with heq | hs
          · exact hc heq.symm
          · exact hnone hs
      · exact .inr ⟨c :: front, line, rfl, hline⟩

/-- Below the blank lines where the search matches there is a line that is taken for a frame. -/
theorem FrameAt.exists_takenAt {front behind : List Char} (h : FrameAt front behind) :
    ∃ blanks below, behind = blanks ++ below ∧ Text.isAllBlank blanks = true ∧
      TakenAt (front ++ blanks) below := by
  obtain ⟨hline, indent, c, rest, rfl, hne, hindent, hc⟩ := h
  rcases exists_last_line indent with hnone | ⟨blanks, last, rfl, hlast⟩
  · refine ⟨[], _, rfl, rfl, ?_⟩
    rw [List.append_nil]
    exact ⟨hline, indent, c, rest, rfl, .inl hne, hindent, hnone, hc⟩
  · have hsplit : blanks ++ '\n' :: last = (blanks ++ ['\n']) ++ last := by
      rw [List.append_assoc, List.singleton_append]
    rw [hsplit, Text.isAllBlank_append, Text.isAllBlank_append, Bool.and_eq_true,
      Bool.and_eq_true] at hindent
    obtain ⟨⟨hblanks, hfeed⟩, hlastBlank⟩ := hindent
    refine ⟨blanks ++ ['\n'], last ++ 'a' :: 't' :: c :: rest, by simp, ?_, ?_, last, c, rest, rfl,
      .inr ⟨front, blanks, rfl, hline, hblanks⟩, hlastBlank, hlast, hc⟩
    · rw [Text.isAllBlank_append, hblanks, hfeed]
      rfl
    · rw [← List.append_assoc]
      exact startsLine_concat true (front ++ blanks)

theorem relevant_of_none_taken {d : List Char}
    (h : ∀ front behind, d = front ++ behind → ¬ TakenAt front behind) :
    relevant d = Text.stripRight d := by
  refine relevant_of_none fun front behind hd hframe => ?_
  obtain ⟨blanks, below, rfl, -, htaken⟩ := hframe.exists_takenAt
  exact h (front ++ blanks) below (by rw [hd, List.append_assoc]) htaken

/-- Between the first match of the search and the first line that is taken for a frame there are
only blanks. -/
theorem IsFirst.blanks_between {d f g front behind : List Char} (hsearch : IsFirst FrameAt d f g)
    (h : IsFirst TakenAt d front behind) :
    ∃ between, front = f ++ between ∧ Text.isAllBlank between = true := by
  obtain ⟨above, blanks, rfl, -, hframe⟩ := h.holds.exists_frameAt
  obtain ⟨more, below, rfl, hmore, htaken⟩ := hsearch.holds.exists_takenAt
  have hd : d = (f ++ more) ++ below := by
    rw [hsearch.eq, List.append_assoc]
  have hfront : above ++ blanks <+: d := h.eq ▸ List.prefix_append _ behind
  have hfle : f.length ≤ (above ++ blanks).length := by
    have hle := hsearch.le above _ (by rw [h.eq, List.append_assoc]) hframe
    rw [List.length_append]
    omega
  obtain ⟨between, hbetween⟩ :=
    List.prefix_of_prefix_length_le (hsearch.eq ▸ List.prefix_append f _) hfront hfle
  refine ⟨between, hbetween.symm, ?_⟩
  have hinside : f ++ between <+: f ++ more := by
    rw [hbetween]
    exact List.prefix_of_prefix_length_le hfront (hd ▸ List.prefix_append _ below)
      (h.le (f ++ more) below hd htaken)
  obtain ⟨rest, rfl⟩ := (List.prefix_append_right_inj f).1 hinside
  rw [Text.isAllBlank_append, Bool.and_eq_true] at hmore
  exact hmore.1

/-- The cut is made above the first line that is taken for a frame, if there are words above it. -/
theorem relevant_of_first_taken {d front behind : List Char} (h : IsFirst TakenAt d front behind) :
    relevant d = Text.stripRight (if Text.isAllBlank front = true then d else front) := by
  obtain ⟨above, blanks, hfront, -, hframe⟩ := h.holds.exists_frameAt
  rcases exists_first_frame d with hnone | ⟨f, g, hfirst⟩
  · exact absurd hframe (hnone above _ (by rw [h.eq, hfront, List.append_assoc]))
  obtain ⟨between, rfl, hbetween⟩ := hfirst.blanks_between h
  rw [relevant_of_first hfirst, Text.isAllBlank_append, hbetween, Bool.and_true]
  by_cases hempty : f = []
  · subst hempty
    rfl
  · have hwords : ¬ Text.isAllBlank f = true := by
      intro hall
      have hstart : FrameAt [] d := ⟨rfl, hfirst.eq ▸ hfirst.holds.2.blanks_append hall⟩
      have hle := hfirst.le [] d rfl hstart
      exact hempty (List.eq_nil_of_length_eq_zero (Nat.le_zero.1 hle))
    rw [if_neg hempty, if_neg hwords, stripRight_append_of_isAllBlank hbetween]

/-- Above the first match of the search no line is taken for a frame. -/
theorem TakenAt.isFirst {d front behind : List Char} (hd : d = front ++ behind)
    (h : TakenAt front behind) (hsearch : beforeFrame? true d = some front) :
    IsFirst TakenAt d front behind := by
  refine ⟨hd, h, fun f g hs htaken => ?_⟩
  obtain ⟨above, blanks, rfl, -, hframe⟩ := htaken.exists_frameAt
  rcases beforeFrame?_spec true d with ⟨hnone, -⟩ | ⟨front', behind', hsome, hfirst⟩
  · rw [hnone] at hsearch
    exact nomatch hsearch
  · obtain rfl := Option.some.inj (hsome.symm.trans hsearch)
    have hle := hfirst.le above _ (by rw [hs, List.append_assoc]) hframe
    rw [List.length_append]
    omega

/-! ## Frames and what is taken for them -/

/-- What stands above a line that is taken for a frame is less than all of the words. -/
theorem TakenAt.length_lt {front behind : List Char} (h : TakenAt front behind) :
    front.length < (Text.stripRight (front ++ behind)).length := by
  obtain ⟨-, indent, c, rest, rfl, -, -, -, -⟩ := h
  have ha : Text.isBlank 'a' = false := by decide
  rw [← List.append_assoc, Text.stripRight, Text.dropTrailing_append_cons_of_not ha,
    List.length_append, List.length_append, List.length_cons]
  omega

/-- A line below one that is taken for a frame has the word of that line above it. -/
theorem TakenAt.words_above {front behind more below : List Char}
    (h : TakenAt front behind) (hbehind : behind = more ++ below) (hne : more ≠ [])
    (hline : StartsLine true (front ++ more)) :
    Text.isAllBlank (front ++ more) = false ∧
      front.length < (Text.stripRight (front ++ more)).length := by
  obtain ⟨-, indent, c, rest, rfl, -, -, hfeed, -⟩ := h
  have hlast : '\n' ∈ more := by
    obtain ⟨init, last, rfl⟩ := List.eq_nil_or_concat' more |>.resolve_left hne
    rw [StartsLine, ← List.append_assoc, List.getLast?_concat] at hline
    rw [eq_of_beq hline]
    exact List.mem_append_right _ (List.mem_singleton_self _)
  obtain ⟨tail, rfl⟩ : ∃ tail, more = indent ++ 'a' :: tail := by
    rcases List.append_eq_append_iff.1 hbehind with ⟨inside, hmore, hword⟩ | ⟨inside, hindent, -⟩
    · cases inside with
      | nil =>
          rw [List.append_nil] at hmore
          exact absurd (hmore ▸ hlast) hfeed
      | cons x inside =>
          obtain ⟨rfl, -⟩ := List.cons.inj hword
          exact ⟨inside, hmore⟩
    · exact absurd (hindent ▸ List.mem_append_left inside hlast) hfeed
  have ha : Text.isBlank 'a' = false := by decide
  constructor
  · rw [Bool.eq_false_iff]
    intro hall
    exact not_mem_of_isAllBlank hall ha (by simp)
  · rw [← List.append_assoc, Text.stripRight, Text.dropTrailing_append_cons_of_not ha,
      List.length_append, List.length_append, List.length_cons]
    omega

theorem length_stripRight_le (s : List Char) : (Text.stripRight s).length ≤ s.length :=
  (Text.dropTrailing_isPrefix Text.isBlank s).length_le

/-- Where the first line that is taken for a frame is none, the first frame stands further down and
has words above it that are not above that line. -/
theorem IsFirst.frame_below {d front behind f g : List Char} (h : IsFirst TakenAt d front behind)
    (hnot : ¬ FrameLineAt front behind) (hframe : IsFirst FrameLineAt d f g) :
    Text.isAllBlank f = false ∧ front.length < (Text.stripRight f).length := by
  have hle := h.le f g hframe.eq hframe.holds.takenAt
  obtain ⟨more, rfl⟩ := List.prefix_of_prefix_length_le (h.eq ▸ List.prefix_append front behind)
    (hframe.eq ▸ List.prefix_append f g) hle
  have hbehind : behind = more ++ g := by
    have hboth := h.eq.symm.trans hframe.eq
    rw [List.append_assoc] at hboth
    exact List.append_cancel_left hboth
  have hmore : more ≠ [] := by
    rintro rfl
    rw [List.nil_append] at hbehind
    rw [List.append_nil] at hframe
    exact hnot (hbehind ▸ hframe.holds)
  exact h.holds.words_above hbehind hmore hframe.holds.1

/-- Where a line is taken for a frame and is none, the cut is not where the frames begin, unless
there are none and no words stand above that line. -/
theorem not_onlyFramesTrimmed {d front behind : List Char} (h : IsFirst TakenAt d front behind)
    (hnot : ¬ FrameLineAt front behind)
    (hwords : Text.isAllBlank front = false ∨ ∃ f g, d = f ++ g ∧ FrameLineAt f g) :
    ¬ OnlyFramesTrimmed d := by
  rintro ⟨hnone, hsome⟩
  have hcut := relevant_of_first_taken h
  have hfront := length_stripRight_le front
  by_cases hframe : ∃ f g, d = f ++ g ∧ FrameLineAt f g
  · obtain ⟨f, g, hd, hline⟩ := hframe
    obtain ⟨f, g, hfirst⟩ := exists_isFirst hd hline
    obtain ⟨habove, hlonger⟩ := h.frame_below hnot hfirst
    have hlength := congrArg List.length (hcut.symm.trans (hsome f g hfirst habove))
    split at hlength
    · -- The whole diagnostic is shown, with the words of the frame.
      have hbelow := hfirst.holds.takenAt.length_lt
      rw [← hfirst.eq] at hbelow
      have hshort := length_stripRight_le f
      omega
    · omega
  · have hclaimed := hnone fun f g hd hline => hframe ⟨f, g, hd, hline⟩
    rw [hcut, hwords.resolve_right hframe, if_neg Bool.false_ne_true] at hclaimed
    have hlength := congrArg List.length hclaimed
    have hall := h.holds.length_lt
    rw [← h.eq] at hall
    omega

theorem onlyFramesTrimmed_of {d : List Char}
    (h : ∀ front behind, IsFirst TakenAt d front behind → FrameLineAt front behind ∨
      (Text.isAllBlank front = true ∧ ∀ f g, d = f ++ g → ¬ FrameLineAt f g)) :
    OnlyFramesTrimmed d := by
  constructor
  · intro hnone
    by_cases htaken : ∃ f g, d = f ++ g ∧ TakenAt f g
    · obtain ⟨f, g, hd, htaken⟩ := htaken
      obtain ⟨front, behind, hfirst⟩ := exists_isFirst hd htaken
      rcases h front behind hfirst with hline | ⟨hblank, -⟩
      · exact absurd hline (hnone front behind hfirst.eq)
      · rw [relevant_of_first_taken hfirst, if_pos hblank]
    · exact relevant_of_none_taken fun f g hd htaken' => htaken ⟨f, g, hd, htaken'⟩
  · intro front behind hfirst hwords
    obtain ⟨f, g, htaken⟩ := exists_isFirst hfirst.eq hfirst.holds.takenAt
    rcases h f g htaken with hline | ⟨-, hnone⟩
    · have hlength : f.length = front.length :=
        Nat.le_antisymm (htaken.le front behind hfirst.eq hfirst.holds.takenAt)
          (hfirst.le f g htaken.eq hline)
      obtain ⟨rfl, rfl⟩ := List.append_inj (htaken.eq.symm.trans hfirst.eq) hlength
      rw [relevant_of_first_taken htaken, hwords, if_neg Bool.false_ne_true]
    · exact absurd hfirst.holds (hnone front behind hfirst.eq)

/-- What a report shows of a diagnostic, line by line: all that stands above the first line that is
taken for a frame, and the whole diagnostic if there is no such line or no words stand above it.
That is what stands above the first frame exactly if the first line that is taken for a frame is
one, or there is no frame and no words stand above that line. -/
theorem relevant_by_lines (d : List Char) :
    ((∀ front behind, d = front ++ behind → ¬ TakenAt front behind) →
        relevant d = Text.stripRight d) ∧
      (∀ front behind, IsFirst TakenAt d front behind →
        relevant d = Text.stripRight (if Text.isAllBlank front = true then d else front)) ∧
      (OnlyFramesTrimmed d ↔ ∀ front behind, IsFirst TakenAt d front behind →
        FrameLineAt front behind ∨
          (Text.isAllBlank front = true ∧ ∀ f g, d = f ++ g → ¬ FrameLineAt f g)) := by
  refine ⟨relevant_of_none_taken, fun front behind => relevant_of_first_taken, fun h => ?_,
    onlyFramesTrimmed_of⟩
  intro front behind hfirst
  by_contra hnot
  obtain ⟨hline, hwords⟩ := not_or.1 hnot
  refine not_onlyFramesTrimmed hfirst hline ?_ h
  by_cases hblank : Text.isAllBlank front = true
  · right
    by_contra hnone
    exact hwords ⟨hblank, fun f g hd hframe => hnone ⟨f, g, hd, hframe⟩⟩
  · exact .inl (Bool.eq_false_iff.2 hblank)

/-- Blank lines and indented lines of a message stand above the frames and stay. -/
theorem relevant_by_lines_of_message :
    let above := "Expected values\n\n  at1 !== 2\n".toList
    let below := "    at <eval> (<input>:4)\n".toList
    IsFirst TakenAt (above ++ below) above below ∧ OnlyFramesTrimmed (above ++ below) ∧
      relevant (above ++ below) = "Expected values\n\n  at1 !== 2".toList := by
  intro above below
  have hline : FrameLineAt above below :=
    ⟨rfl, "    ".toList, ' ', "<eval> (<input>:4)\n".toList, rfl, by decide, by simp, by decide⟩
  have hfirst : IsFirst TakenAt (above ++ below) above below :=
    hline.takenAt.isFirst rfl (by decide +kernel)
  obtain ⟨-, hcut, honly⟩ := relevant_by_lines (above ++ below)
  refine ⟨hfirst, honly.2 fun f g h => ?_, (hcut above below hfirst).trans (by decide +kernel)⟩
  obtain ⟨rfl, rfl⟩ := h.unique hfirst
  exact .inl hline

theorem FrameLineAt.exists_part {d front behind : List Char} (hd : d = front ++ behind)
    (h : FrameLineAt front behind) : [' ', 'a', 't'] <:+: d ∨ ['\t', 'a', 't'] <:+: d := by
  obtain ⟨-, indent, c, rest, rfl, hne, hindent, -⟩ := h
  obtain ⟨init, x, rfl⟩ := List.eq_nil_or_concat' indent |>.resolve_left hne
  have hpart : [x, 'a', 't'] <:+: d := ⟨front ++ init, c :: rest, by rw [hd]; simp⟩
  rcases hindent x (by simp) with rfl | rfl
  · exact .inl hpart
  · exact .inr hpart

/-- A message that goes on below a blank line with the word `at` loses what it says there. -/
theorem unindented_line_cut :
    let d := "Error\n\nat least one argument".toList
    (∀ front behind, d = front ++ behind → ¬ FrameLineAt front behind) ∧
      relevant d = "Error".toList ∧ ¬ OnlyFramesTrimmed d := by
  intro d
  have hnone : ∀ front behind, d = front ++ behind → ¬ FrameLineAt front behind := by
    intro front behind hd hline
    rcases hline.exists_part hd with h | h <;> exact absurd h (by decide +kernel)
  have hcut : relevant d = "Error".toList := by decide +kernel
  refine ⟨hnone, hcut, fun h => ?_⟩
  have hwhole := h.1 hnone
  rw [hcut] at hwhole
  exact absurd hwhole (by decide +kernel)

end DocExamples.Details
