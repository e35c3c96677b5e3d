import DocExamples.Config.Basic
import DocExamples.Proofs.Json.Literal
import Mathlib.Data.List.TakeWhile

/-!
# How a template is filled

A template is cut at its holes: some text, then each hole with the text behind it. `IsCut`
says what counts as a hole without reading the template from the left, and there is one
such cut only, so that the holes of a template are a matter of its text alone.

What fills a hole is put in after the cut was made, which is why nothing that a name
contains is ever taken for a hole. A hole that cannot be filled stops the filling; the
first of them decides how it fails.
-/

namespace DocExamples.Template

/-! ## Cutting a template -/

/-- A template cut at its holes: the text in front of them, and the digits of each hole with
the text behind it. -/
structure Cut where
  front : List Char
  holes : List (List Char × List Char)

namespace Cut

/-- The template that was cut. -/
def text (cut : Cut) : List Char :=
  cut.front ++ cut.holes.flatMap fun hole => '$' :: (hole.1 ++ hole.2)

/-- The parts of a template that was cut. -/
def parts (cut : Cut) : List Piece :=
  cut.front.map .plain ++ cut.holes.flatMap fun hole => .hole hole.1 :: hole.2.map .plain

/-- Puts a character in front. -/
def behind (c : Char) (cut : Cut) : Cut := ⟨c :: cut.front, cut.holes⟩

/-- Puts a hole in front. -/
def behindHole (digits : List Char) (cut : Cut) : Cut := ⟨[], (digits, cut.front) :: cut.holes⟩

theorem text_behindHole (digits : List Char) (cut : Cut) :
    (cut.behindHole digits).text = '$' :: (digits ++ cut.text) := by
  rw [text, behindHole, List.flatMap_cons, text, List.nil_append, List.cons_append,
    List.append_assoc]

/-- The cut with given parts. -/
def ofParts : List Piece → Cut
  | [] => ⟨[], []⟩
  | .plain c :: more => (ofParts more).behind c
  | .hole digits :: more => (ofParts more).behindHole digits

theorem ofParts_append (s : List Char) (more : List Piece) :
    ofParts (s.map .plain ++ more) = ⟨s ++ (ofParts more).front, (ofParts more).holes⟩ := by
  induction s with
  | nil => rfl
  | cons c s ih => rw [List.map_cons, List.cons_append, ofParts, ih]; rfl

theorem ofParts_parts (cut : Cut) : ofParts cut.parts = cut := by
  obtain ⟨front, holes⟩ := cut
  rw [parts, ofParts_append]
  induction holes generalizing front with
  | nil => rw [List.flatMap_nil, ofParts, List.append_nil]
  | cons hole holes ih =>
      have hmore := ih hole.2
      rw [Cut.mk.injEq] at hmore
      rw [List.flatMap_cons, List.cons_append, ofParts, ofParts_append, behindHole, hmore.1,
        hmore.2, List.append_nil]

end Cut

/-- Holds of a text without a hole: no digit stands behind a dollar sign. -/
def HasNoHole (s : List Char) : Prop :=
  ∀ before c after, s = before ++ '$' :: c :: after → Text.isDigit c = false

/-- Holds of a text that does not start with a digit. -/
def StartsPlain (s : List Char) : Prop := ∀ c, s.head? = some c → Text.isDigit c = false

/-- Holds of the one cut of a template: each hole has a digit and all that follow it, and there
is no hole in the text between them. -/
structure IsCut (template : List Char) (cut : Cut) : Prop where
  text : cut.text = template
  front : HasNoHole cut.front
  digits : ∀ hole ∈ cut.holes, hole.1 ≠ [] ∧ ∀ c ∈ hole.1, Text.isDigit c = true
  behind : ∀ hole ∈ cut.holes, StartsPlain hole.2 ∧ HasNoHole hole.2

theorem hasNoHole_nil : HasNoHole [] := by
  intro before c after h
  cases before <;> cases h

theorem HasNoHole.tail {c : Char} {s : List Char} (h : HasNoHole (c :: s)) : HasNoHole s :=
  fun before d after heq => h (c :: before) d after (congrArg (c :: ·) heq)

theorem HasNoHole.cons {c : Char} {s : List Char} (h : HasNoHole s)
    (hc : c = '$' → StartsPlain s) : HasNoHole (c :: s) := by
  intro before d after heq
  cases before with
  | nil =>
      obtain ⟨rfl, rfl⟩ := List.cons.inj heq
      exact hc rfl d rfl
  | cons b before => exact h before d after (List.cons.inj heq).2

theorem HasNoHole.startsPlain {s : List Char} (h : HasNoHole ('$' :: s)) : StartsPlain s := by
  intro c hc
  obtain ⟨more, rfl⟩ := List.head?_eq_some_iff.1 hc
  exact h [] c more rfl

theorem takeWhile_of_startsPlain {s : List Char} (h : StartsPlain s) :
    s.takeWhile Text.isDigit = [] := by
  cases s with
  | nil => rfl
  | cons c s => exact List.takeWhile_cons_of_neg (Bool.eq_false_iff.1 (h c rfl))

theorem startsPlain_of_takeWhile {s : List Char} (h : s.takeWhile Text.isDigit = []) :
    StartsPlain s := by
  intro c hc
  obtain ⟨more, rfl⟩ := List.head?_eq_some_iff.1 hc
  refine eq_false_of_ne_true fun hdigit => ?_
  rw [List.takeWhile_cons_of_pos hdigit] at h
  cases h

theorem startsPlain_dropWhile (s : List Char) : StartsPlain (s.dropWhile Text.isDigit) := by
  intro c hc
  have hnot := List.head?_dropWhile_not Text.isDigit s
  rw [hc] at hnot
  exact hnot

theorem StartsPlain.of_append {s rest : List Char} (h : StartsPlain (s ++ rest)) :
    StartsPlain s := by
  intro c hc
  obtain ⟨more, rfl⟩ := List.head?_eq_some_iff.1 hc
  exact h c rfl

theorem pieces_hole {digits rest : List Char} (hne : digits ≠ [])
    (hdigits : ∀ c ∈ digits, Text.isDigit c = true) (hrest : StartsPlain rest) :
    pieces ('$' :: (digits ++ rest)) = .hole digits :: pieces rest := by
  have htake : (digits ++ rest).takeWhile Text.isDigit = digits := by
    rw [List.takeWhile_append_of_pos hdigits, takeWhile_of_startsPlain hrest, List.append_nil]
  have hdrop : (digits ++ rest).dropWhile Text.isDigit = rest := by
    have hsplit := List.takeWhile_append_dropWhile (p := Text.isDigit) (l := digits ++ rest)
    rw [htake] at hsplit
    exact List.append_cancel_left hsplit
  rw [pieces, if_pos ⟨rfl, htake.symm ▸ hne⟩, htake, hdrop]

theorem pieces_plain {c : Char} {rest : List Char} (h : c = '$' → StartsPlain rest) :
    pieces (c :: rest) = .plain c :: pieces rest := by
  rw [pieces, if_neg]
  rintro ⟨rfl, hdigits⟩
  exact hdigits (takeWhile_of_startsPlain (h rfl))

theorem pieces_append {s rest : List Char} (hs : HasNoHole s) (hrest : StartsPlain rest) :
    pieces (s ++ rest) = s.map .plain ++ pieces rest := by
  induction s with
  | nil => rfl
  | cons c s ih =>
      rw [List.cons_append, pieces_plain, ih hs.tail]
      · rfl
      · rintro rfl
        cases s with
        | nil => exact hrest
        | cons d s => exact fun x hx => hs.startsPlain x hx

/-- The parts of a template are those of its cut. -/
theorem IsCut.pieces_eq {template : List Char} {cut : Cut} (h : IsCut template cut) :
    pieces template = cut.parts := by
  obtain ⟨front, holes⟩ := cut
  have hmark : ∀ holes : List (List Char × List Char),
      StartsPlain (holes.flatMap fun hole => '$' :: (hole.1 ++ hole.2)) := by
    intro holes c hc
    cases holes with
    | nil => cases hc
    | cons hole holes => cases hc; rfl
  have hholes : ∀ holes : List (List Char × List Char),
      (∀ hole ∈ holes, hole.1 ≠ [] ∧ ∀ c ∈ hole.1, Text.isDigit c = true) →
      (∀ hole ∈ holes, StartsPlain hole.2 ∧ HasNoHole hole.2) →
      pieces (holes.flatMap fun hole => '$' :: (hole.1 ++ hole.2)) =
        holes.flatMap fun hole => .hole hole.1 :: hole.2.map .plain := by
    intro holes hdigits hbehind
    induction holes with
    | nil => rw [List.flatMap_nil, List.flatMap_nil, pieces]
    | cons hole holes ih =>
        obtain ⟨⟨hne, hdigits⟩, hmoreDigits⟩ := List.forall_mem_cons.1 hdigits
        obtain ⟨⟨hstarts, hnone⟩, hmoreBehind⟩ := List.forall_mem_cons.1 hbehind
        have hrest : StartsPlain (hole.2 ++
            holes.flatMap fun hole => '$' :: (hole.1 ++ hole.2)) := by
          obtain ⟨digits, _ | ⟨c, s⟩⟩ := hole
          · exact hmark holes
          · exact fun x hx => hstarts x hx
        rw [List.flatMap_cons, List.flatMap_cons, List.cons_append, List.append_assoc,
          pieces_hole hne hdigits hrest, pieces_append hnone (hmark holes),
          ih hmoreDigits hmoreBehind]
        rfl
  rw [← h.text, Cut.text, pieces_append h.front (hmark holes), hholes holes h.digits h.behind]
  rfl

/-- What is read from the left is a cut. -/
theorem isCut_ofParts (template : List Char) :
    IsCut template (Cut.ofParts (pieces template)) := by
  fun_induction pieces template with
  | case1 => exact ⟨rfl, hasNoHole_nil, nofun, nofun⟩
  | case2 c rest hhole ih =>
      obtain ⟨rfl, hdigits⟩ := hhole
      rw [Cut.ofParts]
      refine ⟨?_, hasNoHole_nil, ?_, ?_⟩
      · rw [Cut.text_behindHole, ih.text, List.takeWhile_append_dropWhile]
      · refine List.forall_mem_cons.2 ⟨⟨hdigits, fun c hc => ?_⟩, ih.digits⟩
        exact List.mem_takeWhile_imp hc
      · have hstarts := startsPlain_dropWhile rest
        rw [← ih.text, Cut.text] at hstarts
        exact List.forall_mem_cons.2 ⟨⟨hstarts.of_append, ih.front⟩, ih.behind⟩
  | case3 c rest hplain ih =>
      rw [Cut.ofParts]
      refine ⟨congrArg (c :: ·) ih.text, ih.front.cons fun hc => ?_, ih.digits, ih.behind⟩
      have hstarts := startsPlain_of_takeWhile
        (Decidable.not_not.1 fun hdigits => hplain ⟨hc, hdigits⟩)
      rw [← ih.text, Cut.text] at hstarts
      exact hstarts.of_append

theorem isCut_unique {template : List Char} {cut other : Cut} (h : IsCut template cut)
    (hother : IsCut template other) : other = cut := by
  rw [← Cut.ofParts_parts cut, ← Cut.ofParts_parts other, ← h.pieces_eq, ← hother.pieces_eq]

/-! ## Filling the holes -/

/-- The number of a hole. -/
def index (digits : List Char) : Nat := Text.natOfDigits digits

/-- What stands in a hole that can be filled. -/
def inserted (groups : List (Option String)) (digits : List Char) : List Char :=
  (groups[index digits]?).elim [] literal

/-- A template with all its holes filled. -/
def Cut.filled (cut : Cut) (groups : List (Option String)) : List Char :=
  cut.front ++ cut.holes.flatMap fun hole => inserted groups hole.1 ++ hole.2

/-- Holds of a hole that has a group, and a number that is read. -/
def CanFill (groups : List (Option String)) (digits : List Char) : Prop :=
  digits.length ≤ Number.digitLimit ∧ index digits < groups.length

instance (groups : List (Option String)) (digits : List Char) : Decidable (CanFill groups digits) :=
  inferInstanceAs (Decidable (_ ∧ _))

/-- How the filling of a hole fails. -/
inductive Stops (groups : List (Option String)) (digits : List Char) : HoleFault → Prop
  | missing : digits.length ≤ Number.digitLimit → groups.length ≤ index digits →
      Stops groups digits (.missing (index digits))
  | tooLong : Number.digitLimit < digits.length →
      Stops groups digits (.tooLong (.toRead digits.length))

theorem filling_of_canFill {groups : List (Option String)} {digits : List Char}
    (h : CanFill groups digits) : filling groups digits = .ok (inserted groups digits) := by
  obtain ⟨group, hgroup⟩ : ∃ group, groups[Text.natOfDigits digits]? = some group :=
    ⟨_, List.getElem?_eq_getElem h.2⟩
  rw [filling, Number.ofDigits_eq_ok h.1, inserted, index, hgroup]
  dsimp only
  rw [hgroup]
  rfl

theorem filling_of_stops {groups : List (Option String)} {digits : List Char} {fault : HoleFault}
    (h : Stops groups digits fault) : filling groups digits = .error fault := by
  cases h with
  | missing hlimit hgroups =>
      have hnone : groups[Text.natOfDigits digits]? = none := List.getElem?_eq_none hgroups
      rw [filling, Number.ofDigits_eq_ok hlimit]
      dsimp only
      rw [hnone]
      rfl
  | tooLong hlimit =>
      rw [filling, Number.ofDigits, if_neg (Nat.not_le.2 hlimit)]

theorem Stops.not_canFill {groups : List (Option String)} {digits : List Char} {fault : HoleFault}
    (h : Stops groups digits fault) : ¬ CanFill groups digits := by
  rintro ⟨hlimit, hgroups⟩
  cases h with
  | missing _ hnone => exact absurd hgroups (Nat.not_lt.2 hnone)
  | tooLong hlong => exact absurd hlimit (Nat.not_le.2 hlong)

theorem canFill_or_stops (groups : List (Option String)) (digits : List Char) :
    CanFill groups digits ∨ ∃ fault, Stops groups digits fault := by
  by_cases hlimit : digits.length ≤ Number.digitLimit
  · by_cases hgroups : index digits < groups.length
    · exact .inl ⟨hlimit, hgroups⟩
    · exact .inr ⟨_, .missing hlimit (Nat.le_of_not_lt hgroups)⟩
  · exact .inr ⟨_, .tooLong (Nat.lt_of_not_le hlimit)⟩

theorem fillPieces_append (groups : List (Option String)) (s : List Char) (more : List Piece) :
    fillPieces groups (s.map .plain ++ more) = (fillPieces groups more).map (s ++ ·) := by
  induction s with
  | nil => cases h : fillPieces groups more <;> simp [h, Except.map]
  | cons c s ih =>
      rw [List.map_cons, List.cons_append, fillPieces, ih]
      cases fillPieces groups more <;> rfl

theorem fill_of_isCut {template : List Char} {cut : Cut} (h : IsCut template cut)
    (groups : List (Option String)) :
    fill template groups = (fillPieces groups (cut.holes.flatMap fun hole =>
      .hole hole.1 :: hole.2.map .plain)).map (cut.front ++ ·) := by
  rw [fill, h.pieces_eq, Cut.parts, fillPieces_append]

/-- Behind holes that can be filled, the rest decides. -/
theorem fillPieces_holes {groups : List (Option String)} {before : List (List Char × List Char)}
    (h : ∀ hole ∈ before, CanFill groups hole.1) (more : List Piece) :
    fillPieces groups ((before.flatMap fun hole => .hole hole.1 :: hole.2.map .plain) ++ more) =
      (fillPieces groups more).map
        ((before.flatMap fun hole => inserted groups hole.1 ++ hole.2) ++ ·) := by
  induction before with
  | nil => cases hmore : fillPieces groups more <;> simp [hmore, Except.map]
  | cons hole before ih =>
      obtain ⟨hhole, hbefore⟩ := List.forall_mem_cons.1 h
      rw [List.flatMap_cons, List.cons_append, List.cons_append, List.append_assoc, fillPieces,
        filling_of_canFill hhole, fillPieces_append, ih hbefore]
      cases fillPieces groups more with
      | error fault => rfl
      | ok text =>
          rw [List.flatMap_cons]
          simp only [Except.map, List.append_assoc]

theorem exists_first_stop (groups : List (Option String))
    (holes : List (List Char × List Char)) :
    (∀ hole ∈ holes, CanFill groups hole.1) ∨
      ∃ before hole after fault, holes = before ++ hole :: after ∧
        (∀ hole ∈ before, CanFill groups hole.1) ∧ Stops groups hole.1 fault := by
  induction holes with
  | nil => exact .inl nofun
  | cons hole holes ih =>
      rcases canFill_or_stops groups hole.1 with hhole | ⟨fault, hstops⟩
      · rcases ih with hall | ⟨before, hole', after, fault, rfl, hbefore, hstops⟩
        · exact .inl (List.forall_mem_cons.2 ⟨hhole, hall⟩)
        · exact .inr ⟨hole :: before, hole', after, fault, rfl,
            List.forall_mem_cons.2 ⟨hhole, hbefore⟩, hstops⟩
      · exact .inr ⟨[], hole, holes, fault, rfl, nofun, hstops⟩

theorem fill_eq_ok {template : List Char} {cut : Cut} (hcut : IsCut template cut)
    {groups : List (Option String)} (h : ∀ hole ∈ cut.holes, CanFill groups hole.1) :
    fill template groups = .ok (cut.filled groups) := by
  have hholes := fillPieces_holes h []
  rw [List.append_nil, fillPieces] at hholes
  rw [fill_of_isCut hcut, hholes, Cut.filled]
  simp only [Except.map, List.append_nil]

theorem fill_eq_error {template : List Char} {cut : Cut} (hcut : IsCut template cut)
    {groups : List (Option String)} {before after : List (List Char × List Char)}
    {hole : List Char × List Char} {fault : HoleFault} (heq : cut.holes = before ++ hole :: after)
    (hbefore : ∀ hole ∈ before, CanFill groups hole.1) (hstops : Stops groups hole.1 fault) :
    fill template groups = .error fault := by
  rw [fill_of_isCut hcut, heq, List.flatMap_append, fillPieces_holes hbefore, List.flatMap_cons,
    List.cons_append, fillPieces, filling_of_stops hstops]
  rfl

theorem read_literal (group : Option String) :
    Json.read (literal group) = .ok (group.elim .null .str) := by
  cases group with
  | none => rfl
  | some s => exact (Json.read_quoteAscii s.toList).trans (by rw [String.ofList_toList]; rfl)

end DocExamples.Template

namespace DocExamples.Handler

open Template

section

variable {source : String} {cut : Cut} {groups : List (Option String)}

theorem make_eq_ok_iff (hcut : IsCut source.toList cut) {made : Data} :
    (template source).make groups = .ok made ↔
      (∀ hole ∈ cut.holes, CanFill groups hole.1) ∧
        made = .script (String.ofList (cut.filled groups)) := by
  rcases exists_first_stop groups cut.holes with hall |
    ⟨before, hole, after, fault, hholes, hbefore, hstops⟩
  · rw [make, fill_eq_ok hcut hall]
    exact ⟨fun h => ⟨hall, (Except.ok.inj h).symm⟩, fun h => congrArg Except.ok h.2.symm⟩
  · rw [make, fill_eq_error hcut hholes hbefore hstops]
    refine iff_of_false nofun fun h => hstops.not_canFill (h.1 hole ?_)
    exact hholes ▸ List.mem_append_right before List.mem_cons_self

theorem make_eq_error_iff (hcut : IsCut source.toList cut) {f : Failure} :
    (template source).make groups = .error f ↔
      ∃ before hole after fault, cut.holes = before ++ hole :: after ∧
        (∀ hole ∈ before, CanFill groups hole.1) ∧ Stops groups hole.1 fault ∧
        f = fault.failure source.toList := by
  constructor
  · intro hmake
    rcases exists_first_stop groups cut.holes with hall |
      ⟨before, hole, after, fault, hholes, hbefore, hstops⟩
    · rw [make, fill_eq_ok hcut hall] at hmake
      cases hmake
    · rw [make, fill_eq_error hcut hholes hbefore hstops] at hmake
      exact ⟨before, hole, after, fault, hholes, hbefore, hstops, (Except.error.inj hmake).symm⟩
  · rintro ⟨before, hole, after, fault, hholes, hbefore, hstops, rfl⟩
    rw [make, fill_eq_error hcut hholes hbefore hstops]

end

/-- A template has one cut. Its module is the template with every hole replaced by the literal of
the group with its number and all other text as it is, whatever the groups contain. There is one
exactly if each hole has a number of at most 4300 digits that is below the count of groups, and
otherwise the first hole for which this is not so decides how it fails. Where all numbers are read,
that is the first hole without a group, which the failure names by its number. The literal of a
group is JSON, and what it stands for is the group. -/
theorem template_filled (source : String) (groups : List (Option String)) :
    ∃ cut, (∀ other, IsCut source.toList other ↔ other = cut) ∧
      (∀ made, (template source).make groups = .ok made ↔
        (∀ hole ∈ cut.holes, CanFill groups hole.1) ∧
          made = .script (String.ofList (cut.filled groups))) ∧
      (∀ f, (template source).make groups = .error f ↔
        ∃ before hole after fault, cut.holes = before ++ hole :: after ∧
          (∀ hole ∈ before, CanFill groups hole.1) ∧ Stops groups hole.1 fault ∧
          f = fault.failure source.toList) ∧
      ((∀ hole ∈ cut.holes, hole.1.length ≤ Number.digitLimit) →
        ∀ f, (template source).make groups = .error f ↔
          ∃ before hole after, cut.holes = before ++ hole :: after ∧
            (∀ hole ∈ before, index hole.1 < groups.length) ∧ groups.length ≤ index hole.1 ∧
            f = ⟨"ConfigError", String.ofList ("Template ".toList ++ Text.quoted source.toList ++
              " refers to missing group $".toList ++ Number.natText (index hole.1))⟩) ∧
      ∀ group, Json.read (literal group) = .ok (group.elim .null .str) := by
  have hcut := isCut_ofParts source.toList
  -- only the fourth part needs more: a number that is read stops the filling for want of a group
  refine ⟨_, fun other => ⟨isCut_unique hcut, fun h => h ▸ hcut⟩, fun made => make_eq_ok_iff hcut,
    fun f => make_eq_error_iff hcut, fun hread f => (make_eq_error_iff hcut).trans ?_,
    read_literal⟩
  constructor
  · rintro ⟨before, hole, after, fault, hholes, hbefore, hstops, rfl⟩
    refine ⟨before, hole, after, hholes, fun h hmem => (hbefore h hmem).2, ?_⟩
    have hlimit := hread hole (hholes ▸ List.mem_append_right before List.mem_cons_self)
    cases hstops with
    | missing _ hgroups => exact ⟨hgroups, rfl⟩
    | tooLong hlong => exact absurd hlimit (Nat.not_le.2 hlong)
  · rintro ⟨before, hole, after, hholes, hbefore, hgroups, rfl⟩
    refine ⟨before, hole, after, _, hholes, fun h hmem => ⟨hread h ?_, hbefore h hmem⟩,
      .missing (hread hole ?_) hgroups, rfl⟩
    · exact hholes ▸ List.mem_append_left _ hmem
    · exact hholes ▸ List.mem_append_right before List.mem_cons_self

/-- In `$1$0` a group that looks like a hole is put in as it is. A number goes on as far as there
are digits, so the last hole of `$1$0-$10` has no group. -/
theorem template_filled_of_adjacent_holes :
    (template "$1$0").make [some "$1\n", none] = .ok (.script "null\"$1\\n\"") ∧
      (template "$1$0-$10").make [some "a", none] =
        .error ⟨"ConfigError", "Template '$1$0-$10' refers to missing group $10"⟩ := by
  constructor
  · obtain ⟨cut, hcut, hok, -⟩ := template_filled "$1$0" [some "$1\n", none]
    obtain rfl := (hcut _).1 (isCut_ofParts _)
    refine (hok _).2 ⟨?_, ?_⟩
    · decide +kernel
    · exact congrArg Data.script (by decide +kernel)
  · obtain ⟨cut, hcut, -, -, hread, -⟩ := template_filled "$1$0-$10" [some "a", none]
    obtain rfl := (hcut _).1 (isCut_ofParts _)
    refine (hread ?_ _).2 ⟨[(['1'], []), (['0'], ['-'])], (['1', '0'], []), [], ?_, ?_, ?_, ?_⟩
    · decide +kernel
    · decide +kernel
    · decide +kernel
    · decide +kernel
    · decide +kernel

/-- A hole whose number has too many digits has no group, but the failure is another one and does
not name it. -/
theorem long_hole_not_named :
    let source := String.ofList ('$' :: List.replicate 4301 '1')
    (template source).make [some "a"] = .error ⟨"ValueError",
        "Exceeds the limit (4300 digits) for integer string conversion: value has 4301 digits; " ++
          "use sys.set_int_max_str_digits() to increase the limit"⟩ ∧
      ∃ cut, IsCut source.toList cut ∧
        ∃ hole ∈ cut.holes, [some "a"].length ≤ index hole.1 := by
  intro source
  have hdigits : ∀ c ∈ List.replicate 4301 '1', Text.isDigit c = true := by
    intro c hc
    rw [List.eq_of_mem_replicate hc]
    decide
  have hne : List.replicate 4301 '1' ≠ [] := List.cons_ne_nil _ _
  have hcut : IsCut source.toList ⟨[], [(List.replicate 4301 '1', [])]⟩ :=
    ⟨by rw [String.toList_ofList, Cut.text, List.flatMap_singleton, List.append_nil]; rfl,
      hasNoHole_nil, List.forall_mem_singleton.2 ⟨hne, hdigits⟩,
      List.forall_mem_singleton.2 ⟨nofun, hasNoHole_nil⟩⟩
  have hlong : Stops [some "a"] (List.replicate 4301 '1') (.tooLong (.toRead 4301)) := by
    have hstops : Number.digitLimit < (List.replicate 4301 '1').length →
        Stops [some "a"] (List.replicate 4301 '1')
          (.tooLong (.toRead (List.replicate 4301 '1').length)) := .tooLong
    rw [List.length_replicate] at hstops
    exact hstops (by decide)
  refine ⟨(make_eq_error_iff hcut).2 ⟨[], _, [], _, rfl, by simp, hlong, ?_⟩, _, hcut, _,
    List.mem_singleton_self _, ?_⟩
  · decide +kernel
  · decide +kernel

end DocExamples.Handler
