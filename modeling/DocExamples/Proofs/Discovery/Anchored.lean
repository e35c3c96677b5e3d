import DocExamples.Proofs.Discovery.Glob
import DocExamples.Proofs.Document.Lines

/-!
# Ignore rules about whole paths

A rule with a slash in it is about whole paths. Its glob is matched as one with the whole path, and
as a wildcard stands for slashes too, the components of the glob need not be those of the path:
one component of the glob may stand for several names. `matchParts_iff_components` says which paths
a glob stands for in terms of its components.

Where the path has no more components than the glob, none is left over for a wildcard to take, and
the glob is matched name by name. For directories above a path there is a test of its own, and it
takes the glob as the text it is. So for globs without wildcards a rule applies to what it names
and to all below it, and for other globs it does not.
-/

namespace DocExamples

/-! ## Pieces of a text -/

namespace Text

theorem splitAt_ne_nil (mark : Char) (s : List Char) : splitAt mark s ≠ [] := by
  cases s with
  | nil => exact List.cons_ne_nil _ _
  | cons c rest =>
      rw [splitAt]
      split
      · exact List.cons_ne_nil _ _
      · split <;> exact List.cons_ne_nil _ _

theorem splitAt_append_cons {mark : Char} {piece : List Char} (h : mark ∉ piece)
    (rest : List Char) : splitAt mark (piece ++ mark :: rest) = piece :: splitAt mark rest := by
  induction piece with
  | nil => rw [List.nil_append, splitAt, if_pos rfl]
  | cons c piece ih =>
      obtain ⟨hc, hpiece⟩ := not_or.1 (mt List.mem_cons.2 h)
      rw [List.cons_append, splitAt, if_neg (Ne.symm hc), ih hpiece]

theorem joinWith_splitAt (mark : Char) (s : List Char) :
    joinWith [mark] (splitAt mark s) = s := by
  induction s with
  | nil => rfl
  | cons c rest ih =>
      rw [splitAt]
      split
      · next hc =>
          rw [joinWith_cons_of_ne_nil _ _ (splitAt_ne_nil mark rest), ih, hc]
          rfl
      · split
        · next h => exact absurd h (splitAt_ne_nil mark rest)
        · next piece more h =>
            rw [h] at ih
            rw [← ih]
            cases more <;> rfl

theorem splitAt_joinWith {mark : Char} {pieces : List (List Char)} (hne : pieces ≠ [])
    (h : ∀ piece ∈ pieces, mark ∉ piece) : splitAt mark (joinWith [mark] pieces) = pieces := by
  induction pieces with
  | nil => exact absurd rfl hne
  | cons piece more ih =>
      obtain ⟨hpiece, hmore⟩ := List.forall_mem_cons.1 h
      by_cases hnil : more = []
      · subst hnil
        exact splitAt_of_not_mem hpiece
      · rw [joinWith_cons_of_ne_nil _ _ hnil, List.append_assoc, List.singleton_append,
          splitAt_append_cons hpiece, ih hnil hmore]

theorem joinWith_append_cons (separator front piece : List Char) (more : List (List Char)) :
    joinWith separator ((front ++ piece) :: more) =
      front ++ joinWith separator (piece :: more) := by
  cases more with
  | nil => rfl
  | cons next more => simp only [joinWith, List.append_assoc]

/-- Between pieces there is a mark, and more of them stand only inside of pieces. -/
theorem length_le_count_joinWith (mark : Char) {pieces : List (List Char)} (hne : pieces ≠ []) :
    pieces.length ≤ (joinWith [mark] pieces).count mark + 1 := by
  induction pieces with
  | nil => exact absurd rfl hne
  | cons piece more ih =>
      by_cases hnil : more = []
      · subst hnil
        exact Nat.le_add_left 1 _
      · have hmore := ih hnil
        rw [joinWith_cons_of_ne_nil _ _ hnil, List.count_append, List.count_append,
          List.count_singleton_self, List.length_cons]
        omega

theorem not_mem_of_count_joinWith {mark : Char} {pieces : List (List Char)}
    (h : (joinWith [mark] pieces).count mark + 1 ≤ pieces.length) :
    ∀ piece ∈ pieces, mark ∉ piece := by
  induction pieces with
  | nil => exact fun _ h => absurd h List.not_mem_nil
  | cons piece more ih =>
      by_cases hnil : more = []
      · subst hnil
        rw [List.forall_mem_singleton, ← List.count_eq_zero]
        exact Nat.le_zero.1 (Nat.le_of_succ_le_succ h)
      · have hmore := length_le_count_joinWith mark hnil
        rw [joinWith_cons_of_ne_nil _ _ hnil, List.count_append, List.count_append,
          List.count_singleton_self, List.length_cons] at h
        exact List.forall_mem_cons.2 ⟨List.count_eq_zero.1 (by omega), ih (by omega)⟩

theorem length_splitAt (mark : Char) (s : List Char) :
    (splitAt mark s).length = s.count mark + 1 := by
  induction s with
  | nil => rfl
  | cons c rest ih =>
      rw [splitAt]
      split
      · next hc => rw [hc, List.length_cons, ih, List.count_cons_self]
      · next hc =>
          rw [List.count_cons_of_ne hc, ← ih]
          split
          · next h => exact absurd h (splitAt_ne_nil mark rest)
          · next h =>
              rw [h]
              rfl

end Text

namespace Glob

/-! ## The components of a glob -/

/-- The parts of a glob between its slashes. A slash in brackets parts nothing. -/
def components : List Part → List (List Part)
  | [] => [[]]
  | part :: more =>
    if part = .char '/' then [] :: components more
    else match components more with
      | [] => [[part]]
      | component :: others => (part :: component) :: others

/-- Holds of pieces of a text for which the components of a glob stand one by one. -/
def TakesEach (parts : List Part) (pieces : List (List Char)) : Prop :=
  List.Forall₂ (fun component piece => matchParts component piece = true) (components parts)
    pieces

/-- Holds of a path with as many names as a glob has components, each for the name in its place. -/
def ByComponent (parts : List Part) (path : List Char) : Prop :=
  TakesEach parts (Text.splitAt '/' path)

section Components

variable {part : Part} {parts more : List Part} {path : List Char}

theorem components_ne_nil (parts : List Part) : components parts ≠ [] := by
  cases parts with
  | nil => exact List.cons_ne_nil _ _
  | cons part more =>
      rw [components]
      split
      · exact List.cons_ne_nil _ _
      · split <;> exact List.cons_ne_nil _ _

theorem components_slash (more : List Part) :
    components (.char '/' :: more) = [] :: components more := by
  rw [components, if_pos rfl]

theorem components_cons (hpart : part ≠ .char '/') (more : List Part) : ∃ component others,
    components more = component :: others ∧
      components (part :: more) = (part :: component) :: others := by
  obtain ⟨component, others, h⟩ := List.exists_cons_of_ne_nil (components_ne_nil more)
  refine ⟨component, others, h, ?_⟩
  rw [components, if_neg hpart, h]

theorem length_components (parts : List Part) :
    (components parts).length = parts.count (.char '/') + 1 := by
  induction parts with
  | nil => rfl
  | cons part more ih =>
      by_cases hpart : part = .char '/'
      · rw [hpart, components_slash, List.length_cons, ih, List.count_cons_self]
      · obtain ⟨component, others, hmore, hall⟩ := components_cons hpart more
        rw [hmore] at ih
        rw [hall, List.count_cons_of_ne hpart, ← ih]
        rfl

theorem TakesEach.ne_nil {pieces : List (List Char)} (h : TakesEach parts pieces) :
    pieces ≠ [] := by
  rintro rfl
  exact components_ne_nil parts (List.forall₂_nil_right_iff.1 h)

theorem takesEach_slash {pieces : List (List Char)} : TakesEach (.char '/' :: more) pieces ↔
    ∃ others, pieces = [] :: others ∧ TakesEach more others := by
  rw [TakesEach, components_slash, List.forall₂_cons_left_iff]
  constructor
  · rintro ⟨first, others, hfirst, hothers, rfl⟩
    obtain rfl := List.isEmpty_iff.1 hfirst
    exact ⟨others, rfl, hothers⟩
  · rintro ⟨others, rfl, hothers⟩
    exact ⟨[], others, rfl, hothers, rfl⟩

theorem takesEach_cons {pieces : List (List Char)} (hpart : part ≠ .char '/') :
    TakesEach (part :: more) pieces ↔ ∃ front piece others, pieces = (front ++ piece) :: others ∧
      part.Takes front ∧ TakesEach more (piece :: others) := by
  obtain ⟨component, rest, hmore, hall⟩ := components_cons hpart more
  have htail : ∀ piece others, TakesEach more (piece :: others) ↔
      matchParts component piece = true ∧
        List.Forall₂ (fun component piece => matchParts component piece = true) rest others := by
    intro piece others
    rw [TakesEach, hmore, List.forall₂_cons]
  rw [TakesEach, hall, List.forall₂_cons_left_iff]
  constructor
  · rintro ⟨first, others, hfirst, hothers, rfl⟩
    obtain ⟨front, piece, rfl, htakes, hpiece⟩ := matchParts_cons.1 hfirst
    exact ⟨front, piece, others, rfl, htakes, (htail piece others).2 ⟨hpiece, hothers⟩⟩
  · rintro ⟨front, piece, others, rfl, htakes, hothers⟩
    obtain ⟨hpiece, hothers⟩ := (htail piece others).1 hothers
    exact ⟨front ++ piece, others, matchParts_cons.2 ⟨front, piece, rfl, htakes, hpiece⟩, hothers,
      rfl⟩

/-- A glob stands for the texts that its components stand for with slashes between them. -/
theorem matchParts_iff_components : matchParts parts path = true ↔
    ∃ pieces, path = Text.joinWith ['/'] pieces ∧ TakesEach parts pieces := by
  induction parts generalizing path with
  | nil =>
      constructor
      · exact fun h => ⟨[path], rfl, .cons h .nil⟩
      · rintro ⟨pieces, rfl, hpieces⟩
        cases hpieces with
        | cons h hnil =>
            cases hnil
            exact h
  | cons part more ih =>
      -- a slash ends a component, and every other part belongs to the first of those behind it
      by_cases hpart : part = .char '/'
      · subst hpart
        simp only [takesEach_slash, matchParts_char_cons, ih]
        constructor
        · rintro ⟨_, rfl, pieces, rfl, hpieces⟩
          refine ⟨[] :: pieces, ?_, pieces, rfl, hpieces⟩
          rw [Text.joinWith_cons_of_ne_nil _ _ hpieces.ne_nil]
          rfl
        · rintro ⟨_, rfl, pieces, rfl, hpieces⟩
          refine ⟨Text.joinWith ['/'] pieces, ?_, pieces, rfl, hpieces⟩
          rw [Text.joinWith_cons_of_ne_nil _ _ hpieces.ne_nil]
          rfl
      · simp only [takesEach_cons hpart, matchParts_cons, ih]
        constructor
        · rintro ⟨front, _, rfl, htakes, pieces, rfl, hpieces⟩
          obtain ⟨piece, others, rfl⟩ := List.exists_cons_of_ne_nil hpieces.ne_nil
          exact ⟨_, (Text.joinWith_append_cons _ front piece others).symm, front, piece, others, rfl,
            htakes, hpieces⟩
        · rintro ⟨_, rfl, front, piece, others, rfl, htakes, hpieces⟩
          exact ⟨front, _, Text.joinWith_append_cons _ front piece others, htakes, _, rfl, hpieces⟩

theorem ByComponent.matchParts (h : ByComponent parts path) :
    Glob.matchParts parts path = true :=
  matchParts_iff_components.2 ⟨_, (Text.joinWith_splitAt '/' path).symm, h⟩

/-- With no more names in the path than components in the glob, each component has one name to
stand for. -/
theorem matchParts_iff_byComponent
    (h : (Text.splitAt '/' path).length ≤ (components parts).length) :
    matchParts parts path = true ↔ ByComponent parts path := by
  refine ⟨fun hmatch => ?_, ByComponent.matchParts⟩
  obtain ⟨pieces, rfl, hpieces⟩ := matchParts_iff_components.1 hmatch
  rw [Text.length_splitAt, List.Forall₂.length_eq hpieces] at h
  rw [ByComponent, Text.splitAt_joinWith hpieces.ne_nil (Text.not_mem_of_count_joinWith h)]
  exact hpieces

end Components

/-! ## The slashes of a glob -/

theorem suffix_of_span {p : Char → Bool} {s inner rest : List Char} {c : Char}
    (h : s.span p = (inner, c :: rest)) : rest <:+ s := by
  rw [List.span_eq_takeWhile_dropWhile] at h
  have hrest : s.dropWhile p = c :: rest := congrArg Prod.snd h
  exact (List.suffix_cons c rest).trans (hrest ▸ List.dropWhile_suffix p)

theorem brackets?_isSuffix {s inside rest : List Char} (h : brackets? s = some (inside, rest)) :
    rest <:+ s := by
  unfold brackets? at h
  simp only at h
  split at h
  · next inner c tail hspan =>
      cases h
      refine (suffix_of_span hspan).trans ?_
      -- up to two characters stand in front: the exclamation mark and a closing bracket
      split
      · next more hclosing =>
          refine (List.suffix_cons ']' more).trans ?_
          rw [← hclosing]
          split
          · exact List.suffix_cons _ _
          · exact List.suffix_rfl
      · split
        · exact List.suffix_cons _ _
        · exact List.suffix_rfl
  · cases h

theorem setPart_ne_char (inside : List Char) (c : Char) : setPart inside ≠ .char c := by
  rw [setPart]
  split <;> exact Part.noConfusion

/-- A glob has no more slashes among its parts than it is written with. -/
theorem count_parts_le (glob : List Char) : (parts glob).count (.char '/') ≤ glob.count '/' := by
  have hcons : ∀ {part : Part} {more : List Part} {c : Char} {s rest : List Char},
      (part = .char '/' → c = '/') → more.count (.char '/') ≤ rest.count '/' → rest <:+ s →
      (part :: more).count (.char '/') ≤ (c :: s).count '/' := by
    intro part more c s rest hpart hmore hrest
    have hle := hmore.trans (hrest.sublist.count_le '/')
    by_cases hslash : part = .char '/'
    · rw [hslash, hpart hslash, List.count_cons_self, List.count_cons_self]
      exact Nat.succ_le_succ hle
    · rw [List.count_cons_of_ne hslash]
      exact hle.trans (List.count_le_count_cons ..)
  have hall : ∀ fuel s, (partsFrom fuel s).count (.char '/') ≤ s.count '/' := by
    intro fuel s
    fun_induction partsFrom fuel s with
    | case1 => exact Nat.zero_le _
    | case2 => exact Nat.le_refl _
    | case3 fuel rest ih => exact hcons Part.noConfusion ih List.suffix_rfl
    | case4 fuel rest _ ih => exact hcons Part.noConfusion ih List.suffix_rfl
    | case5 fuel rest inside more hb _ _ ih =>
        exact hcons (fun h => absurd h (setPart_ne_char inside '/')) ih (brackets?_isSuffix hb)
    | case6 fuel rest _ _ _ ih => exact hcons (by decide) ih List.suffix_rfl
    | case7 fuel c rest _ _ _ ih => exact hcons (fun h => Part.char.inj h) ih List.suffix_rfl
  exact hall _ _

theorem single_eq_slash_iff {c : Char} : single c = .char '/' ↔ c = '/' := by
  rw [single]
  split
  · next h => exact iff_of_false Part.noConfusion fun hc => absurd (h.symm.trans hc) (by decide)
  · split
    · next h => exact iff_of_false Part.noConfusion fun hc => absurd (h.symm.trans hc) (by decide)
    · rw [Part.char.injEq]

/-- Without brackets the components of a glob are what is written between its slashes. -/
theorem components_parts {glob : List Char} (h : '[' ∉ glob) :
    components (parts glob) = (Text.splitAt '/' glob).map parts := by
  induction glob with
  | nil => rfl
  | cons c rest ih =>
      obtain ⟨hc, hrest⟩ := not_or.1 (mt List.mem_cons.2 h)
      rw [parts_cons (Ne.symm hc), Text.splitAt]
      by_cases hslash : c = '/'
      · rw [if_pos hslash, single_eq_slash_iff.2 hslash, components_slash, ih hrest]
        rfl
      · obtain ⟨component, others, hmore, hall⟩ :=
          components_cons (mt single_eq_slash_iff.1 hslash) (parts rest)
        obtain ⟨piece, pieces, hpieces⟩ :=
          List.exists_cons_of_ne_nil (Text.splitAt_ne_nil '/' rest)
        have hboth := hmore.symm.trans (ih hrest)
        rw [hpieces, List.map_cons] at hboth
        obtain ⟨rfl, rfl⟩ := List.cons.inj hboth
        rw [if_neg hslash, hall, hpieces, List.map_cons, parts_cons (Ne.symm hc)]

/-- Holds of a glob in which every character stands for itself. -/
def IsPlain (glob : List Char) : Prop := ∀ c ∈ glob, c ≠ '*' ∧ c ≠ '?' ∧ c ≠ '['

theorem IsPlain.holds_iff {glob : List Char} (h : IsPlain glob) {path : List Char} :
    holds glob path = true ↔ path = glob := by
  rw [holds]
  induction glob generalizing path with
  | nil => exact List.isEmpty_iff
  | cons c rest ih =>
      obtain ⟨⟨hstar, hany, hset⟩, hrest⟩ := List.forall_mem_cons.1 h
      have hsingle : single c = .char c := by rw [single, if_neg hstar, if_neg hany]
      rw [parts_cons hset, hsingle, matchParts_char_cons]
      constructor
      · rintro ⟨tail, rfl, htail⟩
        rw [(ih hrest).1 htail]
      · rintro rfl
        exact ⟨rest, rfl, (ih hrest).2 rfl⟩

theorem IsPlain.byComponent_iff {glob : List Char} (h : IsPlain glob) {path : List Char} :
    ByComponent (parts glob) path ↔ path = glob := by
  refine ⟨fun hby => h.holds_iff.1 hby.matchParts, ?_⟩
  rintro rfl
  refine (matchParts_iff_byComponent ?_).1 (h.holds_iff.2 rfl)
  rw [components_parts fun hmem => (h _ hmem).2.2 rfl, List.length_map]

end Glob

namespace IgnoreRule

/-! ## Rules with a slash in them -/

/-- A line with a slash that is not at its end is a rule about whole paths. -/
theorem anchored_of_parse {line : List Char} {r : IgnoreRule} (h : parse line = some r)
    (hslash : '/' ∈ dropSlashes (Text.strip line)) : r.anchored = true := by
  -- the slash is none of the exclamation marks in front
  have hbody : '/' ∈ dropSlashes ((Text.strip line).dropWhile (· == '!')) := by
    rw [← List.takeWhile_append_dropWhile (p := (· == '!')) (l := Text.strip line), dropSlashes,
      Text.dropTrailing, List.reverse_append, List.dropWhile_append, List.mem_reverse] at hslash
    have hmarks : '/' ∉ ((Text.strip line).takeWhile (· == '!')).reverse := fun hmem =>
      absurd (List.mem_takeWhile_imp (List.mem_reverse.1 hmem)) (by decide)
    rw [dropSlashes, Text.dropTrailing, List.mem_reverse]
    split at hslash
    · exact absurd ((List.dropWhile_suffix _).subset hslash) hmarks
    · exact (List.mem_append.1 hslash).resolve_right hmarks
  simp only [parse] at h
  split at h
  · cases h
  · split at h
    · cases h
    · cases h
      exact List.contains_iff_mem.2 hbody

theorem applies_iff_of_anchored {r : IgnoreRule} (h : r.anchored = true) (path : List Char)
    (isDirectory : Bool) : r.applies path isDirectory = true ↔
      (r.dirsOnly = true → isDirectory = true) ∧
        (Glob.holds r.glob path = true ∨ ∃ rest, path = r.glob ++ '/' :: rest) := by
  have hprefix : (r.glob ++ ['/']).isPrefixOf path = true ↔
      ∃ rest, path = r.glob ++ '/' :: rest := by
    rw [List.isPrefixOf_iff_prefix]
    constructor
    · rintro ⟨rest, rfl⟩
      exact ⟨rest, List.append_assoc _ _ _⟩
    · rintro ⟨rest, rfl⟩
      exact ⟨rest, List.append_assoc _ _ _⟩
  rw [applies, h, if_pos rfl, ← hprefix, ← Bool.or_eq_true]
  cases r.dirsOnly <;> cases isDirectory <;> simp

/-- A directory above a path has fewer names, so a path with no more names than the glob has
components is below nothing that the glob is the text of. -/
theorem length_components_lt {glob rest : List Char} :
    (Glob.components (Glob.parts glob)).length <
      (Text.splitAt '/' (glob ++ '/' :: rest)).length := by
  have hle := Glob.count_parts_le glob
  rw [Glob.length_components, Text.length_splitAt, List.count_append, List.count_cons_self]
  omega

/-- Holds of a path that a glob stands for component by component, or of which it stands for a
directory above. -/
def Names (glob path : List Char) : Prop :=
  ∃ above, (above = path ∨ ∃ rest, path = above ++ '/' :: rest) ∧
    Glob.ByComponent (Glob.parts glob) above

/-- A rule with a slash that is not at its end applies to the paths that come apart into pieces
which the components of its glob stand for in turn, whatever slashes are in the pieces, and to
what lies below a path with the text of the glob. For a path with no more names than the glob has
components this is to be matched component by component, and for a glob without wildcards it is to
be named by it or to lie below what is. Components are what is written between slashes, if nothing
is written in brackets. -/
theorem anchored_applies_iff {line : List Char} {r : IgnoreRule} (h : parse line = some r)
    (hslash : '/' ∈ dropSlashes (Text.strip line)) (path : List Char) (isDirectory : Bool) :
    (r.applies path isDirectory = true ↔ (r.dirsOnly = true → isDirectory = true) ∧
      ((∃ pieces, path = Text.joinWith ['/'] pieces ∧
        Glob.TakesEach (Glob.parts r.glob) pieces) ∨ ∃ rest, path = r.glob ++ '/' :: rest)) ∧
    ((Text.splitAt '/' path).length ≤ (Glob.components (Glob.parts r.glob)).length →
      (r.applies path isDirectory = true ↔ (r.dirsOnly = true → isDirectory = true) ∧
        Glob.ByComponent (Glob.parts r.glob) path)) ∧
    (Glob.IsPlain r.glob → (r.applies path isDirectory = true ↔
      (r.dirsOnly = true → isDirectory = true) ∧ Names r.glob path)) ∧
    ('[' ∉ r.glob →
      Glob.components (Glob.parts r.glob) = (Text.splitAt '/' r.glob).map Glob.parts) := by
  rw [applies_iff_of_anchored (anchored_of_parse h hslash)]
  refine ⟨?_, fun hfew => ?_, fun hplain => ?_, Glob.components_parts⟩
  · rw [Glob.holds, Glob.matchParts_iff_components]
  · have hbelow : ¬ ∃ rest, path = r.glob ++ '/' :: rest := by
      rintro ⟨rest, rfl⟩
      exact Nat.not_lt.2 hfew length_components_lt
    rw [Glob.holds, Glob.matchParts_iff_byComponent hfew, or_iff_left hbelow]
  · refine and_congr_right fun _ => ?_
    simp only [Names, hplain.byComponent_iff, hplain.holds_iff]
    constructor
    · rintro (rfl | hrest)
      · exact ⟨_, .inl rfl, rfl⟩
      · exact ⟨r.glob, .inr hrest, rfl⟩
    · rintro ⟨_, rfl | hrest, rfl⟩
      · exact .inl rfl
      · exact .inr hrest

/-- A rule about the files of one directory, and a path of two names. -/
theorem anchored_applies_iff_of_star :
    ∃ r, parse "docs/*.md".toList = some r ∧
      '/' ∈ dropSlashes (Text.strip "docs/*.md".toList) ∧
      r.applies "docs/a.md".toList false = true ∧
      Glob.ByComponent (Glob.parts r.glob) "docs/a.md".toList := by
  have h : parse "docs/*.md".toList = some ⟨"docs/*.md".toList, true, false, false⟩ := rfl
  have hslash : '/' ∈ dropSlashes (Text.strip "docs/*.md".toList) := by decide
  have happlies := (anchored_applies_iff h hslash "docs/a.md".toList false).2.1 (by decide)
  exact ⟨_, h, hslash, rfl, (happlies.1 rfl).2⟩

/-- The same rule applies to a file of a directory further down, where neither the path nor a
directory above it has the names that the rule asks for. -/
theorem star_takes_slash :
    ∃ r, parse "docs/*.md".toList = some r ∧
      r.applies "docs/api/intro.md".toList false = true ∧
      ¬ Names r.glob "docs/api/intro.md".toList := by
  refine ⟨⟨"docs/*.md".toList, true, false, false⟩, rfl, rfl, ?_⟩
  rintro ⟨above, rfl | ⟨rest, hpath⟩, hby⟩
  · exact absurd (List.Forall₂.length_eq hby) (by decide)
  · have hshorter : ∀ n < 17,
        Glob.holds "docs/*.md".toList ("docs/api/intro.md".toList.take n) = false := by decide
    have hlength := congrArg List.length hpath
    rw [List.length_append, List.length_cons] at hlength
    have hlt : above.length < 17 := by
      have hwhole : "docs/api/intro.md".toList.length = 17 := rfl
      omega
    have hnot := hshorter above.length hlt
    rw [hpath, List.take_left] at hnot
    rw [← Bool.not_eq_true] at hnot
    exact hnot hby.matchParts

end IgnoreRule

end DocExamples
