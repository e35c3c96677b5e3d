import DocExamples.Proofs.Report.Verdict
import DocExamples.Script.Token

/-!
# The name that a hint suggests

Below a failure that says of a name that it is not defined, the report suggests an entry of the
globals for it. The name is found by a search: at each place of the text in turn a name may start,
and the first one behind which the text says that it is not defined is taken.

Where a name may start is narrower than what it may go on with. A name goes on with the letters of
every script, but it only starts with a letter of ASCII, a low line or a dollar sign. So a search
that cannot start where the name starts goes on inside of it, and takes what is left of the name
from the first place that will do. `suggested` is that rest of a name, and there may be none.
-/

namespace DocExamples.Details

/-! ## One run of characters -/

/-- Holds of what stands behind a name that is said to be not defined; a quote may come first. -/
def saysNotDefined (s : List Char) : Bool := " is not defined".toList.isPrefixOf (dropQuote s)

/-- A name from the first of its characters that a hinted name starts with. -/
def suggested (name : List Char) : List Char := name.dropWhile (!isNameStart ·)

theorem ne_quote_of_isNamePart {c : Char} (h : isNamePart c = true) : c ≠ '\'' := by
  rintro rfl
  exact absurd h (by decide)

theorem dropQuote_cons_of_ne {c : Char} (h : c ≠ '\'') (s : List Char) :
    dropQuote (c :: s) = c :: s := by
  rw [dropQuote]
  rintro rest ⟨⟩
  exact h rfl

section Run

variable {name tail : List Char}

/-- Where a run of characters starts that a name goes on with, all of it is the name. -/
theorem undefinedHere?_of_run {c : Char} (hc : isNamePart c = true)
    (hname : ∀ x ∈ name, isNamePart x = true) (htail : ∀ x ∈ tail.head?, isNamePart x = false) :
    undefinedHere? (c :: (name ++ tail)) =
      if isNameStart c = true ∧ saysNotDefined tail = true then some (c :: name) else none := by
  have hends : tail.takeWhile isNamePart = [] ∧ tail.dropWhile isNamePart = tail := by
    cases tail with
    | nil => exact ⟨rfl, rfl⟩
    | cons x rest =>
        have hx : ¬ isNamePart x = true := by rw [htail x rfl]; exact Bool.false_ne_true
        exact ⟨List.takeWhile_cons_of_neg hx, List.dropWhile_cons_of_neg hx⟩
  rw [undefinedHere?, dropQuote_cons_of_ne (ne_quote_of_isNamePart hc)]
  dsimp only
  rw [List.takeWhile_append_of_pos hname, List.dropWhile_append_of_pos hname, hends.1, hends.2,
    List.append_nil, ← saysNotDefined]
  simp only [Bool.and_eq_true]

/-- The search takes what is suggested of a run, if the text behind the run says so. -/
theorem undefinedName?_of_run (hname : ∀ x ∈ name, isNamePart x = true)
    (htail : ∀ x ∈ tail.head?, isNamePart x = false) :
    undefinedName? (name ++ tail) =
      if suggested name ≠ [] ∧ saysNotDefined tail = true then some (suggested name)
      else undefinedName? tail := by
  induction name with
  | nil => rfl
  | cons c more ih =>
      obtain ⟨hc, hmore⟩ := List.forall_mem_cons.1 hname
      rw [List.cons_append, undefinedName?, undefinedHere?_of_run hc hmore htail, ih hmore]
      cases hstart : isNameStart c with
      | true =>
          have hall : suggested (c :: more) = c :: more :=
            List.dropWhile_cons_of_neg (by rw [hstart]; exact Bool.false_ne_true)
          cases hsaid : saysNotDefined tail <;> simp [hall]
      | false =>
          have hrest : suggested (c :: more) = suggested more :=
            List.dropWhile_cons_of_pos (by rw [hstart]; rfl)
          rw [hrest, if_neg (fun h => Bool.false_ne_true h.1)]
          rfl

end Run

theorem undefinedName?_cons_of_not_start {c : Char} (hc : c ≠ '\'')
    (hstart : isNameStart c = false) (s : List Char) :
    undefinedName? (c :: s) = undefinedName? s := by
  rw [undefinedName?, undefinedHere?, dropQuote_cons_of_ne hc]
  dsimp only
  rw [hstart]
  rfl

theorem undefinedName?_quote {c : Char} (hc : c ≠ '\'') (s : List Char) :
    undefinedName? ('\'' :: c :: s) = undefinedName? (c :: s) := by
  have hhere : undefinedHere? ('\'' :: c :: s) = undefinedHere? (c :: s) := by
    rw [undefinedHere?, undefinedHere?, dropQuote_cons_of_ne hc]
    rfl
  rw [undefinedName?, hhere, undefinedName?]
  cases undefinedHere? (c :: s) <;> rfl

/-! ## What is said of a name -/

/-- Holds of a name of a script: a letter of any script, a low line or a dollar sign, and then
letters, digits and these two marks. -/
def IsIdentifier (name : List Char) : Prop :=
  ∃ first more, name = first :: more ∧ Script.Token.isNameStart first = true ∧
    ∀ c ∈ more, Text.isWord c = true ∨ c = '$'

/-- What is said of a name that is not defined, with the name in quotes or without. -/
def notDefined (quoted : Bool) (name : List Char) : List Char :=
  "ReferenceError: ".toList ++
    ((if quoted then '\'' :: (name ++ ['\'']) else name) ++ " is not defined".toList)

section Identifier

variable {name : List Char}

theorem IsIdentifier.ne_nil (h : IsIdentifier name) : name ≠ [] := by
  obtain ⟨first, more, rfl, -⟩ := h
  exact List.cons_ne_nil first more

theorem isIdentifier_of_isWord (first : Char) (more : List Char)
    (hfirst : Script.Token.isNameStart first = true) (hmore : more.all Text.isWord = true) :
    IsIdentifier (first :: more) :=
  ⟨first, more, rfl, hfirst, fun c hc => .inl (List.all_eq_true.1 hmore c hc)⟩

theorem isNamePart_of_isIdentifier (h : IsIdentifier name) : ∀ c ∈ name, isNamePart c = true := by
  obtain ⟨first, more, rfl, hfirst, hmore⟩ := h
  intro c hc
  rw [isNamePart, Bool.or_eq_true, beq_iff_eq]
  rcases List.mem_cons.1 hc with rfl | hc
  · simp only [Script.Token.isNameStart, Bool.or_eq_true, beq_iff_eq, Text.Name.canStart,
      Bool.and_eq_true] at hfirst
    rcases hfirst with ((halpha | hdollar) | hlow) | ⟨⟨⟨-, hword⟩, -⟩, -⟩
    · exact .inl (Text.isWord_of_isAlphanum (by rw [Char.isAlphanum, halpha]; rfl))
    · exact .inr hdollar
    · exact .inl (by rw [hlow]; rfl)
    · exact .inl hword
  · exact hmore c hc

theorem undefinedName?_behindKind (s : List Char) :
    undefinedName? ("ReferenceError: ".toList ++ s) = undefinedName? s := by
  have hkind : "ReferenceError: ".toList = "ReferenceError".toList ++ [':', ' '] := by decide
  rw [hkind, List.append_assoc, undefinedName?_of_run (List.all_eq_true.1 (by decide)) (by rintro x ⟨⟩; decide),
    if_neg (fun h => Bool.false_ne_true h.2)]
  exact (undefinedName?_cons_of_not_start (by decide) (by decide) _).trans
    (undefinedName?_cons_of_not_start (by decide) (by decide) s)

/-- The search takes what is suggested of the name. -/
theorem undefinedName?_notDefined (h : IsIdentifier name) (quoted : Bool) :
    undefinedName? (notDefined quoted name) =
      if suggested name ≠ [] then some (suggested name) else none := by
  have hparts := isNamePart_of_isIdentifier h
  obtain ⟨first, more, rfl, -, -⟩ := h
  have hname : ∀ tail, (∀ x ∈ tail.head?, isNamePart x = false) → saysNotDefined tail = true →
      undefinedName? tail = none → undefinedName? (first :: (more ++ tail)) =
        if suggested (first :: more) ≠ [] then some (suggested (first :: more)) else none := by
    intro tail htail hsaid hnone
    have hrun := undefinedName?_of_run hparts htail
    simp only [hsaid, and_true, hnone, List.cons_append] at hrun
    exact hrun
  unfold notDefined
  rw [undefinedName?_behindKind]
  cases quoted with
  | true =>
      have hquote := ne_quote_of_isNamePart (hparts first List.mem_cons_self)
      rw [if_pos rfl, List.cons_append, List.append_assoc, List.cons_append,
        undefinedName?_quote hquote]
      exact hname (['\''] ++ " is not defined".toList) (by rintro x ⟨⟩; decide) (by decide)
        (by decide)
  | false =>
      rw [if_neg Bool.false_ne_true, List.cons_append]
      exact hname " is not defined".toList (by rintro x ⟨⟩; decide) (by decide) (by decide)

theorem suggested_eq_self_iff (h : name ≠ []) :
    suggested name = name ↔ ∀ c ∈ name.head?, isNameStart c = true := by
  obtain ⟨first, more, rfl⟩ := List.exists_cons_of_ne_nil h
  rw [suggested, List.dropWhile_eq_self_iff]
  simp

theorem undefinedName?_notDefined_eq_iff (h : IsIdentifier name) (quoted : Bool) :
    undefinedName? (notDefined quoted name) = some name ↔
      ∀ c ∈ name.head?, isNameStart c = true := by
  rw [undefinedName?_notDefined h, ← suggested_eq_self_iff h.ne_nil]
  constructor
  · intro hsome
    split at hsome
    · exact Option.some.inj hsome
    · exact nomatch hsome
  · intro hself
    rw [hself, if_pos h.ne_nil]

/-! ## The hint -/

theorem suggested_subset (name : List Char) : suggested name ⊆ name :=
  List.dropWhile_subset _

variable {escape : List Char → List Char}

/-- There is nothing to be escaped in a name. -/
theorem escape_of_isNamePart (hescape : Markup.Escapes escape)
    (h : ∀ c ∈ name, isNamePart c = true) : escape name = name := by
  refine hescape.eq_self name (fun hmem => ?_) ?_
  · exact absurd (h _ hmem) (by decide)
  · rintro ⟨t, rfl, -⟩
    exact absurd (h _ (List.mem_append_right _ List.mem_cons_self)) (by decide)

/-- The line of a hint with the entry of the globals for a name. -/
def entryLine (name : List Char) : List Char :=
  "  ".toList ++ Markup.coloured "blue" name ++ ": ...".toList

theorem entryLine_mem_hintLines_iff {other : List Char} :
    entryLine other ∈ Markup.hintLines escape name ↔ other = escape name := by
  simp [Markup.hintLines, Markup.coloured, entryLine]

variable (escape) in
/-- Behind an identifier that is not defined, the hint is that for what is suggested of it. -/
theorem hint_notDefined (h : IsIdentifier name) (quoted : Bool) (location : String) :
    Service.FailureReport.hint escape ⟨location, String.ofList (notDefined quoted name)⟩ =
      if suggested name ≠ [] then Markup.hintLines escape (suggested name) else [] := by
  rw [Service.FailureReport.hint, String.toList_ofList, undefinedName?_notDefined h]
  split_ifs <;> rfl

/-- A hint for an identifier that is not defined names the identifier from its first letter of
ASCII, low line or dollar sign on, and there is none if it has no such character. So it names the
identifier, and the entry that it shows is the one that is missing, exactly if that is the first
character of the identifier. -/
theorem hint_names_undefined (h : IsIdentifier name) (quoted : Bool) (location : String)
    (escape : List Char → List Char) :
    let details := notDefined quoted name
    let failure : Service.FailureReport := ⟨location, String.ofList details⟩
    (undefinedName? details = if suggested name ≠ [] then some (suggested name) else none) ∧
      (failure.hint escape =
        if suggested name ≠ [] then Markup.hintLines escape (suggested name) else []) ∧
      (undefinedName? details = some name ↔ ∀ c ∈ name.head?, isNameStart c = true) ∧
      (Markup.Escapes escape →
        (entryLine name ∈ failure.hint escape ↔ ∀ c ∈ name.head?, isNameStart c = true)) := by
  intro details failure
  have hhint := hint_notDefined escape h quoted location
  refine ⟨undefinedName?_notDefined h quoted, hhint, undefinedName?_notDefined_eq_iff h quoted,
    fun hescape => ?_⟩
  have hparts : ∀ c ∈ suggested name, isNamePart c = true := fun c hc =>
    isNamePart_of_isIdentifier h c (suggested_subset name hc)
  rw [hhint, ← suggested_eq_self_iff h.ne_nil]
  split_ifs with hsome
  · rw [entryLine_mem_hintLines_iff, escape_of_isNamePart hescape hparts]
    exact eq_comm
  · rw [not_not] at hsome
    rw [hsome]
    exact iff_of_false List.not_mem_nil (Ne.symm h.ne_nil)

/-- An identifier that starts with a dollar sign. -/
theorem hint_names_undefined_of_dollar :
    IsIdentifier "$el".toList ∧
      undefinedName? "ReferenceError: $el is not defined".toList = some "$el".toList ∧
      Markup.Escapes Terminal.escape ∧
      entryLine "$el".toList ∈ Service.FailureReport.hint Terminal.escape
        ⟨"docs/guide.md:5", "ReferenceError: $el is not defined"⟩ := by
  have hname : IsIdentifier "$el".toList :=
    isIdentifier_of_isWord '$' "el".toList (by decide) (by decide)
  have hfirst : ∀ c ∈ "$el".toList.head?, isNameStart c = true := by
    rintro c ⟨⟩
    decide
  obtain ⟨-, -, hnamed, hentry⟩ :=
    hint_names_undefined hname false "docs/guide.md:5" Terminal.escape
  exact ⟨hname, hnamed.2 hfirst, Terminal.escapes, (hentry Terminal.escapes).2 hfirst⟩

/-- Of an identifier that starts with another letter the hint names a part, or nothing. -/
theorem accented_name_cut :
    IsIdentifier "élan".toList ∧ undefinedName? "ReferenceError: 'élan' is not defined".toList =
        some "lan".toList ∧
      IsIdentifier "é".toList ∧
      undefinedName? "ReferenceError: 'é' is not defined".toList = none :=
  ⟨isIdentifier_of_isWord 'é' "lan".toList (by decide +kernel) (by decide), by decide +kernel,
    isIdentifier_of_isWord 'é' [] (by decide +kernel) rfl, by decide +kernel⟩

end Identifier

end DocExamples.Details
