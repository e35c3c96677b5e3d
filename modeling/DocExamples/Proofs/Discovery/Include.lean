import DocExamples.Proofs.Discovery.Glob
import DocExamples.Proofs.Discovery.Search

/-!
# Include globs and letter case

An include glob is asked for the name of a file in lower case, and the glob stays as it is. So the
case of a name never counts, and the case of a glob does: lower case leaves no capital letter in a
name, and a glob with one stands for no name at all, whatever the name looks like.

Lower case is a table, and that no form in it is a capital of another row is a fact about the
table, checked row against row. The rest follows the characters: where each of them has one form,
a glob goes along with lower case as soon as each of its parts does.
-/

namespace DocExamples

/-! ## Characters in lower case -/

namespace Text

/-- Holds of a character that lower case replaces. -/
def IsCapital (c : Char) : Prop := c.toNat = 0x130 ∨ lowerChar c ≠ c

instance (c : Char) : Decidable (IsCapital c) := inferInstanceAs (Decidable (_ ∨ _))

/-- Holds of rows such that no form of the first is a capital of the second: the forms lie behind
the capitals or in front of them, or the capitals are every other letter and the forms are among
those between. -/
def misses (row other : Nat × Nat × Nat × Nat) : Bool :=
  Nat.blt other.2.1 row.2.2.2 || Nat.blt (row.2.2.2 + (row.2.1 - row.1)) other.1 ||
    ((Nat.beq row.2.2.1 2 || Nat.beq row.1 row.2.1) && Nat.beq other.2.2.1 2 &&
      !Nat.beq (row.2.2.2 % 2) (other.1 % 2))

/-- The rows of all capitals, with the one that has two characters for its form. -/
def capitalRuns : List (Nat × Nat × Nat × Nat) := (0x130, 0x130, 1, 0x69) :: caseRuns

theorem all_misses : (caseRuns.all fun row => capitalRuns.all (misses row)) = true := by
  decide +kernel

theorem lowerIn_eq_some {n m : Nat} {runs : List (Nat × Nat × Nat × Nat)}
    (h : lowerIn n runs = some m) : ∃ first last step target, (first, last, step, target) ∈ runs ∧
      first ≤ n ∧ n ≤ last ∧ (n - first) % step = 0 ∧ m = target + (n - first) := by
  induction runs with
  | nil => cases h
  | cons run more ih =>
      obtain ⟨first, last, step, target⟩ := run
      rw [lowerIn] at h
      split at h
      · cases h
      · next hfirst =>
          split at h
          · next hin =>
              cases h
              exact ⟨first, last, step, target, .head _, Nat.not_lt.1 hfirst, hin.1, hin.2, rfl⟩
          · obtain ⟨first', last', step', target', hmem, hrow⟩ := ih h
            exact ⟨first', last', step', target', .tail _ hmem, hrow⟩

/-- A form is no capital of any row. -/
theorem not_capital_of_lowerIn {n m : Nat} (h : lowerIn n caseRuns = some m)
    {first last step target : Nat} (hrow : (first, last, step, target) ∈ capitalRuns) :
    ¬ (first ≤ m ∧ m ≤ last ∧ (m - first) % step = 0) := by
  rintro ⟨hfirst, hlast, hstep⟩
  obtain ⟨first', last', step', target', hmem, hfirst', hlast', hstep', rfl⟩ :=
    lowerIn_eq_some h
  have hmiss := List.all_eq_true.1 (List.all_eq_true.1 all_misses _ hmem) _ hrow
  simp only [misses, Bool.or_eq_true, Bool.and_eq_true, Bool.not_eq_true', Nat.blt_eq,
    ← Bool.not_eq_true, Nat.beq_eq] at hmiss
  -- in a row of every other letter the forms stand between the capitals
  rcases hmiss with (hbehind | hbefore) | ⟨⟨hevery, rfl⟩, hbetween⟩
  · omega
  · omega
  · rcases hevery with rfl | rfl <;> omega

theorem not_isCapital_of_code {c : Char} (hdotted : c.toNat ≠ 0x130)
    (hnone : lowerIn c.toNat caseRuns = none) : ¬ IsCapital c := by
  have hsame : lowerChar c = c := by rw [lowerChar, hnone]
  rw [IsCapital, not_or]
  exact ⟨hdotted, fun hne => hne hsame⟩

theorem not_isCapital_lowerChar {c : Char} (hdotted : c.toNat ≠ 0x130) :
    ¬ IsCapital (lowerChar c) := by
  cases h : lowerIn c.toNat caseRuns with
  | none =>
      have hsame : lowerChar c = c := by rw [lowerChar, h]
      rw [hsame]
      exact not_isCapital_of_code hdotted h
  | some m =>
      have hform : lowerChar c = Char.ofNat m := by rw [lowerChar, h]
      obtain hcode | hcode : (lowerChar c).toNat = m ∨ (lowerChar c).toNat = 0 := by
        rw [hform]
        by_cases hvalid : m.isValidChar
        · rw [Char.ofNat, dif_pos hvalid]
          exact .inl rfl
        · rw [Char.ofNat, dif_neg hvalid]
          exact .inr rfl
      · refine not_isCapital_of_code ?_ ?_
        · rw [hcode]
          rintro rfl
          exact not_capital_of_lowerIn h (.head _) (by decide)
        · rw [hcode, Option.eq_none_iff_forall_ne_some]
          intro k hk
          obtain ⟨_, _, _, _, hrow, hfirst, hlast, hstep, -⟩ := lowerIn_eq_some hk
          exact not_capital_of_lowerIn h (.tail _ hrow) ⟨hfirst, hlast, hstep⟩
      · refine not_isCapital_of_code ?_ ?_
        · rw [hcode]
          decide
        · rw [hcode]
          rfl

theorem not_isCapital_of_mem_lowerFrom {d : Char} {before s : List Char}
    (h : d ∈ lowerFrom before s) : ¬ IsCapital d := by
  induction s generalizing before with
  | nil => exact absurd h List.not_mem_nil
  | cons c rest ih =>
      rw [lowerFrom, List.mem_append] at h
      rcases h with hform | hrest
      · split at hform
        · simp only [List.mem_cons, List.not_mem_nil, or_false] at hform
          rcases hform with rfl | rfl <;> decide +kernel
        · next hdotted =>
            split at hform
            · obtain rfl := List.mem_singleton.1 hform
              split <;> decide +kernel
            · obtain rfl := List.mem_singleton.1 hform
              exact not_isCapital_lowerChar hdotted
      · exact ih hrest

/-- Holds of a character and a form that it may have in lower case; the capital sigma has two. -/
def IsForm (d c : Char) : Prop := d = lowerChar c ∨ c = 'Σ' ∧ d = 'ς'

/-- But for the capital I with a dot above, lower case goes character by character. -/
theorem lowerFrom_isForm {s : List Char} (h : 'İ' ∉ s) (before : List Char) :
    List.Forall₂ IsForm (lowerFrom before s) s := by
  induction s generalizing before with
  | nil => exact .nil
  | cons c rest ih =>
      obtain ⟨hc, hrest⟩ := not_or.1 (mt List.mem_cons.2 h)
      have hdotted : c.toNat ≠ 0x130 := fun heq => hc (Char.toNat_inj.1 heq).symm
      have hmore := ih hrest (c :: before)
      rw [lowerFrom, if_neg hdotted]
      split
      · next hsigma =>
          obtain rfl : c = 'Σ' := Char.toNat_inj.1 hsigma
          refine .cons ?_ hmore
          split
          · exact .inr ⟨rfl, rfl⟩
          · exact .inl (by decide +kernel)
      · exact .cons (.inl rfl) hmore

end Text

namespace Glob

/-! ## Globs that go along with lower case -/

/-- Holds of a part that holds with each character its forms in lower case. -/
def Part.KeepsLower (part : Part) : Prop :=
  ∀ c d, Text.IsForm d c → part.holds c = true → part.holds d = true

theorem keepsLower_char {c : Char} (h : ¬ Text.IsCapital c) : (Part.char c).KeepsLower := by
  intro c' d hform hc'
  obtain rfl : c' = c := beq_iff_eq.1 hc'
  rcases hform with rfl | ⟨rfl, -⟩
  · rw [not_not.1 (not_or.1 h).2]
    exact hc'
  · exact absurd (by decide +kernel) h

/-- Without brackets and capitals every part of a glob goes along with lower case. -/
theorem keepsLower_parts {glob : List Char} (hset : '[' ∉ glob)
    (hcapital : ∀ c ∈ glob, ¬ Text.IsCapital c) : ∀ part ∈ parts glob, part.KeepsLower := by
  rw [parts_eq_map hset, List.forall_mem_map]
  intro c hc
  rw [single]
  split
  · exact fun _ _ _ h => h
  · split
    · exact fun _ _ _ h => h
    · exact keepsLower_char (hcapital c hc)

theorem holds_lower {glob name : List Char} (hparts : ∀ part ∈ parts glob, part.KeepsLower)
    (hname : 'İ' ∉ name) (h : holds glob name = true) : holds glob (Text.lower name) = true :=
  matchParts_of_forall₂ (fun part hpart c d => hparts part hpart c d)
    (Text.lowerFrom_isForm hname []) h

/-- A glob with a capital outside of brackets stands for no text in lower case. -/
theorem not_holds_lower {glob : List Char} {c : Char} (hc : .char c ∈ parts glob)
    (hcapital : Text.IsCapital c) (name : List Char) :
    holds glob (Text.lower name) = false := by
  rw [← Bool.not_eq_true]
  exact fun h => Text.not_isCapital_of_mem_lowerFrom (mem_of_matchParts hc h) hcapital

end Glob

namespace Discovery

/-! ## Files that nothing but their name leaves out -/

/-- A file below a searched directory that is not ignored, nor is any directory on the way to it
left out. -/
structure Offered (rules : List IgnoreRule) (entries : List (String × FileTree))
    (dirs : List String) (name : String) : Prop where
  file : HoldsFile entries dirs name
  kept : ¬ IgnoreRules.Ignored rules (pathOf dirs name) false
  searched : ∀ front dir back, dirs = front ++ dir :: back →
    dir ∉ toolDirectories ∧ ¬ IgnoreRules.Ignored rules (pathOf front dir) true

variable {includes excludes paths dirs root : List String} {raw name : String} {files : Files}
  {entries : List (String × FileTree)} {rules : List IgnoreRule}

theorem Offered.isDocument_iff (h : Offered rules entries dirs name) :
    IsDocument ⟨includes, rules⟩ [] entries dirs name ↔
      ∃ glob ∈ includes, Glob.holds glob.toList (Text.lower name.toList) = true :=
  ⟨fun hdocument => hdocument.included, fun hincluded => ⟨h.file, hincluded, h.kept, h.searched⟩⟩

/-- What a listed directory asks for below it is settled by its own entries. -/
theorem asks_below_iff (hstands : StandsAt files raw root (.directory entries))
    (hrules : ignoreFileRules entries = .ok rules) :
    Asks includes excludes files raw (root ++ dirs ++ [name]) ↔
      IsDocument ⟨includes, rules ++ IgnoreRules.ofLines (excludes.map String.toList)⟩ [] entries
        dirs name := by
  constructor
  · intro hasks
    obtain ⟨trail, htrail, rfl, hnode⟩ := hstands
    generalize hp : Files.names trail ++ dirs ++ [name] = p at hasks
    cases hasks with
    | file hfile => cases hnode.symm.trans (hfile.of_locate htrail).2.symm
    | @below root' dirs' name' entries' rules' hstands' hrules' hdocument =>
        obtain ⟨rfl, hnode'⟩ := hstands'.of_locate htrail
        cases hnode'.trans hnode
        cases hrules.symm.trans hrules'
        rw [List.append_assoc, List.append_assoc, List.append_cancel_left_eq] at hp
        obtain ⟨rfl, hname⟩ := List.append_inj' hp rfl
        cases hname
        exact hdocument
  · exact .below hstands hrules

/-! ## The theorem -/

/-- A directory that holds one file. -/
def readme : Files := { base := "", tree := .directory [("README.md", .file [])] }

theorem offered_readme : Offered [] [("README.md", .file [])] [] "README.md" where
  file := .direct (List.mem_singleton_self _)
  kept := by
    rintro ⟨before, rule, after, hrules, -⟩
    exact List.append_ne_nil_of_right_ne_nil before (List.cons_ne_nil rule after) hrules.symm
  searched front dir back h := absurd h.symm (List.append_ne_nil_of_right_ne_nil _ (by simp))

end Discovery

end DocExamples
