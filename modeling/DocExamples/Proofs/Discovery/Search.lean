import DocExamples.Discovery.Search
import DocExamples.Proofs.Document.Lines
import Mathlib.Data.List.Sort
import Mathlib.Data.String.Basic

/-!
# Which documents are found

The walk through a directory prunes: once a directory is left out, nothing below it is looked at.
This file says the same without a walk. A file is a document exactly if it matches an include glob,
is not ignored itself, and no directory on the way to it is left out. `mem_documentsIn` is that
statement, by induction on the tree: each step of the walk takes the first name off the way, so
what is asked of the directories further down is asked below one more name.

What remains of a run is how its listed paths come together. They are looked at in order, and the
first at which nothing stands ends the search, as does one that begins in a home directory nobody
knows. Otherwise the documents of all of them are put together, and as they come out sorted it is
only their members that count.
-/

namespace DocExamples

/-!
## The order of documents

Documents come in the order of their paths, name by name, and none of them twice. They get there
by insertion, each where it belongs among those that are there already. Since a list in this order
is settled by its members, nothing is left to say of the result but which documents are in it.
-/

/-- Names are compared one by one: the order of paths is the order of lists. -/
theorem Path.precedes_iff_lt (p q : List String) : precedes p q = true ↔ p < q := by
  induction p generalizing q with
  | nil =>
      cases q with
      | nil => exact iff_of_false Bool.false_ne_true (lt_irrefl _)
      | cons b bs => exact iff_of_true rfl (List.nil_lt_cons b bs)
  | cons a as ih =>
      cases q with
      | nil => exact iff_of_false Bool.false_ne_true (List.not_lt_nil (a :: as))
      | cons b bs =>
          rw [precedes, List.cons_lt_cons_iff, Bool.or_eq_true, Bool.and_eq_true, ih,
            decide_eq_true_iff, beq_iff_eq]

namespace Discovery

theorem mem_insertPath {p q : List String} {paths : List (List String)} :
    q ∈ insertPath p paths ↔ q = p ∨ q ∈ paths := by
  induction paths with
  | nil => exact List.mem_cons
  | cons r more ih =>
      rw [insertPath]
      split
      · next h =>
          subst h
          rw [List.mem_cons, ← or_assoc, or_self]
      · next h =>
          split
          · exact List.mem_cons
          · rw [List.mem_cons, ih, List.mem_cons, or_left_comm]

theorem insertPath_pairwise {paths : List (List String)} (h : paths.Pairwise (· < ·))
    (p : List String) : (insertPath p paths).Pairwise (· < ·) := by
  induction paths with
  | nil => exact List.pairwise_singleton _ _
  | cons q more ih =>
      obtain ⟨hq, hmore⟩ := List.pairwise_cons.1 h
      rw [insertPath]
      split
      · exact h
      · next hne =>
          split
          · next hlt =>
              have hpq := (Path.precedes_iff_lt p q).1 hlt
              refine List.pairwise_cons.2 ⟨fun r hr => ?_, h⟩
              rcases List.mem_cons.1 hr with rfl | hr
              · exact hpq
              · exact lt_trans hpq (hq r hr)
          · next hnot =>
              have hqp : q < p :=
                lt_of_le_of_ne (not_lt.1 fun hlt => hnot ((Path.precedes_iff_lt p q).2 hlt))
                  (Ne.symm hne)
              refine List.pairwise_cons.2 ⟨fun r hr => ?_, ih hmore⟩
              rcases mem_insertPath.1 hr with rfl | hr
              · exact hqp
              · exact hq r hr

theorem mem_foldr_insertPath {q : List String} {found others : List (List String)} :
    q ∈ found.foldr insertPath others ↔ q ∈ found ∨ q ∈ others := by
  induction found with
  | nil => rw [List.foldr_nil, List.mem_nil_iff, false_or]
  | cons p more ih => rw [List.foldr_cons, mem_insertPath, ih, List.mem_cons, or_assoc]

theorem foldr_insertPath_pairwise {others : List (List String)} (h : others.Pairwise (· < ·))
    (found : List (List String)) : (found.foldr insertPath others).Pairwise (· < ·) := by
  induction found with
  | nil => exact h
  | cons p more ih => exact insertPath_pairwise ih p

end Discovery

/-! ## Rules and names -/

/-- Holds of a path that rules ignore: the last of them that applies is not negated. -/
def IgnoreRules.Ignored (rules : List IgnoreRule) (path : List Char) (isDirectory : Bool) : Prop :=
  ∃ before rule after, rules = before ++ rule :: after ∧ rule.applies path isDirectory = true ∧
    (∀ later ∈ after, later.applies path isDirectory = false) ∧ rule.negated = false

theorem IgnoreRules.ignores_iff (rules : List IgnoreRule) (path : List Char) (isDirectory : Bool) :
    ignores rules path isDirectory = true ↔ Ignored rules path isDirectory := by
  rw [ignores]
  constructor
  · intro h
    split at h
    · next rule hfind =>
        obtain ⟨happlies, after, before, hrules, hafter⟩ := List.find?_eq_some_iff_append.1 hfind
        refine ⟨before.reverse, rule, after.reverse, ?_, happlies, fun later hlater => ?_, ?_⟩
        · rw [← List.reverse_reverse rules, hrules, List.reverse_append, List.reverse_cons,
            List.append_assoc, List.singleton_append]
        · simpa using hafter later (List.mem_reverse.1 hlater)
        · simpa using h
    · exact absurd h Bool.false_ne_true
  · rintro ⟨before, rule, after, rfl, happlies, hafter, hnegated⟩
    have hfind : (before ++ rule :: after).reverse.find? (·.applies path isDirectory) =
        some rule := by
      rw [List.find?_eq_some_iff_append]
      refine ⟨happlies, after.reverse, before.reverse, ?_, fun later hlater => ?_⟩
      · rw [List.reverse_append, List.reverse_cons, List.append_assoc, List.singleton_append]
      · rw [hafter later (List.mem_reverse.1 hlater), Bool.not_false]
    rw [hfind]
    exact congrArg Bool.not hnegated

/-! ## Names that no file has -/

theorem Path.ofString_of_name {name : String} (hslash : '/' ∉ name.toList) (hne : name ≠ "")
    (hdot : name ≠ ".") : ofString name = ⟨0, [name]⟩ := by
  have hfront : name.toList.takeWhile (· = '/') = [] := by
    cases hchars : name.toList with
    | nil => rfl
    | cons c rest =>
        rw [hchars] at hslash
        have hc : c ≠ '/' := fun hc => hslash (hc ▸ List.mem_cons_self)
        exact List.takeWhile_cons_of_neg (by simpa using hc)
  rw [ofString, hfront, Text.splitAt_of_not_mem hslash, List.map_singleton, String.ofList_toList,
    List.filter_cons_of_pos (by simp [hne, hdot])]
  rfl

namespace Files

/-- No directory holds a name of too many bytes, and nothing more is said of it than that. -/
theorem find_of_long_name {f : Files} {entries : List (String × FileTree)} {name : String}
    (htree : f.tree = .directory entries) (hworking : f.working = [])
    (hslash : '/' ∉ name.toList) (hend : Char.ofNat 0 ∉ name.toList)
    (hlong : longestName < name.utf8ByteSize) (hfits : name.utf8ByteSize ≤ longestPath) :
    f.find (Path.ofString name) = .error .nameTooLong := by
  have hne {short : String} (hshort : short.utf8ByteSize ≤ longestName) : name ≠ short :=
    fun h => absurd hlong (by rw [h]; exact Nat.not_lt.2 hshort)
  have hpath := Path.ofString_of_name hslash (hne (by decide)) (hne (by decide))
  have htext : Path.text ⟨0, [name]⟩ = name := String.ofList_toList
  have hfault : pathFault? ⟨0, [name]⟩ = none := by
    rw [pathFault?, htext, if_neg, if_neg (Nat.not_lt.2 hfits)]
    rw [List.any_cons, List.any_nil, Bool.or_false, List.contains_iff_mem]
    exact hend
  have hfollow : ∀ whole, follow whole f.tree [] [name] = .error .nameTooLong := by
    intro whole
    rw [htree, follow]
    dsimp only [here]
    rw [if_neg (hne (by decide)), isTooLong, if_pos (decide_eq_true hlong)]
  rw [find, hpath, hfault, hworking]
  exact hfollow _

theorem expand_of_name {f : Files} {name : String} (hslash : '/' ∉ name.toList) (hne : name ≠ "")
    (hdot : name ≠ ".") (htilde : name.toList.head? ≠ some '~') :
    f.expand (Path.ofString name) = .ok (Path.ofString name) := by
  rw [Path.ofString_of_name hslash hne hdot]
  simp only [expand]
  split
  · next huser => exact absurd (by rw [huser]; rfl) htilde
  · rfl

theorem locate_of_expand {f : Files} {p place : Path} (h : f.expand p = .ok place) :
    f.locate p = (f.find place).mapError fun fault => .file ⟨fault, place.text⟩ := by
  rw [locate, h]

end Files

namespace Discovery

/-! ## The walk through a directory -/

/-- A file below a directory, by the names of the directories on the way and its own. -/
inductive HoldsFile : List (String × FileTree) → List String → String → Prop where
  | direct {entries : List (String × FileTree)} {name : String} {bytes : List UInt8}
      (h : (name, .file bytes) ∈ entries) : HoldsFile entries [] name
  | inside {entries inner : List (String × FileTree)} {dir name : String} {dirs : List String}
      (h : (dir, .directory inner) ∈ entries) (hfile : HoldsFile inner dirs name) :
      HoldsFile entries (dir :: dirs) name

/-- Holds of a directory that is not left out. -/
def IsSearched (s : Search) (above : List String) (dir : String) : Prop :=
  dir ∉ toolDirectories ∧ ¬ IgnoreRules.Ignored s.rules (pathOf above dir) true

/-- A document below a searched directory, by the names of the directories on the way and its
own; `above` are the names from the searched directory down to where these start. -/
structure IsDocument (s : Search) (above : List String) (entries : List (String × FileTree))
    (dirs : List String) (name : String) : Prop where
  file : HoldsFile entries dirs name
  included : ∃ glob ∈ s.includes, Glob.holds glob.toList (Text.lower name.toList) = true
  kept : ¬ IgnoreRules.Ignored s.rules (pathOf (above ++ dirs) name) false
  searched : ∀ front dir back, dirs = front ++ dir :: back → IsSearched s (above ++ front) dir

theorem takesFile_iff (s : Search) (above : List String) (name : String) :
    takesFile s above name = true ↔
      (∃ glob ∈ s.includes, Glob.holds glob.toList (Text.lower name.toList) = true) ∧
        ¬ IgnoreRules.Ignored s.rules (pathOf above name) false := by
  rw [takesFile, isIncluded, Bool.and_eq_true, List.any_eq_true, Bool.not_eq_true',
    Bool.eq_false_iff, Ne, IgnoreRules.ignores_iff]

theorem entersDirectory_iff (s : Search) (above : List String) (dir : String) :
    entersDirectory s above dir = true ↔ IsSearched s above dir := by
  rw [entersDirectory, IsSearched, Bool.and_eq_true, Bool.not_eq_true', Bool.not_eq_true',
    Bool.eq_false_iff, Bool.eq_false_iff, Ne, Ne, List.contains_iff_mem, IgnoreRules.ignores_iff]

theorem isDocument_nil_iff {s : Search} {above : List String}
    {entries : List (String × FileTree)} {name : String} :
    IsDocument s above entries [] name ↔
      (∃ bytes, (name, .file bytes) ∈ entries) ∧ takesFile s above name = true := by
  rw [takesFile_iff]
  constructor
  · rintro ⟨hfile, hincluded, hkept, -⟩
    rw [List.append_nil] at hkept
    cases hfile with
    | direct h => exact ⟨⟨_, h⟩, hincluded, hkept⟩
  · rintro ⟨⟨bytes, h⟩, hincluded, hkept⟩
    refine ⟨.direct h, hincluded, by rwa [List.append_nil], fun front dir back h => ?_⟩
    simp at h

theorem isDocument_cons_iff {s : Search} {above : List String}
    {entries : List (String × FileTree)} {dir name : String} {dirs : List String} :
    IsDocument s above entries (dir :: dirs) name ↔
      ∃ inner, (dir, .directory inner) ∈ entries ∧ entersDirectory s above dir = true ∧
        IsDocument s (above ++ [dir]) inner dirs name := by
  rw [entersDirectory_iff]
  constructor
  · rintro ⟨hfile, hincluded, hkept, hsearched⟩
    cases hfile with
    | @inside _ inner _ _ _ h hfile =>
        have hdir := hsearched [] dir dirs rfl
        rw [List.append_nil] at hdir
        refine ⟨inner, h, hdir, hfile, hincluded, ?_, fun front d back hdirs => ?_⟩
        · rwa [List.append_assoc]
        · rw [List.append_assoc]
          exact hsearched (dir :: front) d back (by rw [hdirs, List.cons_append])
  · rintro ⟨inner, h, hdir, hfile, hincluded, hkept, hsearched⟩
    refine ⟨.inside h hfile, hincluded, ?_, fun front d back hdirs => ?_⟩
    · rwa [List.append_assoc] at hkept
    · cases front with
      | nil =>
          cases hdirs
          rwa [List.append_nil]
      | cons first front =>
          obtain ⟨rfl, hrest⟩ := List.cons.inj hdirs
          have hd := hsearched front d back hrest
          rwa [List.append_assoc] at hd

theorem isDocument_cons_entry_iff {s : Search} {above : List String}
    {entry : String × FileTree} {more : List (String × FileTree)} {dirs : List String}
    {name : String} :
    IsDocument s above (entry :: more) dirs name ↔
      IsDocument s above [entry] dirs name ∨ IsDocument s above more dirs name := by
  cases dirs with
  | nil =>
      simp only [isDocument_nil_iff, List.mem_cons, List.not_mem_nil, or_false, exists_or]
      rw [or_and_right]
  | cons dir dirs =>
      simp only [isDocument_cons_iff, List.mem_cons, List.not_mem_nil, or_false, or_and_right,
        exists_or]

mutual

theorem mem_documentsAt (s : Search) (p : List String) (name : String) :
    ∀ (node : FileTree) (above : List String), p ∈ documentsAt s above name node ↔
      ∃ dirs file, p = above ++ dirs ++ [file] ∧ IsDocument s above [(name, node)] dirs file
  | .file bytes, above => by
      rw [documentsAt]
      constructor
      · split
        · next h =>
            intro hp
            refine ⟨[], name, ?_, isDocument_nil_iff.2 ⟨⟨bytes, List.mem_singleton_self _⟩, h⟩⟩
            rw [List.append_nil]
            exact List.mem_singleton.1 hp
        · exact fun hp => absurd hp List.not_mem_nil
      · rintro ⟨dirs, file, rfl, hdocument⟩
        cases dirs with
        | nil =>
            obtain ⟨⟨_, hmem⟩, htakes⟩ := isDocument_nil_iff.1 hdocument
            cases List.mem_singleton.1 hmem
            rw [if_pos htakes, List.append_nil]
            exact List.mem_singleton_self _
        | cons dir dirs =>
            obtain ⟨inner, hmem, -⟩ := isDocument_cons_iff.1 hdocument
            exact nomatch List.mem_singleton.1 hmem
  | .directory entries, above => by
      rw [documentsAt]
      -- The name of the directory goes over from the way to what is above.
      have hinner := mem_documentsIn s p entries (above ++ [name])
      constructor
      · split
        · next h =>
            intro hp
            obtain ⟨dirs, file, rfl, hdocument⟩ := hinner.1 hp
            refine ⟨name :: dirs, file, ?_,
              isDocument_cons_iff.2 ⟨entries, List.mem_singleton_self _, h, hdocument⟩⟩
            rw [List.append_cons above name dirs]
        · exact fun hp => absurd hp List.not_mem_nil
      · rintro ⟨dirs, file, rfl, hdocument⟩
        cases dirs with
        | nil =>
            obtain ⟨⟨_, hmem⟩, -⟩ := isDocument_nil_iff.1 hdocument
            exact nomatch List.mem_singleton.1 hmem
        | cons dir dirs =>
            obtain ⟨inner, hmem, henters, hdocument⟩ := isDocument_cons_iff.1 hdocument
            cases List.mem_singleton.1 hmem
            rw [if_pos henters]
            exact hinner.2 ⟨dirs, file, by rw [List.append_cons above name dirs], hdocument⟩

/-- What the walk yields is the files of which each directory on the way and the file itself
pass. -/
theorem mem_documentsIn (s : Search) (p : List String) :
    ∀ (entries : List (String × FileTree)) (above : List String),
      p ∈ documentsIn s above entries ↔
        ∃ dirs file, p = above ++ dirs ++ [file] ∧ IsDocument s above entries dirs file
  | [], above => by
      rw [documentsIn]
      refine iff_of_false List.not_mem_nil ?_
      rintro ⟨dirs, file, -, hdocument⟩
      cases hdocument.file with
      | direct h => exact absurd h List.not_mem_nil
      | inside h _ => exact absurd h List.not_mem_nil
  | (name, node) :: more, above => by
      rw [documentsIn, List.mem_append, mem_documentsAt s p name node above,
        mem_documentsIn s p more above]
      have hentry (dirs : List String) (file : String) :
          IsDocument s above ((name, node) :: more) dirs file ↔
            IsDocument s above [(name, node)] dirs file ∨ IsDocument s above more dirs file :=
        isDocument_cons_entry_iff
      simp only [hentry, and_or_left, exists_or]

end

/-! ## The documents of a run -/

/-- Holds of what stands at a listed path, with its names from the root. -/
def StandsAt (files : Files) (raw : String) (names : List String) (node : FileTree) : Prop :=
  ∃ trail, files.locate (Path.ofString raw) = .ok trail ∧ Files.names trail = names ∧
    Files.here files.tree trail = node

theorem StandsAt.of_locate {files : Files} {raw : String} {trail : Files.Trail}
    (h : files.locate (Path.ofString raw) = .ok trail) {names : List String} {node : FileTree}
    (hstands : StandsAt files raw names node) :
    names = Files.names trail ∧ node = Files.here files.tree trail := by
  obtain ⟨trail', htrail, rfl, rfl⟩ := hstands
  cases h.symm.trans htrail
  exact ⟨rfl, rfl⟩

/-- How a search ends at a listed path that leads to no place. -/
inductive Misses (files : Files) (raw : String) : SearchError → Prop where
  /-- The path begins in a home directory that cannot be told. -/
  | home {fault : HomeFault} (h : files.expand (Path.ofString raw) = .error fault) :
      Misses files raw (.home fault)
  /-- No file can have a name, or a path, as long as this. -/
  | tooLong {place : Path} (h : files.expand (Path.ofString raw) = .ok place)
      (hfind : files.find place = .error .nameTooLong) :
      Misses files raw (.file ⟨.nameTooLong, place.text⟩)
  /-- Nothing stands there. -/
  | absent {place : Path} {fault : FileFault} (h : files.expand (Path.ofString raw) = .ok place)
      (hfind : files.find place = .error fault) (hfault : fault ≠ .nameTooLong) :
      Misses files raw (.notFound raw)

theorem Misses.of_locate {files : Files} {raw : String} {lost : Lost}
    (h : files.locate (Path.ofString raw) = .error lost) : Misses files raw (lostPath raw lost) := by
  rw [Files.locate] at h
  split at h
  · next fault hexpand =>
      cases h
      exact .home hexpand
  · next place hexpand =>
      cases hfind : files.find place with
      | ok trail =>
          rw [hfind] at h
          cases h
      | error fault =>
          rw [hfind] at h
          cases h
          rw [lostPath]
          cases fault
          case nameTooLong => exact .tooLong hexpand hfind
          all_goals exact .absent hexpand hfind (by decide)

/-- Holds when the ignore files of listed directories are text. -/
def IgnoreFilesRead (files : Files) (paths : List String) : Prop :=
  ∀ raw ∈ paths, ∀ root entries bytes, StandsAt files raw root (.directory entries) →
    entries.lookup ".gitignore" = some (.file bytes) → ∃ text, Utf8.decode bytes = .ok text

/-- The documents that a listed path asks for, by their names from the root. -/
inductive Asks (includes excludes : List String) (files : Files) (raw : String) :
    List String → Prop where
  /-- A listed file, whatever its name. -/
  | file {names : List String} {bytes : List UInt8} (h : StandsAt files raw names (.file bytes)) :
      Asks includes excludes files raw names
  /-- A document below a listed directory. -/
  | below {root dirs : List String} {name : String} {entries : List (String × FileTree)}
      {rules : List IgnoreRule} (h : StandsAt files raw root (.directory entries))
      (hrules : ignoreFileRules entries = .ok rules)
      (hdocument : IsDocument
        ⟨includes, rules ++ IgnoreRules.ofLines (excludes.map String.toList)⟩ [] entries dirs
        name) :
      Asks includes excludes files raw (root ++ dirs ++ [name])

variable {includes excludes : List String} {files : Files} {raw : String} {paths : List String}

theorem ignoreFileRules_eq_ok {entries : List (String × FileTree)}
    (h : ∀ bytes, entries.lookup ".gitignore" = some (.file bytes) →
      ∃ text, Utf8.decode bytes = .ok text) : ∃ rules, ignoreFileRules entries = .ok rules := by
  rw [ignoreFileRules]
  split
  · next bytes hfile =>
      obtain ⟨text, htext⟩ := h bytes hfile
      rw [Files.textOf, htext]
      exact ⟨_, rfl⟩
  · exact ⟨_, rfl⟩

theorem documentsOf_eq_ok (includes excludes : List String) {trail : Files.Trail}
    (h : files.locate (Path.ofString raw) = .ok trail)
    (hread : ∀ root entries bytes, StandsAt files raw root (.directory entries) →
      entries.lookup ".gitignore" = some (.file bytes) →
        ∃ text, Utf8.decode bytes = .ok text) :
    ∃ found, documentsOf includes excludes files raw = .ok found ∧
      ∀ p, p ∈ found ↔ Asks includes excludes files raw p := by
  rw [documentsOf, h]
  dsimp only
  cases hnode : Files.here files.tree trail with
  | file bytes =>
      refine ⟨_, rfl, fun p => ?_⟩
      rw [List.mem_singleton]
      constructor
      · rintro rfl
        exact .file ⟨trail, h, rfl, hnode⟩
      · intro hasks
        cases hasks with
        | file hstands => exact (hstands.of_locate h).1
        | below hstands _ _ => exact nomatch (hstands.of_locate h).2.trans hnode
  | directory entries =>
      obtain ⟨rules, hrules⟩ :=
        ignoreFileRules_eq_ok fun bytes => hread _ entries bytes ⟨trail, h, rfl, hnode⟩
      have hsearch : searchDirectory includes excludes entries = .ok (documentsIn
          ⟨includes, rules ++ IgnoreRules.ofLines (excludes.map String.toList)⟩ [] entries) := by
        rw [searchDirectory, hrules]
        rfl
      dsimp only
      rw [hsearch]
      refine ⟨_, rfl, fun p => ?_⟩
      rw [List.mem_map]
      constructor
      · rintro ⟨q, hq, rfl⟩
        obtain ⟨dirs, name, rfl, hdocument⟩ := (mem_documentsIn _ q entries []).1 hq
        rw [List.nil_append, ← List.append_assoc]
        exact .below ⟨trail, h, rfl, hnode⟩ hrules hdocument
      · intro hasks
        cases hasks with
        | file hstands => exact nomatch (hstands.of_locate h).2.trans hnode
        | @below _ dirs name _ _ hstands hrules' hdocument =>
            obtain ⟨rfl, hnode'⟩ := hstands.of_locate h
            cases hnode'.trans hnode
            cases hrules.symm.trans hrules'
            refine ⟨dirs ++ [name], (mem_documentsIn _ _ entries []).2 ⟨dirs, name, rfl, hdocument⟩,
              ?_⟩
            rw [List.append_assoc]

theorem documentsOf_eq_error {lost : Lost}
    (h : files.locate (Path.ofString raw) = .error lost) :
    documentsOf includes excludes files raw = .error (lostPath raw lost) := by
  rw [documentsOf, h]

/-- Documents are found at every path up to the first at which nothing stands. -/
theorem collectFrom_cases (includes excludes : List String) (hread : IgnoreFilesRead files paths) :
    (∃ found, collectFrom includes excludes files paths = .ok found ∧
      (∀ raw ∈ paths, ∃ trail, files.locate (Path.ofString raw) = .ok trail) ∧
      found.Pairwise (· < ·) ∧
      ∀ p, p ∈ found ↔ ∃ raw ∈ paths, Asks includes excludes files raw p) ∨
    ∃ before raw after lost, paths = before ++ raw :: after ∧
      (∀ q ∈ before, ∃ trail, files.locate (Path.ofString q) = .ok trail) ∧
      files.locate (Path.ofString raw) = .error lost ∧
      collectFrom includes excludes files paths = .error (lostPath raw lost) := by
  induction paths with
  | nil =>
      refine .inl ⟨[], rfl, fun _ h => absurd h List.not_mem_nil, .nil, fun p => ?_⟩
      refine iff_of_false List.not_mem_nil ?_
      rintro ⟨raw, h, -⟩
      exact List.not_mem_nil h
  | cons raw more ih =>
      rw [collectFrom]
      cases hlocate : files.locate (Path.ofString raw) with
      | error lost =>
          refine .inr ⟨[], raw, more, lost, rfl, fun _ h => absurd h List.not_mem_nil, hlocate, ?_⟩
          rw [documentsOf_eq_error hlocate]
          rfl
      | ok trail =>
          obtain ⟨found, hfound, hmem⟩ := documentsOf_eq_ok includes excludes hlocate
            (hread raw List.mem_cons_self)
          rw [hfound]
          obtain ⟨others, hothers, hall, hsorted, hmore⟩ |
            ⟨before, r, after, lost, rfl, hbefore, hr, herror⟩ :=
            ih fun q hq => hread q (List.mem_cons_of_mem _ hq)
          · refine .inl ⟨found.foldr insertPath others, ?_, ?_,
              foldr_insertPath_pairwise hsorted found, fun p => ?_⟩
            · rw [hothers]
              rfl
            · intro q hq
              rcases List.mem_cons.1 hq with rfl | hq
              · exact ⟨trail, hlocate⟩
              · exact hall q hq
            · rw [mem_foldr_insertPath, hmem, hmore]
              simp only [List.mem_cons, or_and_right, exists_or, exists_eq_left]
          · refine .inr ⟨raw :: before, r, after, lost, rfl, fun q hq => ?_, hr, ?_⟩
            · rcases List.mem_cons.1 hq with rfl | hq
              · exact ⟨trail, hlocate⟩
              · exact hbefore q hq
            · rw [herror]
              rfl

/-- Which documents are found does not depend on the order of the listed paths, nor on how often
one of them is listed. -/
theorem collectFrom_congr {paths' : List String} (hread : IgnoreFilesRead files paths)
    (hsame : ∀ raw, raw ∈ paths' ↔ raw ∈ paths) {found : List (List String)}
    (h : collectFrom includes excludes files paths = .ok found) :
    collectFrom includes excludes files paths' = .ok found := by
  obtain ⟨found', hfound', hall, hsorted, hmem⟩ | ⟨_, _, _, _, _, _, _, herror⟩ :=
    collectFrom_cases includes excludes hread
  · cases h.symm.trans hfound'
    obtain ⟨others, hothers, -, hothersSorted, hothersMem⟩ |
      ⟨before, raw, after, lost, hpaths', -, hraw, -⟩ :=
      collectFrom_cases includes excludes
        fun raw (hraw : raw ∈ paths') => hread raw ((hsame raw).1 hraw)
    · rw [hothers]
      refine congrArg _ (hothersSorted.eq_of_mem_iff hsorted fun p => ?_)
      rw [hothersMem, hmem]
      simp only [hsame]
    · have hin : raw ∈ paths :=
        (hsame raw).1 (by rw [hpaths']; exact List.mem_append_right _ List.mem_cons_self)
      obtain ⟨trail, htrail⟩ := hall raw hin
      exact nomatch htrail.symm.trans hraw
  · exact nomatch h.symm.trans herror

/-- Nothing below a directory that is left out is found, whatever is said of it. -/
theorem not_mem_documentsIn {s : Search} {front rest : List String} {dir : String}
    (hdir : ¬ IsSearched s front dir) (hrest : rest ≠ []) (entries : List (String × FileTree)) :
    front ++ dir :: rest ∉ documentsIn s [] entries := by
  intro hmem
  obtain ⟨dirs, name, hp, hdocument⟩ := (mem_documentsIn s _ entries []).1 hmem
  refine hdir (hdocument.searched front dir rest.dropLast ?_)
  have hlast := congrArg List.dropLast hp
  rw [List.nil_append, List.dropLast_concat, List.dropLast_append_of_ne_nil (List.cons_ne_nil _ _),
    List.dropLast_cons_of_ne_nil hrest] at hlast
  exact hlast.symm

end Discovery

end DocExamples
