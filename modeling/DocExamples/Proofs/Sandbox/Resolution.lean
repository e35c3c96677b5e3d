import DocExamples.Proofs.Json.Reading
import DocExamples.Proofs.Script.Replies
import DocExamples.Sandbox.Host

/-!
# Which module a name gets, and what is replied

A name is tried on the patterns in the order in which they are declared. `Answers` says
which of them is asked: it is found in the name, and none that is declared in front of it
is. What its maker is given is settled by the name alone, and what the maker gives or how it
fails is the result, even if there is a module of just that name. The patterns that are
passed over and those behind the one that answers do not matter, which is why each of them
can be taken away.

A request for a module has a reply in any case, since whatever goes wrong on the way ends
up as words in it. The reply is JSON, and both sides read the same object out of it.
-/

namespace DocExamples

namespace Pattern

/-- Holds of what a pattern finds first in a text. -/
def Finds (pattern : Pattern) (text : List Char) (found : Found) : Prop :=
  ∃ i ≤ text.length, matchAt pattern text.toArray i = some found ∧
    ∀ j < i, matchAt pattern text.toArray j = none

/-- Holds if a pattern matches nowhere in a text. -/
def Misses (pattern : Pattern) (text : List Char) : Prop :=
  ∀ i ≤ text.length, matchAt pattern text.toArray i = none

theorem searchFrom_eq_some_iff {pattern : Pattern} {s : Subject} {found : Found} {first n : Nat} :
    searchFrom pattern s first n = some found ↔
      ∃ k < n, matchAt pattern s (first + k) = some found ∧
        ∀ j < k, matchAt pattern s (first + j) = none := by
  induction n generalizing first with
  | zero => exact iff_of_false (fun h => nomatch h) fun ⟨k, hk, _⟩ => absurd hk (Nat.not_lt_zero k)
  | succ n ih =>
      rw [searchFrom]
      cases hfirst : matchAt pattern s first with
      | some here =>
          constructor
          · intro heq
            exact ⟨0, Nat.succ_pos n, hfirst.trans heq, fun j hj => absurd hj (Nat.not_lt_zero j)⟩
          · rintro ⟨k, -, hk, hbefore⟩
            cases k with
            | zero => exact hfirst.symm.trans hk
            | succ k => exact nomatch hfirst.symm.trans (hbefore 0 (Nat.succ_pos k))
      | none =>
          -- Position `k + 1` from here is position `k` from the next one.
          have hshift : ∀ k, first + 1 + k = first + (k + 1) := Nat.add_right_comm first 1
          refine ih.trans ⟨?_, ?_⟩
          · rintro ⟨k, hk, hat, hbefore⟩
            refine ⟨k + 1, Nat.succ_lt_succ hk, hshift k ▸ hat, fun j hj => ?_⟩
            cases j with
            | zero => exact hfirst
            | succ j => exact hshift j ▸ hbefore j (Nat.lt_of_succ_lt_succ hj)
          · rintro ⟨k, hk, hat, hbefore⟩
            cases k with
            | zero => exact nomatch hfirst.symm.trans hat
            | succ k =>
                refine ⟨k, Nat.lt_of_succ_lt_succ hk, (hshift k).symm ▸ hat, fun j hj => ?_⟩
                exact (hshift j).symm ▸ hbefore (j + 1) (Nat.succ_lt_succ hj)

theorem search_eq_some_iff {pattern : Pattern} {text : List Char} {found : Found} :
    pattern.search text = some found ↔ pattern.Finds text found := by
  rw [search, searchFrom_eq_some_iff]
  simp only [Finds, Nat.zero_add, Nat.lt_succ_iff]

theorem search_eq_none_iff {pattern : Pattern} {text : List Char} :
    pattern.search text = none ↔ pattern.Misses text := by
  constructor
  · intro h i
    induction i using Nat.strongRecOn with
    | _ i ih =>
        intro hi
        cases hat : matchAt pattern text.toArray i with
        | none => rfl
        | some found =>
            have hfinds : pattern.Finds text found :=
              ⟨i, hi, hat, fun j hj => ih j hj (Nat.le_of_lt (Nat.lt_of_lt_of_le hj hi))⟩
            exact nomatch h.symm.trans (search_eq_some_iff.2 hfinds)
  · intro h
    cases hsearch : pattern.search text with
    | none => rfl
    | some found =>
        obtain ⟨i, hi, hat, -⟩ := search_eq_some_iff.1 hsearch
        exact nomatch (h i hi).symm.trans hat

theorem Finds.length_groups {pattern : Pattern} {text : List Char} {found : Found}
    (h : pattern.Finds text found) : found.groups.length = pattern.groups := by
  obtain ⟨i, -, hat, -⟩ := h
  obtain ⟨p, -, rfl⟩ := Option.map_eq_some_iff.1 hat
  rw [List.length_map, List.length_range]

end Pattern

namespace Resolver

variable {r : Resolver} {name : String}

/-! ## The pattern that answers -/

/-- Holds of the pattern that answers for a name, by its maker and by what it finds: none in
front of it matches. -/
def Answers (patterns : List (Pattern × Maker)) (name : String) (make : Maker)
    (found : Pattern.Found) : Prop :=
  ∃ before pattern after, patterns = before ++ (pattern, make) :: after ∧
    (∀ p ∈ before, p.1.Misses name.toList) ∧ pattern.Finds name.toList found

theorem byPattern?_cons_of_misses {p : Pattern × Maker} (h : p.1.Misses name.toList)
    (more : List (Pattern × Maker)) : byPattern? name (p :: more) = byPattern? name more := by
  rw [byPattern?, Pattern.search_eq_none_iff.2 h]

theorem byPattern?_cons_of_finds {p : Pattern × Maker} {found : Pattern.Found}
    (h : p.1.Finds name.toList found) (more : List (Pattern × Maker)) :
    byPattern? name (p :: more) = some (p.2 (arguments found)) := by
  rw [byPattern?, Pattern.search_eq_some_iff.2 h]

/-- Patterns that match nowhere are passed over. -/
theorem byPattern?_append_of_misses {before : List (Pattern × Maker)}
    (h : ∀ p ∈ before, p.1.Misses name.toList) (more : List (Pattern × Maker)) :
    byPattern? name (before ++ more) = byPattern? name more := by
  induction before with
  | nil => rfl
  | cons p before ih =>
      rw [List.cons_append, byPattern?_cons_of_misses (h p List.mem_cons_self)]
      exact ih fun q hq => h q (List.mem_cons_of_mem p hq)

theorem byPattern?_of_answers {patterns : List (Pattern × Maker)} {make : Maker}
    {found : Pattern.Found} (h : Answers patterns name make found) :
    byPattern? name patterns = some (make (arguments found)) := by
  obtain ⟨before, pattern, after, rfl, hbefore, hfound⟩ := h
  rw [byPattern?_append_of_misses hbefore, byPattern?_cons_of_finds hfound]

theorem exists_answers_or_misses (patterns : List (Pattern × Maker)) (name : String) :
    (∃ make found, Answers patterns name make found) ∨
      ∀ p ∈ patterns, p.1.Misses name.toList := by
  induction patterns with
  | nil => exact .inr fun p hp => absurd hp List.not_mem_nil
  | cons p patterns ih =>
      cases hsearch : p.1.search name.toList with
      | some found =>
          exact .inl ⟨p.2, found, [], p.1, patterns, rfl, fun _ hq => absurd hq List.not_mem_nil,
            Pattern.search_eq_some_iff.1 hsearch⟩
      | none =>
          have hmisses := Pattern.search_eq_none_iff.1 hsearch
          refine ih.imp ?_ fun h => List.forall_mem_cons.2 ⟨hmisses, h⟩
          rintro ⟨make, found, before, pattern, after, rfl, hbefore, hfound⟩
          exact ⟨make, found, p :: before, pattern, after, rfl,
            List.forall_mem_cons.2 ⟨hmisses, hbefore⟩, hfound⟩

/-! ## The module -/

theorem resolve_of_answers {make : Maker} {found : Pattern.Found}
    (h : Answers r.patterns name make found) :
    r.resolve name = (make (arguments found)).mapError .failed := by
  rw [resolve, byPattern?_of_answers h]
  cases make (arguments found) <;> rfl

theorem resolve_of_misses (h : ∀ p ∈ r.patterns, p.1.Misses name.toList) :
    r.resolve name =
      match r.named.lookup name with
      | some module_ => .ok module_
      | none => .error (.notFound name) := by
  have hnone := byPattern?_append_of_misses h []
  rw [List.append_nil] at hnone
  rw [resolve, hnone]
  rfl

/-- Only the first answer counts in front of the modules that have names. -/
theorem resolve_congr {q : Resolver} (hnamed : q.named = r.named)
    (h : byPattern? name q.patterns = byPattern? name r.patterns) :
    q.resolve name = r.resolve name := by
  rw [resolve, resolve, h, hnamed]

/-- A pattern that does not match can be taken away. -/
theorem resolve_without {before after : List (Pattern × Maker)} {p : Pattern × Maker}
    (hpatterns : r.patterns = before ++ p :: after) (hp : p.1.Misses name.toList) :
    { r with patterns := before ++ after }.resolve name = r.resolve name := by
  refine resolve_congr rfl ?_
  rw [hpatterns]
  dsimp only
  clear hpatterns
  induction before with
  | nil => exact (byPattern?_cons_of_misses hp after).symm
  | cons q before ih =>
      rw [List.cons_append, List.cons_append, byPattern?, byPattern?, ih]

/-- What stands behind a pattern that matches can be anything. -/
theorem resolve_behind {before after : List (Pattern × Maker)} {p : Pattern × Maker}
    {found : Pattern.Found} (hpatterns : r.patterns = before ++ p :: after)
    (hp : p.1.Finds name.toList found) (other : List (Pattern × Maker)) :
    { r with patterns := before ++ p :: other }.resolve name = r.resolve name := by
  refine resolve_congr rfl ?_
  rw [hpatterns]
  dsimp only
  clear hpatterns
  induction before with
  | nil =>
      exact (byPattern?_cons_of_finds hp other).trans (byPattern?_cons_of_finds hp after).symm
  | cons q before ih =>
      rw [List.cons_append, List.cons_append, byPattern?, byPattern?, ih]

end Resolver

namespace Sandbox

/-! ## The reply -/

/-- The reply that hands over the source of a module. -/
def sourceReply (source : String) : Json := .obj [("ok", .bool true), ("source", .str source)]

/-- The reply that says why there is no module. -/
def absenceReply (message : String) : Json := .obj [("ok", .bool false), ("message", .str message)]

/-- Holds of the words for the absence of a module. -/
inductive Absent (r : Resolver) (name : String) : String → Prop where
  | notFound : r.resolve name = .error (.notFound name) →
      Absent r name (Resolver.notFoundMessage name)
  /-- A maker can say itself that there is no module. -/
  | toldSo {message : String} :
      r.resolve name = .error (.failed ⟨Resolver.notFoundKind, message⟩) → Absent r name message
  | failed {kind message : String} : r.resolve name = .error (.failed ⟨kind, message⟩) →
      kind ≠ Resolver.notFoundKind →
      Absent r name ("Resolving '" ++ name ++ "' failed: " ++ (kind ++ ": " ++ message))
  | refused {module_ : Data} {refusal : Data.Refusal} : r.resolve name = .ok module_ →
      module_.scriptText = .error refusal →
      Absent r name ("Resolving '" ++ name ++ "' failed: " ++
        (refusal.failure.kind ++ ": " ++ refusal.failure.message))

variable {r : Resolver} {name : String}

theorem moduleSource_eq_ok_iff {source : String} :
    moduleSource r name = .ok source ↔
      ∃ module_, r.resolve name = .ok module_ ∧ module_.scriptText = .ok source := by
  rw [moduleSource]
  cases r.resolve name with
  | error e => cases e <;> exact iff_of_false (fun h => nomatch h) fun ⟨_, h, _⟩ => nomatch h
  | ok module_ =>
      dsimp only
      cases hsource : module_.scriptText with
      | ok text =>
          refine ⟨fun h => ⟨module_, rfl, hsource.trans (congrArg _ (Except.ok.inj h))⟩, ?_⟩
          rintro ⟨_, ⟨⟩, htext⟩
          exact congrArg _ (Except.ok.inj (hsource.symm.trans htext))
      | error refusal =>
          refine iff_of_false (fun h => nomatch h) ?_
          rintro ⟨_, ⟨⟩, htext⟩
          exact nomatch hsource.symm.trans htext

/-- A name that is not found is the one that was asked for. -/
theorem eq_of_resolve_notFound {other : String} (h : r.resolve name = .error (.notFound other)) :
    other = name := by
  rcases Resolver.exists_answers_or_misses r.patterns name with ⟨make, found, hanswers⟩ | hmisses
  · rw [Resolver.resolve_of_answers hanswers] at h
    cases hmade : make (Resolver.arguments found) with
    | ok module_ => rw [hmade] at h; exact nomatch h
    | error f => rw [hmade] at h; exact nomatch h
  · rw [Resolver.resolve_of_misses hmisses] at h
    cases hnamed : r.named.lookup name with
    | some module_ => rw [hnamed] at h; exact nomatch h
    | none =>
        rw [hnamed] at h
        exact (ResolveError.notFound.inj (Except.error.inj h)).symm

theorem moduleSource_eq_error_iff {message : String} :
    moduleSource r name = .error message ↔ Absent r name message := by
  constructor
  · intro h
    rw [moduleSource] at h
    cases hresolve : r.resolve name with
    | ok module_ =>
        rw [hresolve] at h
        dsimp only at h
        cases hsource : module_.scriptText with
        | ok source => rw [hsource] at h; exact nomatch h
        | error refusal =>
            rw [hsource] at h
            obtain rfl := Except.error.inj h
            exact .refused hresolve hsource
    | error e =>
        rw [hresolve] at h
        cases e with
        | notFound other =>
            obtain rfl := eq_of_resolve_notFound hresolve
            obtain rfl := Except.error.inj h
            exact .notFound hresolve
        | failed f =>
            obtain ⟨kind, text⟩ := f
            dsimp only at h
            obtain rfl := Except.error.inj h
            split
            · next hkind => subst hkind; exact .toldSo hresolve
            · next hkind => exact .failed hresolve hkind
  · rw [moduleSource]
    rintro (h | h | ⟨h, hkind⟩ | ⟨h, hrefused⟩)
    · rw [h]
    · rw [h]
      dsimp only
      rw [if_pos rfl]
    · rw [h]
      dsimp only
      rw [if_neg hkind]
      rfl
    · rw [h]
      dsimp only
      rw [hrefused]
      rfl

theorem requireReply_eq_source_iff {source : String} :
    requireReply r name = sourceReply source ↔ moduleSource r name = .ok source := by
  rw [requireReply]
  cases moduleSource r name <;> simp [sourceReply]

theorem requireReply_eq_absence_iff {message : String} :
    requireReply r name = absenceReply message ↔ moduleSource r name = .error message := by
  rw [requireReply]
  cases moduleSource r name <;> simp [absenceReply]

/-- Both sides read the reply that was meant. -/
theorem read_requireReply (r : Resolver) (name : String) :
    Json.read (requireReply r name).render.toList = .ok (requireReply r name) ∧
      Script.JsonReader.read (requireReply r name).render.toList = .ok (requireReply r name) := by
  rw [Json.render, String.toList_ofList, requireReply]
  cases moduleSource r name with
  | ok source => exact ⟨Json.read_answer _ (by decide) _, Script.JsonReader.read_answer _ _ _⟩
  | error message => exact ⟨Json.read_answer _ (by decide) _, Script.JsonReader.read_answer _ _ _⟩

end Sandbox

end DocExamples
