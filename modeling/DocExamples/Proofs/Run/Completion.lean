import DocExamples.Proofs.Document.Tags
import DocExamples.Run.Rehearsal
import DocExamples.Run.Runner

/-!
# Runs that come to their end

Three things stop a run before its end: a pattern of the configuration that cannot be
read, a document that is not there, and a fence whose tag is accepted and not found.
None of them is a matter of the examples: whatever the calls of a run do, it goes on.

The first two are refused before a run starts or are its caller's to avoid. The third
comes from a text that could be read, so one such fence costs the results of all other
documents. `unknownTag_iff_strays` says which texts do that.
-/

namespace DocExamples

/-- Every pattern of the configuration can be read. -/
def Config.PatternsRead (c : Config) : Prop :=
  ∀ x ∈ c.regexRequire, ∃ pattern, Pattern.read x.1.toList = .ok pattern

theorem Resolver.readPatterns_eq_ok {handlers : List (String × Handler)}
    (h : ∀ x ∈ handlers, ∃ pattern, Pattern.read x.1.toList = .ok pattern) :
    ∃ patterns, readPatterns handlers = .ok patterns := by
  induction handlers with
  | nil => exact ⟨[], rfl⟩
  | cons x more ih =>
      obtain ⟨⟨pattern, hpattern⟩, hmore⟩ := List.forall_mem_cons.1 h
      obtain ⟨patterns, hpatterns⟩ := ih hmore
      refine ⟨(pattern, x.2.make) :: patterns, ?_⟩
      rw [readPatterns, hpattern, hpatterns]
      rfl

theorem Sandbox.ofConfig_eq_ok {c : Config} (h : c.PatternsRead) :
    ∃ s, ofConfig c = .ok s := by
  obtain ⟨patterns, hpatterns⟩ := Resolver.readPatterns_eq_ok h
  refine ⟨⟨⟨patterns, c.require⟩, c.globals, {}⟩, ?_⟩
  rw [ofConfig, Resolver.ofConfig, hpatterns]
  rfl

namespace Run

variable {σ : Type} {c : Config} {e : Engine σ}

theorem makeSandbox_eq_ok_iff {r r' : Run σ} {s : Numbered} :
    makeSandbox c r = .ok (s, r') ↔
      Sandbox.ofConfig c = .ok s.sandbox ∧ s.number = r.sandboxes ∧
        r' = { r with sandboxes := r.sandboxes + 1 } := by
  rw [makeSandbox]
  cases Sandbox.ofConfig c with
  | error x => exact iff_of_false (nomatch ·) fun h => nomatch h.1
  | ok sandbox =>
      constructor
      · rintro ⟨⟩
        exact ⟨rfl, rfl, rfl⟩
      · rintro ⟨hsandbox, hnumber, rfl⟩
        obtain ⟨number, _⟩ := s
        cases hsandbox
        cases hnumber
        rfl

/-! ## One source after the other -/

/-- The source has examples, or an error that a run notes and passes over. -/
def Settled (x : Source) : Prop :=
  (∃ parsed, x.2 = .ok parsed) ∨ ∃ err, x.2 = .error (.noted err)

/-- A document without results is noted, and the run goes on. -/
theorem documents_noted (r : Run σ) (path : String) (err : DocumentError)
    (more : List Source) :
    documents c e r ((path, .error (.noted err)) :: more) =
      (documents c e ((r.note .info ("Testing " ++ path)).note .error
        ("Skipping " ++ path ++ ": " ++ err.message)) more).map fun rest =>
          { rest with errors := err :: rest.errors } := by
  rw [documents]
  cases documents c e _ more <;> rfl

/-- The results of a document stand in front of those of the documents behind it. -/
theorem documents_parsed (r : Run σ) (path : String) (parsed : Parsed)
    (more : List Source) :
    documents c e r ((path, .ok parsed) :: more) =
      (document c e parsed (r.note .info ("Testing " ++ path))).bind fun x =>
        (documents c e x.2 more).map fun rest =>
          { rest with results := x.1 ++ rest.results } := by
  rw [documents]
  cases document c e parsed (r.note .info ("Testing " ++ path)) with
  | error stop => rfl
  | ok x =>
      obtain ⟨results, r₁⟩ := x
      dsimp only [Except.bind]
      cases documents c e r₁ more <;> rfl

section Ends

variable (h : c.PatternsRead)
include h

theorem makeSandbox_eq_ok (r : Run σ) : ∃ s r', makeSandbox c r = .ok (s, r') := by
  obtain ⟨sandbox, hsandbox⟩ := Sandbox.ofConfig_eq_ok h
  exact ⟨⟨r.sandboxes, sandbox⟩, _, makeSandbox_eq_ok_iff.2 ⟨hsandbox, rfl, rfl⟩⟩

theorem snippetAlone_eq_ok (e : Engine σ) (snippet : Snippet) (r : Run σ) :
    ∃ x, snippetAlone c e snippet r = .ok x := by
  rw [snippetAlone]
  split
  · exact ⟨_, rfl⟩
  · obtain ⟨s, r', hmake⟩ := makeSandbox_eq_ok h r
    rw [hmake]
    exact ⟨_, rfl⟩

theorem separate_eq_ok (e : Engine σ) (snippets : List Snippet) (r : Run σ) :
    ∃ x, separate c e r snippets = .ok x := by
  induction snippets generalizing r with
  | nil => exact ⟨_, rfl⟩
  | cons snippet more ih =>
      obtain ⟨⟨result, r'⟩, halone⟩ := snippetAlone_eq_ok h e snippet r
      obtain ⟨⟨results, r''⟩, hmore⟩ := ih r'
      refine ⟨(result :: results, r''), ?_⟩
      simp only [separate, halone, hmore]

theorem document_eq_ok (e : Engine σ) (parsed : Parsed) (r : Run σ) :
    ∃ x, document c e parsed r = .ok x := by
  rw [document]
  split
  · obtain ⟨s, r', hmake⟩ := makeSandbox_eq_ok h r
    rw [hmake]
    exact ⟨_, rfl⟩
  · exact separate_eq_ok h e parsed.snippets r

/-- Behind a settled source a run goes on. -/
theorem documents_settled (e : Engine σ) {x : Source} (hx : Settled x) (r : Run σ) :
    ∃ (r' : Run σ) (add : Outcome σ → Outcome σ), ∀ more,
      documents c e r (x :: more) = (documents c e r' more).map add := by
  obtain ⟨path, examples⟩ := x
  rcases hx with ⟨parsed, rfl⟩ | ⟨err, rfl⟩
  · obtain ⟨⟨results, r'⟩, hdocument⟩ :=
      document_eq_ok h e parsed (r.note .info ("Testing " ++ path))
    refine ⟨r', fun rest => { rest with results := results ++ rest.results }, fun more => ?_⟩
    rw [documents_parsed, hdocument]
    rfl
  · exact ⟨_, _, documents_noted r path err⟩

/-- A run over settled sources comes to its end, whatever its calls do. -/
theorem documents_eq_ok (e : Engine σ) {sources : List Source}
    (hsettled : ∀ x ∈ sources, Settled x) (r : Run σ) :
    ∃ out, documents c e r sources = .ok out := by
  induction sources generalizing r with
  | nil => exact ⟨_, rfl⟩
  | cons x more ih =>
      obtain ⟨hx, hmore⟩ := List.forall_mem_cons.1 hsettled
      obtain ⟨r', add, hgoes⟩ := documents_settled h e hx r
      obtain ⟨out, hout⟩ := ih hmore r'
      refine ⟨add out, ?_⟩
      rw [hgoes, hout]
      rfl

/-- The first source with an unknown tag stops the run. -/
theorem documents_eq_tag (e : Engine σ) {before after : List Source} {path : String}
    {t : UnknownTag} (hsettled : ∀ x ∈ before, Settled x) (r : Run σ) :
    documents c e r (before ++ (path, .error (.tag t)) :: after) = .error (.tag t) := by
  induction before generalizing r with
  | nil => rfl
  | cons x more ih =>
      obtain ⟨hx, hmore⟩ := List.forall_mem_cons.1 hsettled
      obtain ⟨r', add, hgoes⟩ := documents_settled h e hx r
      rw [List.cons_append, hgoes, ih hmore]
      rfl

end Ends

/-! ## Texts that stop a run -/

theorem settled_examples {d : Document} (h : ¬ Parse.Strays d.text) :
    Settled (d.path, d.examples) := by
  rw [← Parse.exists_unknownTag_iff d.path] at h
  rw [Document.examples]
  split
  · next parsed _ => exact .inl ⟨parsed, rfl⟩
  · next line _ => exact .inr ⟨.unclosedFence d.path line, rfl⟩
  · next t ht => exact absurd ⟨t, ht⟩ h

theorem examples_eq_tag {d : Document} (h : Parse.Strays d.text) :
    ∃ t, d.examples = .error (.tag t) := by
  obtain ⟨t, ht⟩ := (Parse.exists_unknownTag_iff d.path).2 h
  refine ⟨t, ?_⟩
  rw [Document.examples, ht]

/-- An accepted tag is found exactly if it holds none of the three letters that only
folding takes for an `s` or an `i`. Reading a text therefore ends with its examples or with
a fence that has no end, unless a line has such a tag; and a run over texts comes to its
end, unless one of them has such a line, which stops the run for all. -/
theorem unknownTag_iff_strays (h : c.PatternsRead) (e : Engine σ) (r : Run σ) :
    (∀ line tag, Fence.tag? line = some tag →
      ((∃ language, (tag.map Fence.foldChar, language) ∈ Fence.languages ∧
          Fence.language? line = .ok (some language)) ↔
        ∀ c ∈ tag, c ∉ Fence.strayLetters) ∧
      (Fence.language? line = .error ⟨Text.lower tag⟩ ↔
        ∃ c ∈ tag, c ∈ Fence.strayLetters)) ∧
    (∀ (p : Parse) line number, (∃ t, p.step line number = .error t) ↔ Fence.Stray line) ∧
    (∀ text path,
      ((∃ t, parseSnippets text path = .error (.unknownTag t)) ↔ Parse.Strays text) ∧
      (((∃ parsed, parseSnippets text path = .ok parsed) ∨
          ∃ line, parseSnippets text path = .error (.unclosedFence line)) ↔
        ¬ Parse.Strays text)) ∧
    ∀ docs : List Document,
      ((∀ d ∈ docs, ¬ Parse.Strays d.text) →
        ∃ out, documents c e r (docs.map fun d => (d.path, d.examples)) = .ok out) ∧
      ((∃ d ∈ docs, Parse.Strays d.text) →
        ∃ t, documents c e r (docs.map fun d => (d.path, d.examples)) = .error (.tag t)) := by
  refine ⟨fun line tag htag => ⟨?_, Fence.language?_eq_error_iff_of_tag? htag⟩,
    fun p line number => ?_, fun text path => ⟨Parse.exists_unknownTag_iff path, ?_⟩,
    fun docs => ⟨fun hclear => ?_, fun hstrays => ?_⟩⟩
  · refine ⟨fun ⟨_, _, hok⟩ c hc hcs => ?_, Fence.language?_of_not_stray htag⟩
    rw [Fence.language?_of_stray htag ⟨c, hc, hcs⟩] at hok
    cases hok
  · simp only [Parse.step_eq_error_iff, Fence.language?_eq_error_iff]
  · rw [← Parse.exists_unknownTag_iff path]
    cases parseSnippets text path with
    | ok parsed => exact iff_of_true (.inl ⟨parsed, rfl⟩) fun ⟨_, h⟩ => nomatch h
    | error err =>
        cases err with
        | unclosedFence line => exact iff_of_true (.inr ⟨line, rfl⟩) fun ⟨_, h⟩ => nomatch h
        | unknownTag t =>
            refine iff_of_false ?_ fun hno => hno ⟨t, rfl⟩
            rintro (⟨_, h⟩ | ⟨_, h⟩) <;> cases h
  · refine documents_eq_ok h e (fun x hx => ?_) r
    obtain ⟨d, hd, rfl⟩ := List.mem_map.1 hx
    exact settled_examples (hclear d hd)
  · obtain ⟨before, d, after, rfl, hclear, hstray⟩ := exists_first hstrays
    obtain ⟨t, ht⟩ := examples_eq_tag hstray
    refine ⟨t, ?_⟩
    rw [List.map_append, List.map_cons, ht]
    refine documents_eq_tag h e (fun x hx => ?_) r
    obtain ⟨d', hd', rfl⟩ := List.mem_map.1 hx
    exact settled_examples (hclear d' hd')

/-- A document whose fence is tagged with a long s takes the results of the document in
front of it. -/
theorem unknownTag_iff_strays_of_long_s :
    ({ root := "." } : Config).PatternsRead ∧
    Parse.Strays "```tſ\n```" ∧
    ∃ t, documents { root := "." } (Rehearsal.engine []) { engine := {} }
      ([⟨"a.md", "```js\n1\n```"⟩, ⟨"b.md", "```tſ\n```"⟩].map fun d : Document =>
        (d.path, d.examples)) = .error (.tag t) := by
  have hpatterns : ({ root := "." } : Config).PatternsRead := List.forall_mem_nil _
  have hstrays : Parse.Strays "```tſ\n```" :=
    ⟨"```tſ".toList, .head _, "tſ".toList, rfl, 'ſ', by decide, by decide⟩
  obtain ⟨_, _, _, hrun⟩ := unknownTag_iff_strays hpatterns (Rehearsal.engine [])
    { engine := {} }
  exact ⟨hpatterns, hstrays, (hrun _).2 ⟨_, .tail _ (.head _), hstrays⟩⟩

/-- The tag is accepted and not found, so a text whose first fence has no end fails by the
tag of its second line. -/
theorem long_s_accepted_not_found :
    Fence.tag? "```tſ".toList = some "tſ".toList ∧
    Fence.language? "```tſ".toList = .error ⟨"tſ".toList⟩ ∧
    parseSnippets "```js\n```tſ" "doc.md" = .error (.unknownTag ⟨"tſ".toList⟩) :=
  ⟨rfl, rfl, rfl⟩

end Run

end DocExamples
