import DocExamples.Proofs.Run.Account

/-!
# Isolation of sandboxes

An account of a run gives the attempts of each document a sandbox, or a sandbox each, that
no other document uses. What an attempt finds in its sandbox is therefore what earlier
attempts of its own document left there, or what every sandbox starts with.

This says something about results once the engine keeps what it knows apart by sandbox.
`Engine.Local` is that: an evaluation reads and changes only what is attached to its
sandbox. Two runs that agree on what is attached to the sandbox at hand then agree on the
result of an attempt, under whatever number each of them knows the sandbox. The run of an
example by itself is compared with the run of all the documents in this way, where the
example comes after any number of others and none of them has touched its sandbox.
-/

namespace DocExamples

variable {σ τ : Type}

/-- What evaluating does depends only on the code, the sandbox, and what is attached to the
sandbox, and changes nothing that is attached to any other; compiling depends only on what is
compiled and changes nothing attached. -/
structure Engine.Local (e : Engine σ) (attached : Nat → σ → τ) : Prop where
  evaluate : ∀ code sandbox {m n x y}, attached m x = attached n y →
    (e.evaluate m sandbox code x).1 = (e.evaluate n sandbox code y).1 ∧
      (e.evaluate m sandbox code x).2.1 = (e.evaluate n sandbox code y).2.1 ∧
      attached m (e.evaluate m sandbox code x).2.2 = attached n (e.evaluate n sandbox code y).2.2
  elsewhere : ∀ code sandbox m x {k}, k ≠ m →
    attached k (e.evaluate m sandbox code x).2.2 = attached k x
  compile : ∀ code language x y, (e.compile code language x).1 = (e.compile code language y).1
  compile_attached : ∀ code language x k,
    attached k (e.compile code language x).2 = attached k x

/-- The hook does the same at each of its calls. -/
def Config.HookSteady (c : Config) : Prop :=
  ∀ action, c.beforeEach = some (.action action) → ∀ i j, action i = action j

/-! ## The engine of a rehearsal -/

namespace Rehearsal

/-- Two scenes that differ at most in what was asked for. -/
structure Scene.Same (a b : Scene) : Prop where
  sandbox : a.sandbox = b.sandbox
  stored : a.stored = b.stored

variable {a b : Scene}

theorem callHost_same (h : a.Same b) (call : HostCall) :
    (callHost a call).1 = (callHost b call).1 ∧ (callHost a call).2.Same (callHost b call).2 := by
  rw [callHost, callHost, h.sandbox]
  exact ⟨rfl, rfl, h.stored⟩

theorem compareNext_eq (number : Nat) (expected : Scene → Except Raised String × Scene) :
    compareNext number a expected = match (callHost a .nextOutput).1 with
      | .error raised => (.error raised, (callHost a .nextOutput).2)
      | .ok line => match (expected (callHost a .nextOutput).2).1 with
        | .error raised => (.error raised, (expected (callHost a .nextOutput).2).2)
        | .ok text => (expectSame number line text, (expected (callHost a .nextOutput).2).2) := by
  rw [compareNext]
  split
  · next heq => rw [heq]
  · next heq =>
      rw [heq]
      dsimp only
      split <;> next heq' => rw [heq']

theorem compareNext_same (h : a.Same b) (number : Nat)
    {expected : Scene → Except Raised String × Scene}
    (hexpected : ∀ {a b : Scene}, a.Same b →
      (expected a).1 = (expected b).1 ∧ (expected a).2.Same (expected b).2) :
    (compareNext number a expected).1 = (compareNext number b expected).1 ∧
      (compareNext number a expected).2.Same (compareNext number b expected).2 := by
  obtain ⟨hline, htaken⟩ := callHost_same h .nextOutput
  obtain ⟨htext, hscene⟩ := hexpected htaken
  rw [compareNext_eq, compareNext_eq, hline, htext]
  split
  · exact ⟨rfl, htaken⟩
  · split <;> exact ⟨rfl, hscene⟩

theorem play_same (h : a.Same b) (number : Nat) (cue : Cue) :
    (play number a cue).1 = (play number b cue).1 ∧
      (play number a cue).2.Same (play number b cue).2 := by
  cases cue with
  | compareLogged payload =>
      exact compareNext_same h number fun h => callHost_same h (.formatOutput payload)
  | compareLine literal => exact compareNext_same h number fun h => ⟨rfl, h⟩
  | _ =>
      obtain ⟨sandbox, events, stored⟩ := a
      obtain ⟨sandbox', events', stored'⟩ := b
      obtain ⟨rfl, rfl⟩ := h
      exact ⟨rfl, rfl, rfl⟩

theorem playAll_cons (number : Nat) (cue : Cue) (more : List (Nat × Cue)) :
    playAll a ((number, cue) :: more) = match (play number a cue).1 with
      | .error raised => (.error raised, (play number a cue).2)
      | .ok () => playAll (play number a cue).2 more := by
  rw [playAll]
  split <;> next heq => rw [heq]

theorem playAll_same (h : a.Same b) (cues : List (Nat × Cue)) :
    (playAll a cues).1 = (playAll b cues).1 ∧
      (playAll a cues).2.Same (playAll b cues).2 := by
  induction cues generalizing a b with
  | nil => exact ⟨rfl, h⟩
  | cons x more ih =>
      obtain ⟨number, cue⟩ := x
      obtain ⟨houtcome, hscene⟩ := play_same h number cue
      rw [playAll_cons, playAll_cons, houtcome]
      split
      · exact ⟨rfl, hscene⟩
      · exact ih hscene

/-- A rehearsal keeps nothing about a sandbox that its answers depend on. -/
theorem engine_local (presets : List String) :
    (engine presets).Local fun _ _ => () where
  evaluate code sandbox m n x y _ := by
    have hsame (events events') : Scene.Same { sandbox := sandbox, events := events }
        { sandbox := sandbox, events := events' } := ⟨rfl, rfl⟩
    dsimp only [engine, Rehearsal.evaluate]
    exact ⟨(playAll_same (hsame _ _) _).1, (playAll_same (hsame _ _) _).2.sandbox, rfl⟩
  elsewhere _ _ _ _ _ _ := rfl
  compile _ _ _ _ := rfl
  compile_attached _ _ _ _ := rfl

end Rehearsal

/-! ## Other sandboxes -/

namespace World

variable {c : Config} {e : Engine σ} {w w' w'' : World σ} {x : Exchange} {xs ys : List Exchange}
  {attached : Nat → σ → τ}

/-- What is attached to a sandbox in which no call is made stays as it is. -/
theorem Answers.attached_eq (hlocal : e.Local attached) (h : Answers c e w x w') {k : Nat}
    (hk : x.number? ≠ some k) : attached k w'.engine = attached k w.engine := by
  cases h with
  | hook => rfl
  | compile code language => exact hlocal.compile_attached code language _ k
  | evaluate code number =>
      exact hlocal.elsewhere code _ number _ fun heq => hk (congrArg some heq.symm)

theorem Happened.attached_eq (hlocal : e.Local attached) (h : Happened c e w xs w') {k : Nat}
    (hk : ∀ x ∈ xs, x.number? ≠ some k) : attached k w'.engine = attached k w.engine := by
  induction h with
  | nil w => rfl
  | cons hx _ ih =>
      obtain ⟨hfirst, hmore⟩ := List.forall_mem_cons.1 hk
      rw [ih hmore, hx.attached_eq hlocal hfirst]

theorem Happened.of_append (h : Happened c e w (xs ++ ys) w'') :
    ∃ w', Happened c e w xs w' ∧ Happened c e w' ys w'' := by
  induction xs generalizing w with
  | nil => exact ⟨w, .nil w, h⟩
  | cons x xs ih =>
      cases h with
      | cons hx hxs =>
          obtain ⟨w', hbefore, hafter⟩ := ih hxs
          exact ⟨w', .cons hx hbefore, hafter⟩

/-- The first call in a sandbox finds it as it was to begin with. -/
theorem Happened.found_eq {code : String} {number : Nat} {found : Sandbox}
    {answer : Except Raised Unit}
    (h : Happened c e w (xs ++ .evaluate code number found answer :: ys) w'')
    (hfirst : ∀ x ∈ xs, x.number? ≠ some number) : found = w.sandboxes number := by
  obtain ⟨w', hbefore, hafter⟩ := h.of_append
  rw [← hbefore.sandboxes_eq hfirst]
  cases hafter with
  | cons hx _ => cases hx; rfl

end World

namespace Run

section Two

variable {c : Config} {e : Engine σ} {attached : Nat → σ → τ} {blank : τ} {s s' : Numbered}
  {r r' : Run σ}

/-! ## Two runs that agree on the sandbox at hand -/

/-- Two runs have the same sandbox at hand, with the same attached to it. -/
structure Alike (attached : Nat → σ → τ) (s : Numbered) (r : Run σ) (s' : Numbered)
    (r' : Run σ) : Prop where
  sandbox : s.sandbox = s'.sandbox
  attached : attached s.number r.engine = attached s'.number r'.engine

theorem evaluate_alike (hlocal : e.Local attached) (h : Alike attached s r s' r')
    (code : String) :
    (evaluate e code s r).1 = (evaluate e code s' r').1 ∧
      Alike attached (evaluate e code s r).2.1 (evaluate e code s r).2.2
        (evaluate e code s' r').2.1 (evaluate e code s' r').2.2 := by
  obtain ⟨number, sandbox⟩ := s
  obtain ⟨number', sandbox'⟩ := s'
  obtain ⟨hsandbox, hattached⟩ := h
  dsimp only at hsandbox hattached
  subst hsandbox
  obtain ⟨houtcome, hleft, heffect⟩ := hlocal.evaluate code sandbox hattached
  exact ⟨houtcome, hleft, heffect⟩

theorem compileIfEnabled_alike (hlocal : e.Local attached) (h : Alike attached s r s' r')
    (snippet : Snippet) :
    (compileIfEnabled c e snippet r).1 = (compileIfEnabled c e snippet r').1 ∧
      Alike attached s (compileIfEnabled c e snippet r).2 s'
        (compileIfEnabled c e snippet r').2 := by
  rw [compileIfEnabled, compileIfEnabled]
  split
  · refine ⟨hlocal.compile snippet.code snippet.language _ _, h.sandbox, ?_⟩
    exact (hlocal.compile_attached _ _ _ _).trans
      (h.attached.trans (hlocal.compile_attached _ _ _ _).symm)
  · exact ⟨rfl, h⟩

theorem callHook_alike (hlocal : e.Local attached) (hhook : c.HookSteady)
    (h : Alike attached s r s' r') :
    (callHook c e s r).1 = (callHook c e s' r').1 ∧
      Alike attached (callHook c e s r).2.1 (callHook c e s r).2.2
        (callHook c e s' r').2.1 (callHook c e s' r').2.2 := by
  rw [callHook, callHook]
  split
  · exact ⟨rfl, h⟩
  · exact evaluate_alike hlocal h _
  · next action haction =>
      refine ⟨?_, { h with }⟩
      show (callAction action r).1 = (callAction action r').1
      rw [callAction, callAction, hhook action haction r.hooks r'.hooks]

theorem execute_outcome (snippet : Snippet) :
    (execute c e snippet s r).1 = match (compileIfEnabled c e snippet r).1 with
      | .error raised => .error raised
      | .ok code => (evaluate e code s (compileIfEnabled c e snippet r).2).1 := by
  rw [execute]
  split <;> next heq => rw [heq]

theorem execute_alike (hlocal : e.Local attached) (h : Alike attached s r s' r')
    (snippet : Snippet) :
    (execute c e snippet s r).1 = (execute c e snippet s' r').1 := by
  obtain ⟨houtcome, halike⟩ := compileIfEnabled_alike (c := c) hlocal h snippet
  rw [execute_outcome, execute_outcome, houtcome]
  split
  · rfl
  · exact (evaluate_alike hlocal halike _).1

/-- The outcomes of the hook and of the code decide over the result. -/
theorem attempt_result (snippet : Snippet) :
    (attempt c e snippet s r).1 = match (callHook c e s r).1 with
      | .error raised =>
        ⟨.fail, snippet, "before_each failed: " ++ raised.describe, none, none⟩
      | .ok () =>
        match (execute c e snippet (callHook c e s r).2.1 (callHook c e s r).2.2).1 with
        | .error raised => failed snippet raised
        | .ok () => ⟨.pass, snippet, "", none, none⟩ := by
  rw [attempt]
  split
  · next heq => rw [heq]
  · next heq =>
      rw [heq]
      dsimp only
      split <;> next heq' => rw [heq']

/-- Runs that agree on the sandbox at hand agree on the result of an example. -/
theorem attempt_alike (hlocal : e.Local attached) (hhook : c.HookSteady)
    (h : Alike attached s r s' r') (snippet : Snippet) :
    (attempt c e snippet s r).1 = (attempt c e snippet s' r').1 := by
  obtain ⟨houtcome, halike⟩ := callHook_alike hlocal hhook h
  rw [attempt_result, attempt_result, houtcome, execute_alike hlocal halike]

/-! ## Sandboxes still to be made -/

/-- Nothing but `blank` is attached to a sandbox that is still to be made. -/
def Unattached (attached : Nat → σ → τ) (blank : τ) (r : Run σ) : Prop :=
  ∀ k, r.sandboxes ≤ k → attached k r.engine = blank

theorem Reaches.unattached (hlocal : e.Local attached) {w w' : World σ} (h : Outside c w r)
    (hreaches : Reaches c e w r w' r') (hr : Unattached attached blank r) :
    Unattached attached blank r' := by
  obtain ⟨_, _, attempts, hstretch⟩ := hreaches
  intro k hk
  -- every call was made in a sandbox that has been made, so none of them reached this one
  have hnone : ∀ x ∈ attempts.flatMap (·.exchanges), x.number? ≠ some k := by
    intro x hx hnumber
    obtain ⟨a, ha, hxa⟩ := List.mem_flatMap.1 hx
    have hin := (hstretch.sound a ha).within x hxa k hnumber
    have hused := hstretch.used a ha
    omega
  rw [hstretch.outside.engine, hstretch.happened.attached_eq hlocal hnone, ← h.engine]
  exact hr k (Nat.le_trans hstretch.made hk)

/-- An example by itself has the same result in every run whose next sandbox is new. -/
theorem snippetAlone_alike (hlocal : e.Local attached) (hhook : c.HookSteady)
    (hr : Unattached attached blank r) {r₀ : Run σ} (hr₀ : Unattached attached blank r₀)
    {snippet : Snippet} {result : Result}
    (halone : snippetAlone c e snippet r = .ok (result, r')) :
    ∃ r₀', snippetAlone c e snippet r₀ = .ok (result, r₀') := by
  by_cases hskip : snippet.skip = true
  · rw [snippetAlone, if_pos hskip] at halone ⊢
    cases halone
    exact ⟨r₀, rfl⟩
  · rw [snippetAlone_of_run hskip] at halone ⊢
    obtain ⟨⟨s, r₁⟩, hmake, hresult⟩ := Except.map_eq_ok halone
    obtain ⟨hsandbox, hnumber, rfl⟩ := makeSandbox_eq_ok_iff.1 hmake
    -- the new sandbox has another number here, and is the same otherwise
    have hmake₀ : makeSandbox c r₀ =
        .ok (⟨r₀.sandboxes, s.sandbox⟩, { r₀ with sandboxes := r₀.sandboxes + 1 }) :=
      makeSandbox_eq_ok_iff.2 ⟨hsandbox, rfl, rfl⟩
    have halike : Alike attached s { r with sandboxes := r.sandboxes + 1 }
        ⟨r₀.sandboxes, s.sandbox⟩ { r₀ with sandboxes := r₀.sandboxes + 1 } := by
      refine ⟨rfl, ?_⟩
      rw [hnumber]
      exact (hr _ (Nat.le_refl _)).trans (hr₀ _ (Nat.le_refl _)).symm
    have hattempt := attempt_alike hlocal hhook halike snippet
    rw [snippetIn, if_neg hskip] at hresult
    rw [hmake₀, Except.map, snippetIn, if_neg hskip, ← hattempt, (Prod.mk.inj hresult).1]
    exact ⟨_, rfl⟩

/-- In a run of examples each in a sandbox of its own, each has the result that it has by
itself. -/
theorem separate_alike (hlocal : e.Local attached) (hhook : c.HookSteady) {w : World σ}
    (h : Outside c w r) (hr : Unattached attached blank r) {r₀ : Run σ}
    (hr₀ : Unattached attached blank r₀) {snippets : List Snippet} {results : List Result}
    (hseparate : separate c e r snippets = .ok (results, r')) :
    ∀ result ∈ results, ∃ r₀', snippetAlone c e result.snippet r₀ = .ok (result, r₀') := by
  induction snippets generalizing w r results with
  | nil =>
      cases hseparate
      exact List.forall_mem_nil _
  | cons snippet more ih =>
      rw [separate_cons] at hseparate
      obtain ⟨⟨result, r₁⟩, halone, hrest⟩ := Except.bind_eq_ok hseparate
      obtain ⟨⟨results', r₂⟩, hmore, heq⟩ := Except.map_eq_ok hrest
      cases heq
      obtain ⟨attempts, w', hstretch, -⟩ := snippetAlone_stretch h halone
      have hr₁ := Reaches.unattached hlocal h ⟨_, _, _, hstretch⟩ hr
      have hsnippet : result.snippet = snippet := (List.cons.inj hstretch.results_snippet).1
      refine List.forall_mem_cons.2 ⟨?_, ih hstretch.outside hr₁ hmore⟩
      dsimp only
      rw [hsnippet]
      exact snippetAlone_alike hlocal hhook hr hr₀ halone

/-- The run of one example, in a document of its own. -/
theorem documents_single {snippet : Snippet} {result : Result} {path : String}
    (halone : snippetAlone c e snippet (r.note .info ("Testing " ++ path)) = .ok (result, r')) :
    documents c e r [(path, .ok ⟨path, [snippet], false⟩)] = .ok ⟨[result], [], r'⟩ := by
  rw [documents_parsed, document, if_neg Bool.false_ne_true, separate_cons, halone]
  rfl

end Two

/-! ## Whole runs -/

end Run

end DocExamples
