import DocExamples.Proofs.Run.Attempts
import DocExamples.Proofs.Run.Completion
import Mathlib.Data.List.Forall2

/-!
# The account of a run

Between two points of a run lies a stretch: the examples that it passed, a result for
each, and the attempts behind the results. `Stretch` says how the four belong together,
and stretches can be put one behind the other, so an account of the run is given by
accounting for one example and then following the recursions over examples and
documents. What a call did, and whether it failed, plays no part in that: an attempt
leads to one result in any case.

Sandboxes are counted along the way. A document takes the numbers from those that are
still to be given out, so what one document uses lies between two counts and apart from
what any other uses.
-/

namespace DocExamples

theorem Except.map_eq_ok {ε α β : Type} {f : α → β} {x : Except ε α} {b : β}
    (h : x.map f = .ok b) : ∃ a, x = .ok a ∧ f a = b := by
  cases x with
  | error err => cases h
  | ok a => exact ⟨a, rfl, Except.ok.inj h⟩

theorem Except.bind_eq_ok {ε α β : Type} {f : α → Except ε β} {x : Except ε α} {b : β}
    (h : x.bind f = .ok b) : ∃ a, x = .ok a ∧ f a = .ok b := by
  cases x with
  | error err => cases h
  | ok a => exact ⟨a, rfl, h⟩

/-- The sandbox that a configuration describes, as every sandbox starts. -/
def Sandbox.initial (c : Config) : Sandbox :=
  ⟨((Resolver.ofConfig c).toOption).getD {}, c.globals, {}⟩

theorem Sandbox.eq_initial {c : Config} {s : Sandbox} (h : ofConfig c = .ok s) :
    s = initial c := by
  rw [ofConfig] at h
  rw [initial]
  cases hr : Resolver.ofConfig c with
  | error x => rw [hr] at h; cases h
  | ok resolver => rw [hr] at h; cases h; rfl

namespace Run

variable {σ : Type}

/-- A run as it stands in a world in which no sandbox that is still to be made has been
touched. -/
structure Outside (c : Config) (w : World σ) (r : Run σ) : Prop where
  engine : r.engine = w.engine
  hooks : r.hooks = w.hooks
  initial : ∀ k, r.sandboxes ≤ k → w.sandboxes k = Sandbox.initial c

/-- What lies between two points of a run: the examples that it passed, their results, and
the attempts behind them. -/
structure Stretch (c : Config) (e : Engine σ) (w : World σ) (r : Run σ)
    (snippets : List Snippet) (results : List Result) (attempts : List Attempt)
    (w' : World σ) (r' : Run σ) : Prop where
  happened : World.Happened c e w (attempts.flatMap (·.exchanges)) w'
  outside : Outside c w' r'
  results_snippet : results.map (·.snippet) = snippets
  skip_iff : ∀ x ∈ results, x.status = .skip ↔ x.snippet.skip = true
  attempts_result : attempts.map (·.result) = results.filter (·.status ≠ .skip)
  sound : ∀ a ∈ attempts, a.Sound c
  calls : r'.calls = r.calls ++ attempts.flatMap fun a => a.exchanges.map (·.call)
  announced : r'.announced = r.announced ++ results.filter (·.status ≠ .skip)
  made : r.sandboxes ≤ r'.sandboxes
  used : ∀ a ∈ attempts, a.sandbox < r'.sandboxes

section Stretches

variable {c : Config} {e : Engine σ} {w w' w'' : World σ} {r r' r'' : Run σ}
  {snippets snippets' : List Snippet} {results results' : List Result}
  {attempts attempts' : List Attempt}

theorem Stretch.nil (h : Outside c w r) : Stretch c e w r [] [] [] w r where
  happened := .nil w
  outside := h
  results_snippet := rfl
  skip_iff := List.forall_mem_nil _
  attempts_result := rfl
  sound := List.forall_mem_nil _
  calls := (List.append_nil _).symm
  announced := (List.append_nil _).symm
  made := Nat.le_refl _
  used := List.forall_mem_nil _

theorem Stretch.append (h : Stretch c e w r snippets results attempts w' r')
    (h' : Stretch c e w' r' snippets' results' attempts' w'' r'') :
    Stretch c e w r (snippets ++ snippets') (results ++ results') (attempts ++ attempts')
      w'' r'' where
  happened := by rw [List.flatMap_append]; exact h.happened.append h'.happened
  outside := h'.outside
  results_snippet := by rw [List.map_append, h.results_snippet, h'.results_snippet]
  skip_iff := List.forall_mem_append.2 ⟨h.skip_iff, h'.skip_iff⟩
  attempts_result := by
    rw [List.map_append, List.filter_append, h.attempts_result, h'.attempts_result]
  sound := List.forall_mem_append.2 ⟨h.sound, h'.sound⟩
  calls := by rw [h'.calls, h.calls, List.flatMap_append, List.append_assoc]
  announced := by rw [h'.announced, h.announced, List.filter_append, List.append_assoc]
  made := Nat.le_trans h.made h'.made
  used := List.forall_mem_append.2
    ⟨fun a ha => Nat.lt_of_lt_of_le (h.used a ha) h'.made, h'.used⟩

/-- The attempts of a stretch are at the examples that are not left out. -/
theorem Stretch.attempted (h : Stretch c e w r snippets results attempts w' r') :
    attempts.map (·.result.snippet) = snippets.filter (!·.skip) := by
  have hfilter : results.filter (·.status ≠ .skip) = results.filter (!·.snippet.skip) :=
    List.filter_congr fun x hx => by
      have hiff := h.skip_iff x hx
      cases hskip : x.snippet.skip <;> simp_all
  have hmap := congrArg (List.map (·.snippet)) h.attempts_result
  rw [List.map_map, hfilter] at hmap
  rw [← h.results_snippet, List.filter_map]
  exact hmap

/-! ## One example -/

theorem skipped_stretch (h : Outside c w r) {snippet : Snippet} (hskip : snippet.skip = true) :
    Stretch c e w r [snippet] [skipped snippet] [] w r where
  happened := .nil w
  outside := h
  results_snippet := rfl
  skip_iff := by
    rw [List.forall_mem_singleton]
    exact iff_of_true rfl hskip
  attempts_result := rfl
  sound := List.forall_mem_nil _
  calls := (List.append_nil _).symm
  announced := (List.append_nil _).symm
  made := Nat.le_refl _
  used := List.forall_mem_nil _

theorem Attempt.Sound.status_ne_skip {a : Attempt} (h : a.Sound c) : a.result.status ≠ .skip := by
  intro hskip
  have hpass := mt h.pass_iff.2 (by rw [hskip]; decide)
  have hfail := mt h.fail_iff.2 (by rw [hskip]; decide)
  exact hpass fun x hx hfails => hfail ⟨x, hx, hfails⟩

theorem Attempt.Sound.filter_result {a : Attempt} (h : a.Sound c) :
    [a.result].filter (·.status ≠ .skip) = [a.result] :=
  List.filter_cons_of_pos (decide_eq_true h.status_ne_skip)

theorem attempted_stretch {s s' : Numbered} {xs : List Exchange} {result : Result}
    (h : Outside c w r) (hs : s.number < r.sandboxes)
    (hadvances : Advances c e w s r xs w' s' r')
    (hsound : Attempt.Sound c ⟨s.number, xs, result⟩) (hskip : result.snippet.skip = false) :
    Stretch c e w r [result.snippet] [result] [⟨s.number, xs, result⟩] w'
      (r'.announce result) where
  happened := by rw [List.flatMap_singleton]; exact hadvances.happened
  outside := {
    engine := hadvances.tracks.engine
    hooks := hadvances.tracks.hooks
    initial := fun k hk => by
      -- the calls were made in the sandbox at hand, which is older than the one with `k`
      have hk' : r.sandboxes ≤ k := hadvances.made ▸ hk
      rw [hadvances.happened.sandboxes_eq fun x hx heq => ?_, h.initial k hk']
      have hnumber := hadvances.within x hx k heq
      omega }
  results_snippet := rfl
  skip_iff := by
    rw [List.forall_mem_singleton, hskip]
    exact iff_of_false hsound.status_ne_skip Bool.false_ne_true
  attempts_result := hsound.filter_result.symm
  sound := List.forall_mem_singleton.2 hsound
  calls := by rw [List.flatMap_singleton]; exact hadvances.calls
  announced := by
    rw [hsound.filter_result]
    exact congrArg (· ++ [result]) hadvances.announced
  made := Nat.le_of_eq hadvances.made.symm
  used := List.forall_mem_singleton.2 (Nat.lt_of_lt_of_eq hs hadvances.made.symm)

/-- An example in the sandbox at hand is left out, or it is attempted there. -/
theorem snippetIn_stretch (e : Engine σ) {s : Numbered} (h : Outside c w r) (ht : Tracks w s r)
    (hs : s.number < r.sandboxes) (snippet : Snippet) :
    ∃ attempts w', Stretch c e w r [snippet] [(snippetIn c e snippet s r).1] attempts w'
        (snippetIn c e snippet s r).2.2 ∧
      Tracks w' (snippetIn c e snippet s r).2.1 (snippetIn c e snippet s r).2.2 ∧
      (snippetIn c e snippet s r).2.1.number = s.number ∧
      attempts.map (·.sandbox) = (if snippet.skip then [] else [s.number]) := by
  rw [snippetIn]
  cases hskip : snippet.skip with
  | true => exact ⟨[], w, skipped_stretch h hskip, ht, rfl, rfl⟩
  | false =>
      obtain ⟨xs, w', hadvances, hsnippet, hsound⟩ := attempt_advances (c := c) e ht snippet
      have hstretch := attempted_stretch h hs hadvances hsound (by rw [hsnippet, hskip])
      rw [hsnippet] at hstretch
      exact ⟨_, w', hstretch, { hadvances.tracks with }, hadvances.number, rfl⟩

theorem sandbox_eq_of_map {skip : Bool} {k : Nat}
    (h : attempts.map (·.sandbox) = if skip then [] else [k]) : ∀ a ∈ attempts, a.sandbox = k := by
  intro a ha
  have hmem := List.mem_map_of_mem (f := (·.sandbox)) ha
  rw [h] at hmem
  split at hmem
  · exact absurd hmem List.not_mem_nil
  · exact List.mem_singleton.1 hmem

/-- Examples one after the other in the sandbox at hand. -/
theorem shared_stretch (e : Engine σ) {s : Numbered} (h : Outside c w r) (ht : Tracks w s r)
    (hs : s.number < r.sandboxes) (snippets : List Snippet) :
    ∃ attempts w', Stretch c e w r snippets (shared c e s r snippets).1 attempts w'
        (shared c e s r snippets).2 ∧
      ∀ a ∈ attempts, a.sandbox = s.number := by
  induction snippets generalizing w s r with
  | nil => exact ⟨[], w, .nil h, List.forall_mem_nil _⟩
  | cons snippet more ih =>
      obtain ⟨attempts, w', hfirst, ht', hnumber, hsandbox⟩ := snippetIn_stretch e h ht hs snippet
      have hs' := hnumber ▸ Nat.lt_of_lt_of_le hs hfirst.made
      obtain ⟨attempts', w'', hrest, hsandbox'⟩ := ih hfirst.outside ht' hs'
      rw [hnumber] at hsandbox'
      exact ⟨attempts ++ attempts', w'', hfirst.append hrest,
        List.forall_mem_append.2 ⟨sandbox_eq_of_map hsandbox, hsandbox'⟩⟩

/-! ## Sandboxes of a document -/

theorem Stretch.of_made {n : Nat} (hn : r.sandboxes ≤ n)
    (h : Stretch c e w { r with sandboxes := n } snippets results attempts w' r') :
    Stretch c e w r snippets results attempts w' r' :=
  { h with made := Nat.le_trans hn h.made }

theorem Stretch.of_note {level : Log.Level} {message : String}
    (h : Stretch c e w (r.note level message) snippets results attempts w' r') :
    Stretch c e w r snippets results attempts w' r' :=
  { h with }

theorem Outside.note (h : Outside c w r) (level : Log.Level) (message : String) :
    Outside c w (r.note level message) :=
  { h with }

/-- A new sandbox has the next number, and the world has it as it starts. -/
theorem makeSandbox_outside (h : Outside c w r) {s : Numbered}
    (hmake : makeSandbox c r = .ok (s, r')) :
    r' = { r with sandboxes := r.sandboxes + 1 } ∧ s.number = r.sandboxes ∧
      Outside c w r' ∧ Tracks w s r' := by
  obtain ⟨hsandbox, hnumber, rfl⟩ := makeSandbox_eq_ok_iff.1 hmake
  refine ⟨rfl, hnumber, ⟨h.engine, h.hooks, fun k hk => h.initial k (Nat.le_of_succ_le hk)⟩,
    ⟨h.engine, h.hooks, ?_⟩⟩
  rw [Sandbox.eq_initial hsandbox, hnumber, h.initial _ (Nat.le_refl _)]

theorem snippetAlone_of_run {snippet : Snippet} (hskip : ¬ snippet.skip = true) (r : Run σ) :
    snippetAlone c e snippet r = (makeSandbox c r).map fun x =>
      ((snippetIn c e snippet x.1 x.2).1, (snippetIn c e snippet x.1 x.2).2.2) := by
  rw [snippetAlone, if_neg hskip]
  cases makeSandbox c r <;> rfl

theorem separate_cons (r : Run σ) (snippet : Snippet) (more : List Snippet) :
    separate c e r (snippet :: more) = (snippetAlone c e snippet r).bind fun x =>
      (separate c e x.2 more).map fun y => (x.1 :: y.1, y.2) := by
  rw [separate]
  cases snippetAlone c e snippet r with
  | error stop => rfl
  | ok x =>
      obtain ⟨result, r₁⟩ := x
      dsimp only [Except.bind]
      cases separate c e r₁ more <;> rfl

theorem snippetAlone_stretch (h : Outside c w r) {snippet : Snippet} {result : Result}
    (halone : snippetAlone c e snippet r = .ok (result, r')) :
    ∃ attempts w', Stretch c e w r [snippet] [result] attempts w' r' ∧
      attempts.map (·.sandbox) = (if snippet.skip then [] else [r.sandboxes]) := by
  by_cases hskip : snippet.skip = true
  · rw [snippetAlone, if_pos hskip] at halone
    cases halone
    exact ⟨[], w, skipped_stretch h hskip, (if_pos hskip).symm⟩
  · rw [snippetAlone_of_run hskip] at halone
    obtain ⟨⟨s, r₁⟩, hmake, hrun⟩ := Except.map_eq_ok halone
    cases hrun
    obtain ⟨rfl, hnumber, houtside, htracks⟩ := makeSandbox_outside h hmake
    have hs := Nat.lt_of_le_of_lt (Nat.le_of_eq hnumber) (Nat.lt_succ_self r.sandboxes)
    obtain ⟨attempts, w', hstretch, -, -, hsandbox⟩ :=
      snippetIn_stretch e houtside htracks hs snippet
    rw [hnumber] at hsandbox
    exact ⟨attempts, w', hstretch.of_made (Nat.le_succ _), hsandbox⟩

/-- Examples one after the other use sandboxes of growing number. -/
theorem separate_stretch (h : Outside c w r) {snippets : List Snippet} {results : List Result}
    (hseparate : separate c e r snippets = .ok (results, r')) :
    ∃ attempts w', Stretch c e w r snippets results attempts w' r' ∧
      attempts.Pairwise (·.sandbox < ·.sandbox) ∧ ∀ a ∈ attempts, r.sandboxes ≤ a.sandbox := by
  induction snippets generalizing w r results with
  | nil =>
      cases hseparate
      exact ⟨[], w, .nil h, .nil, List.forall_mem_nil _⟩
  | cons snippet more ih =>
      rw [separate_cons] at hseparate
      obtain ⟨⟨result, r₁⟩, halone, hrest⟩ := Except.bind_eq_ok hseparate
      obtain ⟨⟨results', r₂⟩, hmore, heq⟩ := Except.map_eq_ok hrest
      cases heq
      obtain ⟨attempts, w', hfirst, hsandbox⟩ := snippetAlone_stretch h halone
      obtain ⟨attempts', w'', hstretch, hgrows, hlater⟩ := ih hfirst.outside hmore
      have hnumber := sandbox_eq_of_map hsandbox
      -- the first example uses at most the next number, and the count is then above it
      refine ⟨attempts ++ attempts', w'', hfirst.append hstretch, ?_, ?_⟩
      · refine List.pairwise_append.2 ⟨?_, hgrows, fun a ha b hb => ?_⟩
        · refine List.pairwise_map.1 (?_ : (attempts.map (·.sandbox)).Pairwise (· < ·))
          rw [hsandbox]
          split
          · exact .nil
          · exact List.pairwise_singleton _ _
        · exact Nat.lt_of_lt_of_le (hfirst.used a ha) (hlater b hb)
      · refine List.forall_mem_append.2 ⟨fun a ha => ?_, fun a ha => ?_⟩
        · exact Nat.le_of_eq (hnumber a ha).symm
        · exact Nat.le_trans hfirst.made (hlater a ha)

/-- What a run has for one document. -/
structure Part where
  results : List Result
  attempts : List Attempt

/-- A part accounts for its document: there is a result for each example, an attempt at
each that is not left out, and the attempts are made in one sandbox or in a sandbox
each. -/
structure Part.Of (parsed : Parsed) (part : Part) : Prop where
  results_snippet : part.results.map (·.snippet) = parsed.snippets
  attempted : part.attempts.map (·.result.snippet) = parsed.snippets.filter (!·.skip)
  attempts_result : part.attempts.map (·.result) = part.results.filter (·.status ≠ .skip)
  shared : parsed.shares = true → ∃ k, ∀ a ∈ part.attempts, a.sandbox = k
  separate : parsed.shares = false → part.attempts.Pairwise (·.sandbox ≠ ·.sandbox)

theorem document_stretch (h : Outside c w r) {parsed : Parsed} {results : List Result}
    (hdocument : document c e parsed r = .ok (results, r')) :
    ∃ attempts w', Stretch c e w r parsed.snippets results attempts w' r' ∧
      Part.Of parsed ⟨results, attempts⟩ ∧ ∀ a ∈ attempts, r.sandboxes ≤ a.sandbox := by
  rw [document] at hdocument
  split at hdocument
  · next hshares =>
      cases hmake : makeSandbox c r with
      | error stop => rw [hmake] at hdocument; cases hdocument
      | ok x =>
          obtain ⟨s, r₁⟩ := x
          rw [hmake] at hdocument
          dsimp only at hdocument
          obtain ⟨rfl, hnumber, houtside, htracks⟩ := makeSandbox_outside h hmake
          obtain ⟨attempts, w', hstretch, hsandbox⟩ := shared_stretch e
            (houtside.note .debug ("Sharing one sandbox across " ++ parsed.path))
            { htracks with } (by rw [hnumber]; exact Nat.lt_succ_self _) parsed.snippets
          rw [Except.ok.inj hdocument] at hstretch
          refine ⟨attempts, w', hstretch.of_note.of_made (Nat.le_succ _), ?_, fun a ha => ?_⟩
          · refine ⟨hstretch.results_snippet, hstretch.attempted, hstretch.attempts_result,
              fun _ => ⟨_, hsandbox⟩, ?_⟩
            exact fun hseparate => absurd (hshares.symm.trans hseparate) (by decide)
          · rw [hsandbox a ha, hnumber]
  · next hshares =>
      obtain ⟨attempts, w', hstretch, hgrows, hlater⟩ := separate_stretch h hdocument
      refine ⟨attempts, w', hstretch, ?_, hlater⟩
      exact ⟨hstretch.results_snippet, hstretch.attempted, hstretch.attempts_result,
        fun h => absurd h hshares, fun _ => hgrows.imp Nat.ne_of_lt⟩

/-- The documents among sources that have examples, and the errors of those that are
noted. -/
def readable (sources : List Source) : List Parsed :=
  sources.filterMap fun x => match x.2 with
    | .ok parsed => some parsed
    | .error _ => none

def noted (sources : List Source) : List DocumentError :=
  sources.filterMap fun x => match x.2 with
    | .error (.noted err) => some err
    | _ => none

/-- Two parts have no sandbox in common. -/
def Part.Apart (p q : Part) : Prop :=
  ∀ a ∈ p.attempts, ∀ b ∈ q.attempts, a.sandbox ≠ b.sandbox

/-- A run leads from one point to another. -/
def Reaches (c : Config) (e : Engine σ) (w : World σ) (r : Run σ) (w' : World σ) (r' : Run σ) :
    Prop :=
  ∃ snippets results attempts, Stretch c e w r snippets results attempts w' r'

theorem Reaches.trans (h : Reaches c e w r w' r') (h' : Reaches c e w' r' w'' r'') :
    Reaches c e w r w'' r'' := by
  obtain ⟨_, _, _, h⟩ := h
  obtain ⟨_, _, _, h'⟩ := h'
  exact ⟨_, _, _, h.append h'⟩

theorem Outside.reaches_note (h : Outside c w r) (level : Log.Level) (message : String) :
    Reaches c e w r w (r.note level message) :=
  ⟨_, _, _, (Stretch.nil (h.note level message)).of_note⟩

/-- The part is that of the document, which was run at a point that the run had reached. -/
structure Part.Ran (c : Config) (e : Engine σ) (w : World σ) (r : Run σ) (parsed : Parsed)
    (part : Part) : Prop where
  of : part.Of parsed
  ran : ∃ w₁ r₁ r₂, Reaches c e w r w₁ r₁ ∧ document c e parsed r₁ = .ok (part.results, r₂)

theorem Part.Ran.of_reaches {part : Part} {parsed : Parsed} (h : Reaches c e w r w' r')
    (hran : part.Ran c e w' r' parsed) : part.Ran c e w r parsed := by
  obtain ⟨hof, w₁, r₁, r₂, hreaches, hdocument⟩ := hran
  exact ⟨hof, w₁, r₁, r₂, h.trans hreaches, hdocument⟩

/-- A run has a part for each document with examples, no two of which have a sandbox in
common, and an error for each document that is noted. -/
structure Account (c : Config) (e : Engine σ) (w : World σ) (r : Run σ) (sources : List Source)
    (parts : List Part) (w' : World σ) (out : Outcome σ) : Prop where
  stretch : Stretch c e w r ((readable sources).flatMap (·.snippets)) out.results
    (parts.flatMap (·.attempts)) w' out.run
  results : out.results = parts.flatMap (·.results)
  errors : out.errors = noted sources
  ran : List.Forall₂ (Part.Ran c e w r) (readable sources) parts
  apart : parts.Pairwise Part.Apart
  made : ∀ part ∈ parts, ∀ a ∈ part.attempts, r.sandboxes ≤ a.sandbox

section Sources

variable {more : List Source} {parts : List Part} {rest : Outcome σ} {path : String}

theorem Account.nil (h : Outside c w r) : Account c e w r [] [] w ⟨[], [], r⟩ where
  stretch := .nil h
  results := rfl
  errors := rfl
  ran := .nil
  apart := .nil
  made := List.forall_mem_nil _

theorem Account.of_note {level : Log.Level} {message : String} (h : Outside c w r)
    (hmore : Account c e w (r.note level message) more parts w' rest) :
    Account c e w r more parts w' rest :=
  { hmore with
    stretch := hmore.stretch.of_note
    ran := hmore.ran.imp fun _ _ hran => hran.of_reaches (h.reaches_note level message) }

theorem Account.noted (hmore : Account c e w r more parts w' rest) (err : DocumentError) :
    Account c e w r ((path, .error (.noted err)) :: more) parts w'
      { rest with errors := err :: rest.errors } :=
  { hmore with errors := congrArg (err :: ·) hmore.errors }

theorem Account.parsed {parsed : Parsed}
    (hdocument : document c e parsed r = .ok (results, r')) (h : Outside c w r)
    (hfirst : Stretch c e w r parsed.snippets results attempts w' r')
    (hof : Part.Of parsed ⟨results, attempts⟩) (hnew : ∀ a ∈ attempts, r.sandboxes ≤ a.sandbox)
    (hmore : Account c e w' r' more parts w'' rest) :
    Account c e w r ((path, .ok parsed) :: more) (⟨results, attempts⟩ :: parts) w''
      { rest with results := results ++ rest.results } where
  stretch := hfirst.append hmore.stretch
  results := congrArg (results ++ ·) hmore.results
  errors := hmore.errors
  ran := .cons ⟨hof, w, r, r', ⟨_, _, _, .nil h⟩, hdocument⟩
    (hmore.ran.imp fun _ _ hran => hran.of_reaches ⟨_, _, _, hfirst⟩)
  apart := .cons
    (fun part hpart a ha b hb =>
      Nat.ne_of_lt (Nat.lt_of_lt_of_le (hfirst.used a ha) (hmore.made part hpart b hb)))
    hmore.apart
  made := List.forall_mem_cons.2
    ⟨hnew, fun part hpart a ha => Nat.le_trans hfirst.made (hmore.made part hpart a ha)⟩

end Sources

theorem documents_account (h : Outside c w r) {sources : List Source} {out : Outcome σ}
    (hrun : documents c e r sources = .ok out) :
    ∃ parts w', Account c e w r sources parts w' out := by
  induction sources generalizing w r out with
  | nil =>
      cases hrun
      exact ⟨[], w, .nil h⟩
  | cons x more ih =>
      obtain ⟨path, examples⟩ := x
      have hnote := h.note .info ("Testing " ++ path)
      cases examples with
      | error failure =>
          cases failure with
          | file err => cases hrun
          | tag t => cases hrun
          | noted err =>
              -- log records change nothing that an account speaks of
              rw [documents_noted] at hrun
              obtain ⟨rest, hmore, rfl⟩ := Except.map_eq_ok hrun
              obtain ⟨parts, w', haccount⟩ := ih (hnote.note _ _) hmore
              exact ⟨parts, w', ((haccount.of_note hnote).of_note h).noted err⟩
      | ok parsed =>
          rw [documents_parsed] at hrun
          obtain ⟨⟨results, r₁⟩, hdocument, hrun⟩ := Except.bind_eq_ok hrun
          obtain ⟨rest, hmore, rfl⟩ := Except.map_eq_ok hrun
          obtain ⟨attempts, w', hfirst, hof, hnew⟩ := document_stretch hnote hdocument
          obtain ⟨parts, w'', haccount⟩ := ih hfirst.outside hmore
          exact ⟨_, w'', (haccount.parsed hdocument hnote hfirst hof hnew).of_note h⟩

end Stretches

/-! ## Whole runs -/

/-- The world as a run finds it, before it makes its next sandbox. -/
def before (c : Config) (r : Run σ) : World σ :=
  ⟨r.engine, r.hooks, fun _ => Sandbox.initial c⟩

theorem outside_before (c : Config) (r : Run σ) : Outside c (before c r) r :=
  ⟨rfl, rfl, fun _ _ => rfl⟩

end Run

end DocExamples
