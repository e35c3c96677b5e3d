import DocExamples.Proofs.Run.Report
import DocExamples.Proofs.Sandbox.Exchange
import DocExamples.Run.Contexts
import Mathlib.Data.List.Induction

/-!
# One installed context for each sandbox

A sandbox gets a context when code is first evaluated in it, and keeps it only once the starting
script and all its variables went through. Each of these evaluations may fail, and evaluations in
other sandboxes may come in between. This file says that what is evaluated in a context is, all
the same, either a failed installation and nothing else, or the starting script, the variables in
their order, and then the code of one sandbox in the order of the calls.

There are two views of that. `Evaluates` is the view of one evaluation: it has one case for each
way through, with the replies of the library that lead there. `History` is the view of one
context: it was never made, it was given up, or it was kept. A context changes hands nowhere
because a new one gets a number that no step before it has, which is what `Tracked` carries from
one evaluation to the next. What is said of histories then follows from the evaluations alone, by
induction on their list from the back.
-/

namespace DocExamples

open Function (update update_self update_of_ne)

/-- What calls to the host can make of a sandbox. What makes modules may keep a state of its own
and answer otherwise each time. -/
inductive Sandbox.Served (s : Sandbox) : Sandbox → Prop where
  | none : Served s s
  | call {s' : Sandbox} (h : Served s s') (makers : Resolver) (call : HostCall) :
      Served s ({ s' with resolver := makers }.call call).2

theorem Sandbox.Served.globals_eq {s s' : Sandbox} (h : s.Served s') : s'.globals = s.globals := by
  induction h with
  | none => rfl
  | call h makers call ih => rw [call_globals, ih]

variable {σ : Type}

namespace ScriptLibrary

/-- Holds of a library whose scripts reach their sandbox through the functions of the host and in
no other way. -/
def ThroughHost (l : ScriptLibrary σ) : Prop :=
  ∀ (context : Nat) (sandbox : Sandbox) (text : String) (x : σ),
    sandbox.Served (l.eval context sandbox text x).2.1

/-- What a library answers to texts that it is given one after the other in one context. -/
inductive Replies (l : ScriptLibrary σ) (context : Nat) :
    Sandbox → σ → List (String × Except String Unit) → Sandbox → σ → Prop where
  | nil (s : Sandbox) (x : σ) : Replies l context s x [] s x
  | cons {s s' : Sandbox} {x x' : σ} {text : String} {more : List (String × Except String Unit)}
      (h : Replies l context (l.eval context s text x).2.1 (l.eval context s text x).2.2 more
        s' x') :
      Replies l context s x ((text, (l.eval context s text x).1) :: more) s' x'

variable {l : ScriptLibrary σ} {context : Nat} {s s' s'' : Sandbox} {x x' x'' : σ}

theorem Replies.append {texts more : List (String × Except String Unit)}
    (h : l.Replies context s x texts s' x') (hmore : l.Replies context s' x' more s'' x'') :
    l.Replies context s x (texts ++ more) s'' x'' := by
  induction h with
  | nil s x => exact hmore
  | cons h ih => exact .cons (ih hmore)

theorem Replies.one {text : String} {reply : Except String Unit}
    (h : l.eval context s text x = (reply, s', x')) :
    l.Replies context s x [(text, reply)] s' x' := by
  have hone := Replies.cons (.nil (l.eval context s text x).2.1 (l.eval context s text x).2.2)
  rwa [h] at hone

theorem ThroughHost.globals_eq (hl : l.ThroughHost) {text : String} {reply : Except String Unit}
    (h : l.eval context s text x = (reply, s', x')) : s'.globals = s.globals := by
  have hserved := hl context s text x
  rw [h] at hserved
  exact hserved.globals_eq

theorem ThroughHost.replies_globals_eq (hl : l.ThroughHost)
    {texts : List (String × Except String Unit)} (h : l.Replies context s x texts s' x') :
    s'.globals = s.globals := by
  induction h with
  | nil s x => rfl
  | cons h ih => exact ih.trans (hl _ _ _ _).globals_eq

end ScriptLibrary

namespace Contexts

open ScriptLibrary

variable {l : ScriptLibrary σ} {limits : Limits} {c : Contexts σ} {context k : Nat}
  {s s' : Sandbox} {x : σ} {code text : String}

/-! ## Evaluating texts in one context -/

/-- The contexts behind texts that were evaluated in one of them. -/
def behind (c : Contexts σ) (context : Nat) (texts : List String) (x : σ) : Contexts σ :=
  { c with library := x, steps := c.steps ++ texts.map fun text => (context, .eval text) }

theorem behind_behind (texts more : List String) (x y : σ) :
    (c.behind context texts x).behind context more y = c.behind context (texts ++ more) y := by
  rw [behind, behind, behind, List.map_append, List.append_assoc]

theorem evalIn_eq {reply : Except String Unit}
    (h : l.eval context s text c.library = (reply, s', x)) :
    evalIn l context s text c = (reply, s', c.behind context [text] x) := by
  rw [evalIn, h]
  rfl

/-! ## Installing a context -/

/-- Holds of the statement that sets a variable. -/
def IsAssignment (g : Data × Data) (text : String) : Prop :=
  ∃ source, g.2.scriptText = .ok source ∧ Sandbox.assignment g.1 source = .ok text

/-- Holds of the statements that set variables, one for each and in their order. -/
def Assigned (globals : List (Data × Data)) (texts : List String) : Prop :=
  List.Forall₂ IsAssignment globals texts

/-- Holds of the expressions of variables, one for each and in their order. -/
def Rendered (globals : List (Data × Data)) (sources : List (Data × String)) : Prop :=
  List.Forall₂ (fun g source => source.1 = g.1 ∧ g.2.scriptText = .ok source.2) globals sources

theorem globalSources_cases (globals : List (Data × Data)) :
    (∃ sources, Sandbox.globalSources globals = .ok sources ∧ Rendered globals sources) ∨
    ∃ u, Sandbox.globalSources globals = .error u ∧ ∃ g ∈ globals, g.2.scriptText = .error u := by
  induction globals with
  | nil => exact .inl ⟨[], rfl, .nil⟩
  | cons g more ih =>
      obtain ⟨key, value⟩ := g
      rw [Sandbox.globalSources, List.mapM_cons, ← Sandbox.globalSources]
      dsimp only
      cases hvalue : value.scriptText with
      | error u => exact .inr ⟨u, rfl, _, List.mem_cons_self, hvalue⟩
      | ok source =>
          obtain ⟨sources, hsources, hrendered⟩ | ⟨u, hu, g, hg, hgu⟩ := ih
          · rw [hsources]
            exact .inl ⟨(key, source) :: sources, rfl, .cons ⟨rfl, hvalue⟩ hrendered⟩
          · rw [hu]
            exact .inr ⟨u, rfl, g, List.mem_cons_of_mem _ hg, hgu⟩

/-- How the setting of variables goes: the texts that are evaluated, what is reported if it fails,
and what is left of the sandbox and the library. -/
inductive Sets (l : ScriptLibrary σ) (context : Nat) (s : Sandbox) (x : σ) :
    List (Data × Data) → List String → Except Raised Unit → Sandbox → σ → Prop where
  | all {globals : List (Data × Data)} {texts : List String} {s' : Sandbox} {x' : σ}
      (htexts : Assigned globals texts)
      (h : l.Replies context s x (texts.map (·, .ok ())) s' x') :
      Sets l context s x globals texts (.ok ()) s' x'
  /-- The statement that sets a variable fails. -/
  | fails {passed rest : List (Data × Data)} {g : Data × Data} {texts : List String}
      {failed report : String} {s' : Sandbox} {x' : σ} (htexts : Assigned passed texts)
      (hfailed : IsAssignment g failed)
      (h : l.Replies context s x (texts.map (·, .ok ()) ++ [(failed, .error report)]) s' x') :
      Sets l context s x (passed ++ g :: rest) (texts ++ [failed]) (.error (installError report))
        s' x'
  /-- The key of a variable is none that can be written. -/
  | key {passed rest : List (Data × Data)} {g : Data × Data} {texts : List String}
      {fault : Data.JsonFault} {s' : Sandbox} {x' : σ} (htexts : Assigned passed texts)
      (hkey : g.1.jsonText = .error fault)
      (h : l.Replies context s x (texts.map (·, .ok ())) s' x') :
      Sets l context s x (passed ++ g :: rest) texts (.error (invalidGlobal fault.failure)) s' x'

theorem Sets.cons {g : Data × Data} {globals : List (Data × Data)} {texts : List String}
    {outcome : Except Raised Unit} {x' : σ} {s'' : Sandbox} {x'' : σ} (htext : IsAssignment g text)
    (hone : l.Replies context s x [(text, .ok ())] s' x')
    (h : Sets l context s' x' globals texts outcome s'' x'') :
    Sets l context s x (g :: globals) (text :: texts) outcome s'' x'' := by
  cases h with
  | all htexts h => exact .all (.cons htext htexts) (hone.append h)
  | fails htexts hfailed h => exact .fails (.cons htext htexts) hfailed (hone.append h)
  | key htexts hkey h => exact .key (.cons htext htexts) hkey (hone.append h)

theorem Sets.assigned {globals : List (Data × Data)} {texts : List String} {x' : σ}
    (h : Sets l context s x globals texts (.ok ()) s' x') :
    Assigned globals texts ∧ l.Replies context s x (texts.map (·, .ok ())) s' x' := by
  cases h with
  | all htexts h => exact ⟨htexts, h⟩

theorem setAll_sets (l : ScriptLibrary σ) (context : Nat) {globals : List (Data × Data)}
    {sources : List (Data × String)} (h : Rendered globals sources) (s : Sandbox)
    (c : Contexts σ) :
    ∃ texts outcome s' x, Sets l context s c.library globals texts outcome s' x ∧
      setAll l context s c sources = (outcome, s', c.behind context texts x) := by
  induction h generalizing s c with
  | nil =>
      refine ⟨[], .ok (), s, c.library, .all .nil (.nil _ _), ?_⟩
      rw [setAll, behind, List.map_nil, List.append_nil]
  | @cons g source globals sources hfirst hmore ih =>
      obtain ⟨key, source⟩ := source
      obtain ⟨rfl, hsource⟩ := hfirst
      rw [setAll]
      cases hset : Sandbox.assignment g.1 source with
      | error fault =>
          have hkey : g.1.jsonText = .error fault := by
            rw [Sandbox.assignment] at hset
            cases hjson : g.1.jsonText with
            | error fault' =>
                rw [hjson] at hset
                cases hset
                rfl
            | ok _ =>
                rw [hjson] at hset
                cases hset
          have hnone : Assigned [] [] := .nil
          refine ⟨[], _, s, c.library, .key hnone hkey (.nil _ _), ?_⟩
          rw [behind, List.map_nil, List.append_nil]
      | ok text =>
          have htext : IsAssignment g text := ⟨source, hsource, hset⟩
          rcases hone : l.eval context s text c.library with ⟨reply, s', x⟩
          dsimp only
          rw [evalIn_eq hone]
          cases reply with
          | error report =>
              have hnone : Assigned [] [] := .nil
              exact ⟨[text], _, s', x, .fails hnone htext (.one hone), rfl⟩
          | ok _ =>
              obtain ⟨texts, outcome, s'', y, hsets, hall⟩ := ih s' (c.behind context [text] x)
              refine ⟨text :: texts, outcome, s'', y, .cons htext (.one hone) hsets, ?_⟩
              dsimp only
              rw [hall, behind_behind]
              rfl

/-- How the installation of a context fails: the texts that were evaluated in it, what is reported,
and what is left of the sandbox and the library. -/
inductive InstallFails (l : ScriptLibrary σ) (context : Nat) (s : Sandbox) (x : σ) :
    List String → Raised → Sandbox → σ → Prop where
  /-- The starting script fails. -/
  | script {report : String} {s' : Sandbox} {x' : σ}
      (h : l.Replies context s x [(Prelude.source, .error report)] s' x') :
      InstallFails l context s x [Prelude.source] (installError report) s' x'
  /-- A variable cannot be rendered. -/
  | refused {g : Data × Data} {u : Data.Refusal} {s' : Sandbox} {x' : σ}
      (h : l.Replies context s x [(Prelude.source, .ok ())] s' x') (hg : g ∈ s.globals)
      (hu : g.2.scriptText = .error u) :
      InstallFails l context s x [Prelude.source] (invalidGlobal u.failure) s' x'
  /-- A variable cannot be set. -/
  | setting {texts : List String} {raised : Raised} {s' s'' : Sandbox} {x' x'' : σ}
      (h : l.Replies context s x [(Prelude.source, .ok ())] s' x')
      (hsets : Sets l context s' x' s.globals texts (.error raised) s'' x'') :
      InstallFails l context s x (Prelude.source :: texts) raised s'' x''

theorem install_cases (hl : l.ThroughHost) (context : Nat) (s : Sandbox) (c : Contexts σ) :
    (∃ texts s' x, Assigned s.globals texts ∧
      l.Replies context s c.library ((Prelude.source :: texts).map (·, .ok ())) s' x ∧
      install l context s c = (.ok (), s', c.behind context (Prelude.source :: texts) x)) ∨
    ∃ texts raised s' x, InstallFails l context s c.library texts raised s' x ∧
      install l context s c = (.error raised, s', c.behind context texts x) := by
  rcases hone : l.eval context s Prelude.source c.library with ⟨reply, s', x⟩
  have hglobals := hl.globals_eq hone
  rw [install, evalIn_eq hone]
  cases reply with
  | error report => exact .inr ⟨_, _, s', x, .script (.one hone), rfl⟩
  | ok _ =>
      dsimp only
      rw [hglobals]
      obtain ⟨sources, hsources, hrendered⟩ | ⟨u, hu, g, hg, hgu⟩ := globalSources_cases s.globals
      · obtain ⟨texts, outcome, s'', y, hsets, hall⟩ :=
          setAll_sets l context hrendered s' (c.behind context [Prelude.source] x)
        rw [hsources]
        dsimp only
        rw [hall, behind_behind]
        cases outcome with
        | ok _ =>
            obtain ⟨htexts, hreplies⟩ := hsets.assigned
            exact .inl ⟨texts, s'', y, htexts, (Replies.one hone).append hreplies, rfl⟩
        | error raised => exact .inr ⟨_, raised, s'', y, .setting (.one hone) hsets, rfl⟩
      · rw [hu]
        exact .inr ⟨_, _, s', x, .refused (.one hone) hg hgu, rfl⟩

/-! ## One evaluation -/

/-- What is done to a new context, up to the texts that are evaluated in it. -/
def opening (limits : Limits) (context : Nat) : List (Nat × ContextStep) :=
  (setup limits).map fun step => (context, step)

/-- What texts that are evaluated in a context do. -/
def evals (context : Nat) (texts : List String) : List (Nat × ContextStep) :=
  texts.map fun text => (context, .eval text)

theorem create_eq (limits : Limits) (c : Contexts σ) :
    create limits c = (c.made, { c with
      made := c.made + 1
      steps := c.steps ++ opening limits c.made }) :=
  rfl

/-- How the evaluation of code goes in a sandbox, given the context that is kept for it and the
number of the next new one: how it ends, what it does to contexts, which context is kept then, and
what it leaves of the sandbox and the library. -/
inductive Evaluates (l : ScriptLibrary σ) (limits : Limits) (kept : Option Nat) (new : Nat)
    (s : Sandbox) (x : σ) (code : String) :
    Except Raised Unit → List (Nat × ContextStep) → Option Nat → Sandbox → σ → Prop where
  /-- There is no library. -/
  | missing (hl : l.available = false) (hkept : kept = none) :
      Evaluates l limits kept new s x code (.error (.other ⟨"RuntimeError", missingMessage⟩)) []
        none s x
  /-- The sandbox has its context. -/
  | again {context : Nat} {reply : Except String Unit} {s' : Sandbox} {x' : σ}
      (hkept : kept = some context) (h : l.Replies context s x [(code, reply)] s' x') :
      Evaluates l limits kept new s x code (reply.mapError .ofReport) (evals context [code])
        (some context) s' x'
  /-- The sandbox gets a context. -/
  | installed {texts : List String} {reply : Except String Unit} {s' : Sandbox} {x' : σ}
      (hkept : kept = none) (htexts : Assigned s.globals texts)
      (h : l.Replies new s x
        ((Prelude.source :: texts).map (·, .ok ()) ++ [(code, reply)]) s' x') :
      Evaluates l limits kept new s x code (reply.mapError .ofReport)
        (opening limits new ++ evals new (Prelude.source :: texts ++ [code])) (some new) s' x'
  /-- The installation of a context fails. -/
  | abandoned {texts : List String} {raised : Raised} {s' : Sandbox} {x' : σ}
      (hkept : kept = none) (h : InstallFails l new s x texts raised s' x') :
      Evaluates l limits kept new s x code (.error raised)
        (opening limits new ++ evals new texts) none s' x'

/-- What an evaluation in a sandbox does to the contexts it finds. A number is either that of the
context of the sandbox or one that was not given before. -/
structure Does (c left : Contexts σ) (k : Nat) (steps : List (Nat × ContextStep))
    (kept : Option Nat) : Prop where
  steps_eq : left.steps = c.steps ++ steps
  kept_self : left.kept.lookup k = kept
  kept_of_ne : ∀ k', k' ≠ k → left.kept.lookup k' = c.kept.lookup k'
  made_le : c.made ≤ left.made
  steps_lt : ∀ step ∈ steps, step.1 < left.made ∨ c.kept.lookup k = some step.1
  kept_lt : ∀ i, kept = some i → i < left.made ∨ c.kept.lookup k = some i

theorem mem_evals {step : Nat × ContextStep} {texts : List String}
    (h : step ∈ evals context texts) : step.1 = context := by
  obtain ⟨text, -, rfl⟩ := List.mem_map.1 h
  rfl

theorem mem_opening_append_evals {step : Nat × ContextStep} {texts : List String}
    (h : step ∈ opening limits context ++ evals context texts) : step.1 = context := by
  rcases List.mem_append.1 h with h | h
  · obtain ⟨_, -, rfl⟩ := List.mem_map.1 h
    rfl
  · exact mem_evals h

theorem Does.nothing (hkept : c.kept.lookup k = none) : Does c c k [] none where
  steps_eq := (List.append_nil _).symm
  kept_self := hkept
  kept_of_ne _ _ := rfl
  made_le := Nat.le_refl _
  steps_lt _ hstep := absurd hstep List.not_mem_nil
  kept_lt _ hi := nomatch hi

theorem Does.again (hkept : c.kept.lookup k = some context) (texts : List String) (x : σ) :
    Does c (c.behind context texts x) k (evals context texts) (some context) where
  steps_eq := rfl
  kept_self := hkept
  kept_of_ne _ _ := rfl
  made_le := Nat.le_refl _
  steps_lt step hstep := .inr (by rw [mem_evals hstep, hkept])
  kept_lt i hi := .inr (hkept.trans hi)

/-- A new context has the next number, whether it is kept or not. -/
theorem Does.opened {left : Contexts σ} {texts : List String} {kept : Option Nat}
    (hsteps : left.steps = c.steps ++ (opening limits c.made ++ evals c.made texts))
    (hmade : left.made = c.made + 1) (hself : left.kept.lookup k = kept)
    (hne : ∀ k', k' ≠ k → left.kept.lookup k' = c.kept.lookup k')
    (hkept : ∀ i, kept = some i → i = c.made) :
    Does c left k (opening limits c.made ++ evals c.made texts) kept where
  steps_eq := hsteps
  kept_self := hself
  kept_of_ne := hne
  made_le := hmade ▸ Nat.le_succ _
  steps_lt step hstep := .inl (by
    rw [mem_opening_append_evals hstep, hmade]
    exact Nat.lt_succ_self _)
  kept_lt i hi := .inl (by
    rw [hkept i hi, hmade]
    exact Nat.lt_succ_self _)

theorem evaluate_cases (hl : l.ThroughHost) (limits : Limits) (k : Nat) (s : Sandbox)
    (code : String) (c : Contexts σ) :
    ∃ outcome steps kept s' left, evaluate l limits k s code c = (outcome, s', left) ∧
      Evaluates l limits (c.kept.lookup k) c.made s c.library code outcome steps kept s'
        left.library ∧ Does c left k steps kept := by
  rw [evaluate, contextFor]
  cases hkept : c.kept.lookup k with
  | some context =>
      dsimp only
      rcases hone : l.eval context s code c.library with ⟨reply, s', x⟩
      rw [evalIn_eq hone]
      refine ⟨reply.mapError .ofReport, _, _, s', c.behind context [code] x, ?_,
        .again rfl (.one hone), .again hkept [code] x⟩
      cases reply <;> rfl
  | none =>
      dsimp only
      cases havailable : l.available with
      | false => exact ⟨_, [], none, s, c, rfl, .missing havailable rfl, .nothing hkept⟩
      | true =>
          rw [if_pos rfl, create_eq]
          dsimp only
          rcases install_cases hl c.made s { c with
              made := c.made + 1, steps := c.steps ++ opening limits c.made } with
            ⟨texts, s', x, htexts, hreplies, hinstall⟩ | ⟨texts, raised, s', x, hfails, hinstall⟩
          · rw [hinstall]
            dsimp only
            rcases hone : l.eval c.made s' code x with ⟨reply, s'', y⟩
            rw [evalIn_eq (by exact hone)]
            have hsteps : c.steps ++ opening limits c.made ++
                evals c.made (Prelude.source :: texts) ++ evals c.made [code] =
                c.steps ++ (opening limits c.made ++
                  evals c.made (Prelude.source :: texts ++ [code])) := by
              rw [evals, evals, evals, List.map_append, List.append_assoc, List.append_assoc]
            refine ⟨reply.mapError .ofReport, _, _, s'',
              ⟨y, c.made + 1, (k, c.made) :: c.kept, _⟩, ?_,
              .installed rfl htexts (hreplies.append (.one hone)),
              .opened hsteps rfl List.lookup_cons_self (fun k' hk' => ?_)
                fun _ hi => (Option.some.inj hi).symm⟩
            · cases reply <;> rfl
            · rw [List.lookup_cons, beq_false_of_ne hk']
          · rw [hinstall]
            exact ⟨_, _, _, s', _, rfl, .abandoned rfl hfails,
              .opened (List.append_assoc _ _ _) rfl hkept (fun _ _ => rfl) fun _ hi => nomatch hi⟩

theorem Sets.globals_eq (hl : l.ThroughHost) {globals : List (Data × Data)} {texts : List String}
    {outcome : Except Raised Unit} {x' : σ} (h : Sets l context s x globals texts outcome s' x') :
    s'.globals = s.globals := by
  cases h with
  | all _ h => exact hl.replies_globals_eq h
  | fails _ _ h => exact hl.replies_globals_eq h
  | key _ _ h => exact hl.replies_globals_eq h

theorem InstallFails.globals_eq (hl : l.ThroughHost) {texts : List String} {raised : Raised}
    {x' : σ} (h : InstallFails l context s x texts raised s' x') : s'.globals = s.globals := by
  cases h with
  | script h => exact hl.replies_globals_eq h
  | refused h _ _ => exact hl.replies_globals_eq h
  | setting h hsets => exact (hsets.globals_eq hl).trans (hl.replies_globals_eq h)

theorem Evaluates.globals_eq (hl : l.ThroughHost) {kept kept' : Option Nat} {new : Nat}
    {outcome : Except Raised Unit} {steps : List (Nat × ContextStep)} {x' : σ}
    (h : Evaluates l limits kept new s x code outcome steps kept' s' x') :
    s'.globals = s.globals := by
  cases h with
  | missing _ _ => rfl
  | again _ h => exact hl.replies_globals_eq h
  | installed _ _ h => exact hl.replies_globals_eq h
  | abandoned _ h => exact h.globals_eq hl

end Contexts

/-! ## Evaluations one after the other -/

/-- The evaluation of code in a sandbox: what it finds, how it ends, what it does to contexts, and
the context that is kept for the sandbox from then on. -/
structure Evaluation (σ : Type) where
  number : Nat
  code : String
  sandbox : Sandbox
  library : σ
  outcome : Except Raised Unit
  steps : List (Nat × ContextStep)
  kept : Option Nat

namespace Contexts

open ScriptLibrary

/-- The evaluation of code in one of several sandboxes. -/
def evaluation (l : ScriptLibrary σ) (limits : Limits) (sandboxes : Nat → Sandbox)
    (c : Contexts σ) (k : Nat) (code : String) : Evaluation σ where
  number := k
  code := code
  sandbox := sandboxes k
  library := c.library
  outcome := (evaluate l limits k (sandboxes k) code c).1
  steps := (evaluate l limits k (sandboxes k) code c).2.2.steps.drop c.steps.length
  kept := (evaluate l limits k (sandboxes k) code c).2.2.kept.lookup k

/-- The evaluations of codes, each in its sandbox. -/
def evaluations (l : ScriptLibrary σ) (limits : Limits) (sandboxes : Nat → Sandbox)
    (c : Contexts σ) : List (Nat × String) → List (Evaluation σ)
  | [] => []
  | (k, code) :: more =>
    evaluation l limits sandboxes c k code ::
      evaluations l limits
        (update sandboxes k (evaluate l limits k (sandboxes k) code c).2.1)
        (evaluate l limits k (sandboxes k) code c).2.2 more

/-- The contexts behind these evaluations. -/
def leftBy (l : ScriptLibrary σ) (limits : Limits) (sandboxes : Nat → Sandbox)
    (c : Contexts σ) : List (Nat × String) → Contexts σ
  | [] => c
  | (k, code) :: more =>
    leftBy l limits (update sandboxes k (evaluate l limits k (sandboxes k) code c).2.1)
      (evaluate l limits k (sandboxes k) code c).2.2 more

variable {l : ScriptLibrary σ} {limits : Limits} {c left : Contexts σ} {k i : Nat}
  {s s' : Sandbox} {code text : String} {before after es : List (Evaluation σ)}
  {e : Evaluation σ} {sandboxes : Nat → Sandbox}

/-- The evaluations in one sandbox. -/
def inSandbox (k : Nat) (es : List (Evaluation σ)) : List (Evaluation σ) :=
  es.filter (·.number = k)

/-- The context that is kept for a sandbox after some evaluations. -/
def keptFor (k : Nat) (es : List (Evaluation σ)) : Option Nat :=
  (inSandbox k es).getLast?.bind (·.kept)

/-- Holds of a context to which nothing was done in some evaluations. -/
def Unused (i : Nat) (es : List (Evaluation σ)) : Prop :=
  ∀ e ∈ es, ∀ step ∈ e.steps, step.1 ≠ i

theorem inSandbox_append_self (before : List (Evaluation σ)) (e : Evaluation σ) :
    inSandbox e.number (before ++ [e]) = inSandbox e.number before ++ [e] := by
  rw [inSandbox, List.filter_append]
  exact congrArg _ (List.filter_cons_of_pos (decide_eq_true rfl))

theorem inSandbox_append_of_ne (hk : k ≠ e.number) (before : List (Evaluation σ)) :
    inSandbox k (before ++ [e]) = inSandbox k before := by
  have hnone : [e].filter (·.number = k) = [] :=
    List.filter_cons_of_neg fun h => hk (of_decide_eq_true h).symm
  rw [inSandbox, List.filter_append, hnone, List.append_nil, inSandbox]

theorem keptFor_append_self (before : List (Evaluation σ)) (e : Evaluation σ) :
    keptFor e.number (before ++ [e]) = e.kept := by
  rw [keptFor, inSandbox_append_self, List.getLast?_concat, Option.bind_some]

theorem keptFor_append_of_ne (hk : k ≠ e.number) (before : List (Evaluation σ)) :
    keptFor k (before ++ [e]) = keptFor k before := by
  rw [keptFor, inSandbox_append_of_ne hk, keptFor]

/-- An evaluation settles which context is kept for its own sandbox only. -/
theorem keptFor_append (P : Nat → Option Nat → Prop)
    (hbefore : ∀ k, k ≠ e.number → P k (keptFor k before)) (he : P e.number e.kept) (k : Nat) :
    P k (keptFor k (before ++ [e])) := by
  by_cases hk : k = e.number
  · subst hk
    rwa [keptFor_append_self]
  · rw [keptFor_append_of_ne hk]
    exact hbefore k hk

theorem evaluations_asked (l : ScriptLibrary σ) (limits : Limits) (sandboxes : Nat → Sandbox)
    (c : Contexts σ) (asked : List (Nat × String)) :
    (evaluations l limits sandboxes c asked).map (fun e => (e.number, e.code)) = asked := by
  induction asked generalizing sandboxes c with
  | nil => rfl
  | cons q more ih => exact congrArg _ (ih _ _)

/-- Everything that is done to contexts is done by one of the evaluations. -/
theorem leftBy_steps (hl : l.ThroughHost) (limits : Limits) (sandboxes : Nat → Sandbox)
    (c : Contexts σ) (asked : List (Nat × String)) :
    (leftBy l limits sandboxes c asked).steps =
      c.steps ++ (evaluations l limits sandboxes c asked).flatMap (·.steps) := by
  induction asked generalizing sandboxes c with
  | nil => exact (List.append_nil _).symm
  | cons q more ih =>
      obtain ⟨k, code⟩ := q
      obtain ⟨outcome, steps, kept, s', left, heq, -, hdoes⟩ :=
        evaluate_cases hl limits k (sandboxes k) code c
      rw [leftBy, evaluations, ih, List.flatMap_cons, evaluation, heq, hdoes.steps_eq,
        List.drop_left, List.append_assoc]

/-- How an evaluation goes behind others. -/
def Goes (l : ScriptLibrary σ) (limits : Limits) (before : List (Evaluation σ)) (e : Evaluation σ) :
    Prop :=
  ∃ new s' x', Unused new before ∧
    Evaluates l limits (keptFor e.number before) new e.sandbox e.library e.code e.outcome e.steps
      e.kept s' x'

/-- What contexts have to do with the evaluations that made them what they are. -/
structure Tracked (c : Contexts σ) (es : List (Evaluation σ)) : Prop where
  kept : ∀ k, c.kept.lookup k = keptFor k es
  used_lt : ∀ e ∈ es, ∀ step ∈ e.steps, step.1 < c.made
  kept_lt : ∀ k i, c.kept.lookup k = some i → i < c.made

theorem Tracked.unused (h : Tracked c es) : Unused c.made es := fun e he step hstep =>
  Nat.ne_of_lt (h.used_lt e he step hstep)

theorem Tracked.step (hl : l.ThroughHost) (limits : Limits) (h : Tracked c before)
    (sandboxes : Nat → Sandbox) (k : Nat) (code : String) :
    Goes l limits before (evaluation l limits sandboxes c k code) ∧
      Tracked (evaluate l limits k (sandboxes k) code c).2.2
        (before ++ [evaluation l limits sandboxes c k code]) ∧
      (evaluate l limits k (sandboxes k) code c).2.1.globals = (sandboxes k).globals := by
  obtain ⟨outcome, steps, kept, s', left, heq, hgoes, hdoes⟩ :=
    evaluate_cases hl limits k (sandboxes k) code c
  have he : evaluation l limits sandboxes c k code =
      ⟨k, code, sandboxes k, c.library, outcome, steps, kept⟩ := by
    rw [evaluation, heq, hdoes.steps_eq, List.drop_left, hdoes.kept_self]
  rw [he, heq]
  refine ⟨⟨c.made, s', left.library, h.unused, ?_⟩, ?_, hgoes.globals_eq hl⟩
  · rw [← h.kept]
    exact hgoes
  · refine ⟨fun k' => ?_, fun e he step hstep => ?_, fun k' i hi => ?_⟩
    · exact keptFor_append (e := ⟨k, code, sandboxes k, c.library, outcome, steps, kept⟩)
        (fun k' kept => left.kept.lookup k' = kept)
        (fun k' hk => (hdoes.kept_of_ne k' hk).trans (h.kept k')) hdoes.kept_self k'
    · rcases List.mem_append.1 he with he | he
      · exact Nat.lt_of_lt_of_le (h.used_lt e he step hstep) hdoes.made_le
      · cases List.mem_singleton.1 he
        rcases hdoes.steps_lt step hstep with hlt | hlt
        · exact hlt
        · exact Nat.lt_of_lt_of_le (h.kept_lt _ _ hlt) hdoes.made_le
    · by_cases hk : k' = k
      · subst hk
        rcases hdoes.kept_lt i (hdoes.kept_self.symm.trans hi) with hlt | hlt
        · exact hlt
        · exact Nat.lt_of_lt_of_le (h.kept_lt _ _ hlt) hdoes.made_le
      · exact Nat.lt_of_lt_of_le (h.kept_lt k' i ((hdoes.kept_of_ne k' hk).symm.trans hi))
          hdoes.made_le

theorem evaluations_go (hl : l.ThroughHost) (limits : Limits) (asked : List (Nat × String))
    (h : Tracked c before) (sandboxes : Nat → Sandbox) :
    ∀ front e after, evaluations l limits sandboxes c asked = front ++ e :: after →
      Goes l limits (before ++ front) e ∧ e.sandbox.globals = (sandboxes e.number).globals := by
  induction asked generalizing c before sandboxes with
  | nil => exact fun front e after hes => absurd hes (by simp [evaluations])
  | cons q more ih =>
      obtain ⟨k, code⟩ := q
      obtain ⟨hgoes, htracked, hglobals⟩ := h.step hl limits sandboxes k code
      intro front e after hes
      rw [evaluations] at hes
      cases front with
      | nil =>
          cases hes
          rw [List.append_nil]
          exact ⟨hgoes, rfl⟩
      | cons first front =>
          obtain ⟨rfl, hrest⟩ := List.cons.inj hes
          obtain ⟨hgo, hsame⟩ := ih htracked _ front e after hrest
          rw [List.append_assoc] at hgo
          refine ⟨hgo, hsame.trans ?_⟩
          by_cases hk : e.number = k
          · rw [hk, update_self, hglobals]
          · rw [update_of_ne hk]

/-! ## What became of a context -/

/-- The text that a step evaluates in a context. -/
def textIn? (i : Nat) : Nat × ContextStep → Option String
  | (j, .eval text) => if j = i then some text else none
  | _ => none

/-- The texts that were evaluated in a context. -/
def textsIn (i : Nat) (es : List (Evaluation σ)) : List String :=
  es.flatMap fun e => e.steps.filterMap (textIn? i)

theorem filterMap_textIn?_eq_nil {steps : List (Nat × ContextStep)}
    (h : ∀ step ∈ steps, step.1 ≠ i) : steps.filterMap (textIn? i) = [] := by
  rw [List.filterMap_eq_nil_iff]
  intro step hstep
  obtain ⟨j, step⟩ := step
  cases step with
  | eval text => exact if_neg (h _ hstep)
  | _ => rfl

theorem filterMap_textIn?_evals (i : Nat) (texts : List String) :
    (evals i texts).filterMap (textIn? i) = texts := by
  rw [evals, List.filterMap_map]
  have htext : textIn? i ∘ (fun text => (i, .eval text)) = some := funext fun text => if_pos rfl
  rw [htext, List.filterMap_some]

theorem filterMap_textIn?_opening (limits : Limits) (i : Nat) (texts : List String) :
    (opening limits i ++ evals i texts).filterMap (textIn? i) = texts := by
  have hopening : (opening limits i).filterMap (textIn? i) = [] := by
    obtain ⟨time, memory⟩ := limits
    cases time <;> cases memory <;> rfl
  rw [List.filterMap_append, hopening, filterMap_textIn?_evals, List.nil_append]

theorem textsIn_append_singleton (i : Nat) (before : List (Evaluation σ)) (e : Evaluation σ) :
    textsIn i (before ++ [e]) = textsIn i before ++ e.steps.filterMap (textIn? i) := by
  rw [textsIn, List.flatMap_append, List.flatMap_singleton, textsIn]

theorem Unused.textsIn_eq_nil (h : Unused i es) : textsIn i es = [] :=
  List.flatMap_eq_nil_iff.2 fun e he => filterMap_textIn?_eq_nil (h e he)

theorem textsIn_append_of_passes (h : ∀ step ∈ e.steps, step.1 ≠ i)
    (before : List (Evaluation σ)) : textsIn i (before ++ [e]) = textsIn i before := by
  rw [textsIn_append_singleton, filterMap_textIn?_eq_nil h, List.append_nil]

theorem Unused.append_singleton (h : Unused i before) (he : ∀ step ∈ e.steps, step.1 ≠ i) :
    Unused i (before ++ [e]) := by
  intro e' he'
  rcases List.mem_append.1 he' with he' | he'
  · exact h e' he'
  · cases List.mem_singleton.1 he'
    exact he

theorem InstallFails.texts_ne_nil {texts : List String} {raised : Raised} {x x' : σ}
    (h : InstallFails l i s x texts raised s' x') : texts ≠ [] := by
  cases h <;> exact List.cons_ne_nil _ _

/-- What one evaluation has to do with one context. -/
inductive Meets (l : ScriptLibrary σ) (i : Nat) (before : List (Evaluation σ)) (e : Evaluation σ) :
    Prop where
  /-- It passes the context by. -/
  | passes (hbefore : keptFor e.number before ≠ some i) (hsteps : ∀ step ∈ e.steps, step.1 ≠ i)
      (hkept : e.kept ≠ some i)
  /-- Its code is evaluated in the context, and nothing else. -/
  | again (hbefore : keptFor e.number before = some i)
      (htexts : e.steps.filterMap (textIn? i) = [e.code]) (hkept : e.kept = some i)
  /-- It installs the context. -/
  | installs {texts : List String} (hnew : Unused i before)
      (hassigned : Assigned e.sandbox.globals texts)
      (htexts : e.steps.filterMap (textIn? i) = Prelude.source :: texts ++ [e.code])
      (hkept : e.kept = some i)
  /-- It makes the context and gives it up. -/
  | abandons {texts : List String} {raised : Raised} {s' : Sandbox} {x' : σ}
      (hnew : Unused i before) (hfails : InstallFails l i e.sandbox e.library texts raised s' x')
      (houtcome : e.outcome = .error raised) (htexts : e.steps.filterMap (textIn? i) = texts)
      (hkept : e.kept = none)

theorem Goes.meets (h : Goes l limits before e) (i : Nat) : Meets l i before e := by
  obtain ⟨new, s', x', hnew, h⟩ := h
  obtain ⟨number, code, sandbox, library, outcome, steps, kept⟩ := e
  dsimp only at h
  generalize hbefore : keptFor number before = found at h
  have hother {steps : List (Nat × ContextStep)} {j : Nat} (hsteps : ∀ step ∈ steps, step.1 = j)
      (hj : j ≠ i) : ∀ step ∈ steps, step.1 ≠ i := fun step hstep => hsteps step hstep ▸ hj
  cases h with
  | missing _ hkept =>
      refine .passes ?_ (fun _ h => absurd h List.not_mem_nil) (fun h => nomatch h)
      simp [hbefore, hkept]
  | @again context reply _ _ hkept _ =>
      by_cases hi : context = i
      · subst hi
        exact .again (hbefore.trans hkept) (filterMap_textIn?_evals _ _) rfl
      · have hne : some context ≠ some i := fun h => hi (Option.some.inj h)
        exact .passes (by rw [hbefore, hkept]; exact hne)
          (hother (fun _ => mem_evals) hi) hne
  | installed hkept htexts _ =>
      by_cases hi : new = i
      · subst hi
        exact .installs hnew htexts (filterMap_textIn?_opening _ _ _) rfl
      · refine .passes (by simp [hbefore, hkept]) (hother (fun _ => mem_opening_append_evals) hi)
          fun h => hi (Option.some.inj h)
  | abandoned hkept hfails =>
      by_cases hi : new = i
      · subst hi
        exact .abandons hnew hfails rfl (filterMap_textIn?_opening _ _ _) rfl
      · exact .passes (by simp [hbefore, hkept]) (hother (fun _ => mem_opening_append_evals) hi)
          fun h => nomatch h

/-- What became of a context. -/
inductive History (l : ScriptLibrary σ) (globals : Nat → List (Data × Data)) (i : Nat)
    (es : List (Evaluation σ)) : Prop where
  /-- It was not made. -/
  | unused (h : Unused i es) (hkept : ∀ k, keptFor k es ≠ some i)
  /-- Its installation failed in the one evaluation that has to do with it. -/
  | abandoned {before after : List (Evaluation σ)} {e : Evaluation σ} {raised : Raised}
      {s' : Sandbox} {x' : σ} (hes : es = before ++ e :: after) (hbefore : Unused i before)
      (hafter : Unused i after)
      (hfails : InstallFails l i e.sandbox e.library (textsIn i es) raised s' x')
      (houtcome : e.outcome = .error raised) (hkept : ∀ k, keptFor k es ≠ some i)
  /-- It was installed and kept for one sandbox, which has all its code evaluated there. -/
  | kept {before after : List (Evaluation σ)} {first : Evaluation σ} {texts : List String}
      (hes : es = before ++ first :: after) (hbefore : Unused i before)
      (hafter : ∀ e ∈ after, e.number ≠ first.number → ∀ step ∈ e.steps, step.1 ≠ i)
      (hassigned : Assigned (globals first.number) texts)
      (htexts : textsIn i es =
        Prelude.source :: texts ++ (inSandbox first.number (first :: after)).map (·.code))
      (hkept : ∀ k, keptFor k es = some i ↔ k = first.number)

variable {globals : Nat → List (Data × Data)}

theorem History.step (h : History l globals i before) (hgoes : Goes l limits before e)
    (hglobals : e.sandbox.globals = globals e.number) : History l globals i (before ++ [e]) := by
  cases h with
  | unused hunused hkept =>
      have hlast : before ++ [e] = before ++ e :: [] := rfl
      cases hgoes.meets i with
      | passes _ hsteps he =>
          exact .unused (hunused.append_singleton hsteps)
            (keptFor_append (fun _ kept => kept ≠ some i) (fun k _ => hkept k) he)
      | again hbefore _ _ => exact absurd hbefore (hkept _)
      | installs _ hassigned htexts he =>
          refine .kept hlast hunused (fun _ h => absurd h List.not_mem_nil)
            (hglobals ▸ hassigned) ?_ ?_
          · have hone : inSandbox e.number [e] = [e] := inSandbox_append_self [] e
            rw [textsIn_append_singleton, hunused.textsIn_eq_nil, htexts, hone, List.nil_append,
              List.map_singleton]
          · exact keptFor_append (fun k kept => kept = some i ↔ k = e.number)
              (fun k hk => iff_of_false (hkept k) hk) (iff_of_true he rfl)
      | abandons _ hfails houtcome htexts he =>
          have hin : textsIn i (before ++ [e]) = e.steps.filterMap (textIn? i) := by
            rw [textsIn_append_singleton, hunused.textsIn_eq_nil, List.nil_append]
          refine .abandoned hlast hunused (fun _ h => absurd h List.not_mem_nil)
            ((hin.trans htexts).symm ▸ hfails) houtcome
            (keptFor_append (fun _ kept => kept ≠ some i) (fun k _ => hkept k)
              (by rw [he]; exact fun h => nomatch h))
  | @abandoned front after first raised _ _ hes hfront hafter hfails houtcome hkept =>
      -- Something was evaluated in the context, so no new one has its number.
      have hused : ¬ Unused i before := fun h => hfails.texts_ne_nil h.textsIn_eq_nil
      have hfirst : before ++ [e] = front ++ first :: (after ++ [e]) := by
        rw [hes, List.append_assoc, List.cons_append]
      cases hgoes.meets i with
      | passes _ hsteps he =>
          refine .abandoned hfirst hfront (hafter.append_singleton hsteps)
            ((textsIn_append_of_passes hsteps before).symm ▸ hfails) houtcome
            (keptFor_append (fun _ kept => kept ≠ some i) (fun k _ => hkept k) he)
      | again hbefore _ _ => exact absurd hbefore (hkept _)
      | installs hnew _ _ _ => exact absurd hnew hused
      | abandons hnew _ _ _ _ => exact absurd hnew hused
  | @kept front after first texts hes hfront hafter hassigned htexts hkept =>
      have hused : ¬ Unused i before := fun h => by
        rw [h.textsIn_eq_nil] at htexts
        exact List.cons_ne_nil _ _ htexts.symm
      have hcons : first :: (after ++ [e]) = (first :: after) ++ [e] := rfl
      have hfirst : before ++ [e] = front ++ first :: (after ++ [e]) := by
        rw [hes, List.append_assoc, List.cons_append]
      cases hgoes.meets i with
      | passes hbefore hsteps he =>
          have hne : first.number ≠ e.number := fun h => hbefore ((hkept _).2 h.symm)
          refine .kept hfirst hfront ?_ hassigned ?_
            (keptFor_append (fun k kept => kept = some i ↔ k = first.number)
              (fun k _ => hkept k) (iff_of_false he hne.symm))
          · intro e' he'
            rcases List.mem_append.1 he' with he' | he'
            · exact hafter e' he'
            · cases List.mem_singleton.1 he'
              exact fun _ => hsteps
          · rw [textsIn_append_of_passes hsteps, htexts, hcons, inSandbox_append_of_ne hne]
      | again hbefore hone he =>
          have heq : e.number = first.number := (hkept _).1 hbefore
          refine .kept hfirst hfront ?_ hassigned ?_
            (keptFor_append (fun k kept => kept = some i ↔ k = first.number)
              (fun k _ => hkept k) (iff_of_true he heq))
          · intro e' he' hne
            rcases List.mem_append.1 he' with he' | he'
            · exact hafter e' he' hne
            · cases List.mem_singleton.1 he'
              exact absurd heq hne
          · rw [textsIn_append_singleton, hone, htexts, hcons, ← heq, inSandbox_append_self,
              List.map_append, List.append_assoc, List.map_singleton]
      | installs hnew _ _ _ => exact absurd hnew hused
      | abandons hnew _ _ _ _ => exact absurd hnew hused

theorem history (hes : ∀ before e after, es = before ++ e :: after →
      Goes l limits before e ∧ e.sandbox.globals = globals e.number) (i : Nat) :
    History l globals i es := by
  induction es using List.reverseRecOn with
  | nil => exact .unused (fun e he => absurd he List.not_mem_nil) fun k h => nomatch h
  | append_singleton es e ih =>
      have hbefore : History l globals i es := by
        refine ih fun before e' after h => hes before e' (after ++ [e]) ?_
        rw [h, List.append_assoc, List.cons_append]
      obtain ⟨hgoes, hglobals⟩ := hes es e [] rfl
      exact hbefore.step hgoes hglobals

/-! ## From no contexts on -/

theorem invalidGlobal_eq_evaluation_iff (f : Failure) :
    (∃ err, invalidGlobal f = .evaluation err) ↔ f.kind = "TypeError" := by
  rw [invalidGlobal]
  split
  · next hkind => exact iff_of_true ⟨_, rfl⟩ hkind
  · next hkind =>
      refine iff_of_false ?_ hkind
      rintro ⟨err, h⟩
      cases h

/-- From no contexts on, every evaluation goes one of its ways: code is evaluated in the context
that is kept for its sandbox, whether it fails or not, and where none is kept a new context is
made, which is kept if its installation goes through and given up if it fails. So in each context
there is either the beginning of a failed installation, or the starting script, the variables of
one sandbox in their order and the code of that sandbox in the order of the calls. A failed
installation is reported as a failure of the code unless the report cannot be read, and a variable
that cannot be rendered exactly if it is of a wrong type. -/
theorem contexts_of_evaluations (hl : l.ThroughHost) (limits : Limits)
    (sandboxes : Nat → Sandbox) (x : σ) (asked : List (Nat × String)) :
    let es := evaluations l limits sandboxes { library := x } asked
    es.map (fun e => (e.number, e.code)) = asked ∧
    (leftBy l limits sandboxes { library := x } asked).steps = es.flatMap (·.steps) ∧
    (∀ before e after, es = before ++ e :: after →
      Goes l limits before e ∧ e.sandbox.globals = (sandboxes e.number).globals) ∧
    (∀ i, History l (fun k => (sandboxes k).globals) i es) ∧
    (∀ report, (∃ err, installError report = .evaluation err) ↔
      ∀ p, Position.ofReport? ("Failed to install globals: " ++ report).toList = some p →
        p.IsReadable) ∧
    ∀ f, (∃ err, invalidGlobal f = .evaluation err) ↔ f.kind = "TypeError" := by
  intro es
  have hnone : Tracked ({ library := x } : Contexts σ) [] :=
    ⟨fun _ => rfl, fun _ h => absurd h List.not_mem_nil, fun _ _ h => nomatch h⟩
  have hgo := evaluations_go hl limits asked hnone sandboxes
  exact ⟨evaluations_asked l limits sandboxes _ asked, leftBy_steps hl limits sandboxes _ asked,
    hgo, history hgo, fun report => Raised.ofReport_eq_evaluation_iff _,
    invalidGlobal_eq_evaluation_iff⟩

/-- Code fails in a sandbox, which keeps its context, while the variable of another sandbox
cannot be rendered. -/
theorem contexts_of_evaluations_of_throwing_code :
    let l : ScriptLibrary Nat :=
      ⟨true, fun _ s _ n => (if n = 4 then .error "1" else .ok (), s, n + 1)⟩
    let sandboxes : Nat → Sandbox := fun k =>
      ⟨{}, [(.text "n", if k = 0 then .null else .settings [])], {}⟩
    let asked := [(0, "a();"), (1, "b();"), (0, "throw 1;"), (1, "c();"), (0, "d();")]
    let es := evaluations l {} sandboxes { library := 0 } asked
    l.ThroughHost ∧
      (textsIn 0 es).tail = ["globalThis[\"n\"] = null;", "a();", "throw 1;", "d();"] ∧
      (textsIn 1 es).tail = [] ∧ (textsIn 2 es).tail = [] ∧
      keptFor 0 es = some 0 ∧ keptFor 1 es = none ∧
      ∀ i, History l (fun k => (sandboxes k).globals) i es := by
  intro l sandboxes asked es
  have hl : l.ThroughHost := fun _ _ _ _ => .none
  have htexts : (textsIn 0 es).tail =
      ["globalThis[\"n\"] = null;", "a();", "throw 1;", "d();"] := by
    decide +kernel
  have hrefused : (textsIn 1 es).tail = [] ∧ (textsIn 2 es).tail = [] := by decide +kernel
  have hkept : keptFor 0 es = some 0 ∧ keptFor 1 es = none := by decide +kernel
  exact ⟨hl, htexts, hrefused.1, hrefused.2, hkept.1, hkept.2,
    (contexts_of_evaluations hl {} sandboxes 0 asked).2.2.2.1⟩

/-- A variable may throw a text that ends like a frame with a line of too many digits. What is
raised then is no failure of the code. -/
theorem installation_not_evaluation_of_long_line :
    let digits := List.replicate (Number.digitLimit + 1) '1'
    let report := "at <eval> (x:" ++ String.ofList digits ++ ")"
    let l : ScriptLibrary Nat :=
      ⟨true, fun _ s _ n => (if n = 1 then .error report else .ok (), s, n + 1)⟩
    let sandboxes : Nat → Sandbox := fun _ => ⟨{}, [(.text "n", .null)], {}⟩
    ∃ e, evaluations l {} sandboxes { library := 0 } [(0, "a();")] = [e] ∧
      l.ThroughHost ∧ e.outcome = .error (.other (Number.TooLong.toRead digits.length).failure) ∧
      ∀ err, e.outcome ≠ .error (.evaluation err) := by
  intro digits report l sandboxes
  have hraised : installError report = .other (Number.TooLong.toRead digits.length).failure := by
    have hdigits : ∀ c ∈ digits, Text.isDigit c := fun c hc => by
      rw [List.eq_of_mem_replicate hc]
      rfl
    have hlong : Number.digitLimit < digits.length := by
      rw [List.length_replicate]
      exact Nat.lt_succ_self _
    rw [← Raised.ofReport_of_long_line hdigits hlong "Failed to install globals: ", installError]
    simp only [report, String.append_assoc]
  have houtcome : (evaluation l {} sandboxes { library := 0 } 0 "a();").outcome =
      .error (installError report) := rfl
  refine ⟨_, rfl, fun _ _ _ _ => .none, houtcome.trans (congrArg _ hraised), fun err h => ?_⟩
  rw [houtcome, hraised] at h
  exact nomatch h

end Contexts

end DocExamples
