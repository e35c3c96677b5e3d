import DocExamples.Run.Runner
import Mathlib.Logic.Function.Basic

/-!
# The calls for one example

A run hands out three kinds of calls and gets an answer to each. Here they are put on
record as exchanges, and `Happened` says of a list of exchanges that these are the
answers which the engine and the hook really gave, one after the other, starting from
a given world. What one example asks for is then a list of exchanges in one of four
shapes, `InOrder`, and its result is decided by whether one of them failed.

A sandbox is passed from call to call while it is in use and dropped afterwards. The
world keeps all of them by their numbers, so that a fact about one sandbox is a fact
about a function and no value has to be followed through the code.
-/

namespace DocExamples

open Function (update update_self)

/-- A call out of a run, and its answer. -/
inductive Exchange where
  | hook (answer : Except Raised Unit)
  | compile (code : String) (language : Language) (answer : Except Raised String)
  /-- The sandbox is given as the call finds it. -/
  | evaluate (code : String) (number : Nat) (found : Sandbox) (answer : Except Raised Unit)

namespace Exchange

/-- The call itself. -/
def call : Exchange → Call
  | hook _ => .hook
  | compile code language _ => .compile code language
  | evaluate code number _ _ => .evaluate code number

/-- Holds of a call that failed. -/
def Fails : Exchange → Prop
  | hook answer => ∃ raised, answer = .error raised
  | compile _ _ answer => ∃ raised, answer = .error raised
  | evaluate _ _ _ answer => ∃ raised, answer = .error raised

/-- The sandbox in which a call is made, if it is made in one. -/
def number? : Exchange → Option Nat
  | evaluate _ number _ _ => some number
  | _ => none

end Exchange

/-- All that the calls of a run can change: the engine, how often the hook was called as an
action, and every sandbox by its number. -/
structure World (σ : Type) where
  engine : σ
  hooks : Nat
  sandboxes : Nat → Sandbox

namespace World

variable {σ : Type}

/-- The answer to a call, and the world behind it. -/
inductive Answers (c : Config) (e : Engine σ) (w : World σ) : Exchange → World σ → Prop where
  | hook (action : Nat → Option Failure) (h : c.beforeEach = some (.action action)) :
      Answers c e w
        (.hook (match action w.hooks with
          | none => .ok ()
          | some f => .error (.other f)))
        { w with hooks := w.hooks + 1 }
  | compile (code : String) (language : Language) :
      Answers c e w (.compile code language (e.compile code language w.engine).1)
        { w with engine := (e.compile code language w.engine).2 }
  | evaluate (code : String) (number : Nat) :
      Answers c e w
        (.evaluate code number (w.sandboxes number)
          (e.evaluate number (w.sandboxes number) code w.engine).1)
        { w with
          engine := (e.evaluate number (w.sandboxes number) code w.engine).2.2
          sandboxes := update w.sandboxes number
            (e.evaluate number (w.sandboxes number) code w.engine).2.1 }

/-- The answers to calls made one after the other. -/
inductive Happened (c : Config) (e : Engine σ) : World σ → List Exchange → World σ → Prop where
  | nil (w : World σ) : Happened c e w [] w
  | cons {w w' w'' : World σ} {x : Exchange} {xs : List Exchange} (hx : Answers c e w x w')
      (hxs : Happened c e w' xs w'') : Happened c e w (x :: xs) w''

variable {c : Config} {e : Engine σ} {w w' w'' : World σ} {x : Exchange} {xs ys : List Exchange}

theorem Answers.happened (h : Answers c e w x w') : Happened c e w [x] w' := .cons h (.nil w')

theorem Happened.append (hx : Happened c e w xs w') (hy : Happened c e w' ys w'') :
    Happened c e w (xs ++ ys) w'' := by
  induction hx with
  | nil w => exact hy
  | cons hx _ ih => exact .cons hx (ih hy)

theorem Answers.sandboxes_eq (h : Answers c e w x w') {k : Nat} (hk : x.number? ≠ some k) :
    w'.sandboxes k = w.sandboxes k := by
  cases h with
  | hook => rfl
  | compile => rfl
  | evaluate code number =>
      exact Function.update_of_ne (fun heq => hk (congrArg some heq.symm)) _ _

/-- A sandbox in which no call is made stays as it is. -/
theorem Happened.sandboxes_eq (h : Happened c e w xs w') {k : Nat}
    (hk : ∀ x ∈ xs, x.number? ≠ some k) : w'.sandboxes k = w.sandboxes k := by
  induction h with
  | nil w => rfl
  | cons hx _ ih =>
      obtain ⟨hfirst, hmore⟩ := List.forall_mem_cons.1 hk
      rw [ih hmore, hx.sandboxes_eq hfirst]

end World

namespace Run

variable {σ : Type}

/-! ## What an example asks for -/

/-- The exchange is the call of the hook for an example in the given sandbox. -/
def HookCall (c : Config) (number : Nat) (x : Exchange) : Prop :=
  match c.beforeEach with
  | none => False
  | some (.script source) => ∃ found answer, x = .evaluate (hookCode source) number found answer
  | some (.action _) => ∃ answer, x = .hook answer

/-- What comes before the example itself, unless the hook fails. -/
def HookPasses (c : Config) (number : Nat) (xs : List Exchange) : Prop :=
  (c.beforeEach = none ∧ xs = []) ∨ ∃ x, HookCall c number x ∧ ¬ x.Fails ∧ xs = [x]

/-- The calls for one example in their order: the hook, the compiler where the
configuration asks for it, and the evaluator, each only if none before it failed. -/
inductive InOrder (c : Config) (snippet : Snippet) (number : Nat) : List Exchange → Prop where
  | hookFails {x : Exchange} (hx : HookCall c number x) (hfails : x.Fails) :
      InOrder c snippet number [x]
  | compilerFails {before : List Exchange} (hbefore : HookPasses c number before)
      (henabled : c.transpile.enabled.isTrue = true) (raised : Raised) :
      InOrder c snippet number
        (before ++ [.compile snippet.code snippet.language (.error raised)])
  | compiled {before : List Exchange} (hbefore : HookPasses c number before)
      (henabled : c.transpile.enabled.isTrue = true) (code : String) (found : Sandbox)
      (answer : Except Raised Unit) :
      InOrder c snippet number
        (before ++ [.compile snippet.code snippet.language (.ok code),
          .evaluate code number found answer])
  | asWritten {before : List Exchange} (hbefore : HookPasses c number before)
      (henabled : c.transpile.enabled.isTrue = false) (found : Sandbox)
      (answer : Except Raised Unit) :
      InOrder c snippet number (before ++ [.evaluate snippet.code number found answer])

/-! ## The run and the world -/

/-- A run, and the sandbox that it has at hand, as they stand in the world. -/
structure Tracks (w : World σ) (s : Numbered) (r : Run σ) : Prop where
  engine : r.engine = w.engine
  hooks : r.hooks = w.hooks
  sandbox : s.sandbox = w.sandboxes s.number

/-- From one point of a run to another the given exchanges happened, all of them in the
sandbox at hand. -/
structure Advances (c : Config) (e : Engine σ) (w : World σ) (s : Numbered) (r : Run σ)
    (xs : List Exchange) (w' : World σ) (s' : Numbered) (r' : Run σ) : Prop where
  happened : World.Happened c e w xs w'
  tracks : Tracks w' s' r'
  number : s'.number = s.number
  within : ∀ x ∈ xs, ∀ k, x.number? = some k → k = s.number
  calls : r'.calls = r.calls ++ xs.map (·.call)
  announced : r'.announced = r.announced
  made : r'.sandboxes = r.sandboxes

section Steps

variable {c : Config} {e : Engine σ} {w w' w'' : World σ} {s s' s'' : Numbered}
  {r r' r'' : Run σ} {xs ys : List Exchange}

theorem Advances.refl (h : Tracks w s r) : Advances c e w s r [] w s r where
  happened := .nil w
  tracks := h
  number := rfl
  within _ hx := absurd hx List.not_mem_nil
  calls := (List.append_nil _).symm
  announced := rfl
  made := rfl

theorem Advances.trans (hx : Advances c e w s r xs w' s' r')
    (hy : Advances c e w' s' r' ys w'' s'' r'') :
    Advances c e w s r (xs ++ ys) w'' s'' r'' where
  happened := hx.happened.append hy.happened
  tracks := hy.tracks
  number := hy.number.trans hx.number
  within x hmem k hk := by
    rcases List.mem_append.1 hmem with hmem | hmem
    · exact hx.within x hmem k hk
    · exact (hy.within x hmem k hk).trans hx.number
  calls := by rw [hy.calls, hx.calls, List.map_append, List.append_assoc]
  announced := hy.announced.trans hx.announced
  made := hy.made.trans hx.made

/-- A log record is no call. -/
theorem Advances.note (h : Advances c e w s r xs w' s' r') (level : Log.Level)
    (message : String) : Advances c e w s r xs w' s' (r'.note level message) :=
  { h with tracks := { h.tracks with } }

/-- One call. -/
theorem Advances.one {x : Exchange} (h : World.Answers c e w x w')
    (htracks : Tracks w' s' r') (hnumber : s'.number = s.number)
    (hwithin : ∀ k, x.number? = some k → k = s.number) (hcalls : r'.calls = r.calls ++ [x.call])
    (hannounced : r'.announced = r.announced) (hmade : r'.sandboxes = r.sandboxes) :
    Advances c e w s r [x] w' s' r' where
  happened := h.happened
  tracks := htracks
  number := hnumber
  within := List.forall_mem_singleton.2 hwithin
  calls := hcalls
  announced := hannounced
  made := hmade

theorem evaluate_advances (h : Tracks w s r) (code : String) :
    ∃ w', Advances c e w s r [.evaluate code s.number s.sandbox (evaluate e code s r).1] w'
      (evaluate e code s r).2.1 (evaluate e code s r).2.2 := by
  obtain ⟨number, sandbox⟩ := s
  obtain ⟨engine, hooks, sandboxes, calls, announced, log⟩ := r
  obtain ⟨rfl, rfl, hsandbox⟩ := h
  dsimp only at hsandbox
  subst hsandbox
  have hleft := (update_self number
    (e.evaluate number (w.sandboxes number) code w.engine).2.1 w.sandboxes).symm
  exact ⟨_, Advances.one (.evaluate code number) ⟨rfl, rfl, hleft⟩ rfl
    (fun k hk => (Option.some.inj hk).symm) rfl rfl rfl⟩

theorem compile_advances (h : Tracks w s r) (code : String) (language : Language) :
    ∃ w', Advances c e w s r [.compile code language (compile e code language r).1] w' s
      (compile e code language r).2 := by
  obtain ⟨engine, hooks, sandboxes, calls, announced, log⟩ := r
  obtain ⟨rfl, rfl, hsandbox⟩ := h
  exact ⟨_, Advances.one (.compile code language) ⟨rfl, rfl, hsandbox⟩ rfl nofun rfl
    rfl rfl⟩

theorem callAction_advances (h : Tracks w s r) {action : Nat → Option Failure}
    (haction : c.beforeEach = some (.action action)) :
    ∃ w', Advances c e w s r [.hook (callAction action r).1] w' s (callAction action r).2 := by
  obtain ⟨engine, hooks, sandboxes, calls, announced, log⟩ := r
  obtain ⟨rfl, rfl, hsandbox⟩ := h
  exact ⟨_, Advances.one (.hook action haction) ⟨rfl, rfl, hsandbox⟩ rfl nofun rfl rfl
    rfl⟩

/-- One call of the hook passes or fails. -/
theorem hookCall_cases {number : Nat} {x : Exchange} (hx : HookCall c number x)
    {answer : Except Raised Unit} (hfails : x.Fails ↔ ∃ raised, answer = .error raised) :
    answer = .ok () ∧ HookPasses c number [x] ∨
      ∃ raised y, answer = .error raised ∧ [x] = [y] ∧ HookCall c number y ∧ y.Fails := by
  cases answer with
  | ok =>
      refine .inl ⟨rfl, .inr ⟨x, hx, fun h => ?_, rfl⟩⟩
      obtain ⟨_, ⟨⟩⟩ := hfails.1 h
  | error raised => exact .inr ⟨raised, x, rfl, rfl, hx, hfails.2 ⟨raised, rfl⟩⟩

/-- The hook passes, or it is the only call and fails. -/
theorem callHook_advances (e : Engine σ) (h : Tracks w s r) :
    ∃ xs w', Advances c e w s r xs w' (callHook c e s r).2.1 (callHook c e s r).2.2 ∧
      ((callHook c e s r).1 = .ok () ∧ HookPasses c s.number xs ∨
        ∃ raised x, (callHook c e s r).1 = .error raised ∧ xs = [x] ∧
          HookCall c s.number x ∧ x.Fails) := by
  rw [callHook]
  split
  · next hhook => exact ⟨[], w, .refl h, .inl ⟨rfl, .inl ⟨hhook, rfl⟩⟩⟩
  · next source hhook =>
      obtain ⟨w', hadvances⟩ := evaluate_advances (c := c) (e := e) h (hookCode source)
      refine ⟨_, w', hadvances, hookCall_cases ?_ Iff.rfl⟩
      rw [HookCall, hhook]
      exact ⟨_, _, rfl⟩
  · next action hhook =>
      obtain ⟨w', hadvances⟩ := callAction_advances (e := e) h hhook
      refine ⟨_, w', hadvances, hookCall_cases ?_ Iff.rfl⟩
      rw [HookCall, hhook]
      exact ⟨_, rfl⟩

theorem evaluate_eq_ok_iff {code : String} :
    (evaluate e code s r).1 = .ok () ↔
      ¬ (Exchange.evaluate code s.number s.sandbox (evaluate e code s r).1).Fails := by
  cases (evaluate e code s r).1 with
  | ok => exact iff_of_true rfl fun ⟨_, h⟩ => nomatch h
  | error raised => exact iff_of_false (nomatch ·) fun h => h ⟨raised, rfl⟩

/-- Behind a hook that passes come the compiler, where it is asked for, and the
evaluator. -/
theorem execute_advances (e : Engine σ) (h : Tracks w s r) (snippet : Snippet) :
    ∃ ys w', Advances c e w s r ys w' (execute c e snippet s r).2.1
        (execute c e snippet s r).2.2 ∧
      ((execute c e snippet s r).1 = .ok () ↔ ∀ y ∈ ys, ¬ y.Fails) ∧
      ∀ before, HookPasses c s.number before → InOrder c snippet s.number (before ++ ys) := by
  rw [execute, compileIfEnabled]
  cases henabled : c.transpile.enabled.isTrue with
  | false =>
      obtain ⟨w', hadvances⟩ := evaluate_advances (c := c) (e := e) h snippet.code
      refine ⟨_, w', hadvances, ?_, fun before hbefore => .asWritten hbefore henabled _ _⟩
      rw [List.forall_mem_singleton]
      exact evaluate_eq_ok_iff
  | true =>
      obtain ⟨w', hcompiles⟩ := compile_advances (c := c) (e := e) h snippet.code snippet.language
      rw [if_pos rfl]
      cases hanswer : compile e snippet.code snippet.language r with
      | mk answer r' =>
      rw [hanswer] at hcompiles
      cases answer with
      | error raised =>
          refine ⟨_, w', hcompiles, iff_of_false (nomatch ·) fun hno => ?_,
            fun before hbefore => .compilerFails hbefore henabled raised⟩
          exact hno _ (.head _) ⟨raised, rfl⟩
      | ok code =>
          obtain ⟨w'', hevaluates⟩ := evaluate_advances (c := c) (e := e) hcompiles.tracks code
          refine ⟨_, w'', hcompiles.trans hevaluates, ?_,
            fun before hbefore => .compiled hbefore henabled code _ _⟩
          rw [List.singleton_append, List.forall_mem_cons, List.forall_mem_singleton]
          refine evaluate_eq_ok_iff.trans (and_iff_right ?_).symm
          rintro ⟨_, ⟨⟩⟩

/-- An example that was attempted: its sandbox, what happened, and its result. -/
structure Attempt where
  sandbox : Nat
  exchanges : List Exchange
  result : Result

/-- The calls are those of the example in their order, all in its sandbox, and the result
is decided by whether one of them failed. -/
structure Attempt.Sound (c : Config) (a : Attempt) : Prop where
  inOrder : InOrder c a.result.snippet a.sandbox a.exchanges
  within : ∀ x ∈ a.exchanges, ∀ k, x.number? = some k → k = a.sandbox
  pass_iff : a.result.status = .pass ↔ ∀ x ∈ a.exchanges, ¬ x.Fails
  fail_iff : a.result.status = .fail ↔ ∃ x ∈ a.exchanges, x.Fails

theorem Attempt.sound_of_pass {number : Nat} {result : Result}
    (horder : InOrder c result.snippet number xs)
    (hwithin : ∀ x ∈ xs, ∀ k, x.number? = some k → k = number)
    (hstatus : result.status = .pass) (hpass : ∀ x ∈ xs, ¬ x.Fails) :
    Attempt.Sound c ⟨number, xs, result⟩ where
  inOrder := horder
  within := hwithin
  pass_iff := iff_of_true hstatus hpass
  fail_iff := iff_of_false (by rw [hstatus]; decide) fun ⟨x, hx, hfails⟩ => hpass x hx hfails

theorem Attempt.sound_of_fail {number : Nat} {result : Result}
    (horder : InOrder c result.snippet number xs)
    (hwithin : ∀ x ∈ xs, ∀ k, x.number? = some k → k = number)
    (hstatus : result.status = .fail) (hfail : ∃ x ∈ xs, x.Fails) :
    Attempt.Sound c ⟨number, xs, result⟩ where
  inOrder := horder
  within := hwithin
  pass_iff := iff_of_false (by rw [hstatus]; decide) fun hpass =>
    hfail.elim fun x hx => hpass x hx.1 hx.2
  fail_iff := iff_of_true hstatus hfail

theorem HookPasses.not_fails {number : Nat} (h : HookPasses c number xs) :
    ∀ x ∈ xs, ¬ x.Fails := by
  rcases h with ⟨_, rfl⟩ | ⟨x, _, hx, rfl⟩
  · exact List.forall_mem_nil _
  · rwa [List.forall_mem_singleton]

theorem failed_status (snippet : Snippet) (raised : Raised) :
    (failed snippet raised).status = .fail ∧ (failed snippet raised).snippet = snippet := by
  cases raised <;> exact ⟨rfl, rfl⟩

theorem noteUnexpected_advances (h : Advances c e w s r xs w' s' r') (snippet : Snippet)
    (raised : Raised) : Advances c e w s r xs w' s' (noteUnexpected snippet raised r') := by
  cases raised with
  | other f => exact h.note _ _
  | _ => exact h

/-- An attempt at an example makes its calls and is decided by them. -/
theorem attempt_advances (e : Engine σ) (h : Tracks w s r) (snippet : Snippet) :
    ∃ xs w', Advances c e w s r xs w' (attempt c e snippet s r).2.1
        (attempt c e snippet s r).2.2 ∧
      (attempt c e snippet s r).1.snippet = snippet ∧
      Attempt.Sound c ⟨s.number, xs, (attempt c e snippet s r).1⟩ := by
  obtain ⟨xs, w', hhook, hcases⟩ := callHook_advances (c := c) e h
  rw [attempt]
  cases hcall : callHook c e s r with
  | mk answer rest =>
  obtain ⟨s', r'⟩ := rest
  rw [hcall] at hhook hcases
  rcases hcases with ⟨hok, hpasses⟩ | ⟨raised, x, herror, rfl, hx, hfails⟩
  · dsimp only at hok
    subst hok
    obtain ⟨ys, w'', hexecute, hiff, horder⟩ := execute_advances (c := c) e hhook.tracks snippet
    have hboth := hhook.trans hexecute
    -- the hook leaves the sandbox at hand with its number
    rw [hhook.number] at horder
    have hinOrder := horder xs hpasses
    dsimp only
    cases hrest : execute c e snippet s' r' with
    | mk answer rest =>
    obtain ⟨s'', r''⟩ := rest
    rw [hrest] at hiff hboth
    cases answer with
    | ok =>
        have hnone := List.forall_mem_append.2 ⟨hpasses.not_fails, hiff.1 rfl⟩
        exact ⟨xs ++ ys, w'', hboth, rfl,
          Attempt.sound_of_pass hinOrder hboth.within rfl hnone⟩
    | error raised =>
        obtain ⟨hstatus, hsnippet⟩ := failed_status snippet raised
        have hsome : ∃ y ∈ ys, y.Fails := by
          by_contra hno
          exact nomatch hiff.2 fun y hy hfails => hno ⟨y, hy, hfails⟩
        obtain ⟨y, hy, hfails⟩ := hsome
        refine ⟨xs ++ ys, w'', noteUnexpected_advances hboth snippet raised, hsnippet, ?_⟩
        exact Attempt.sound_of_fail (hsnippet.symm ▸ hinOrder) hboth.within hstatus
          ⟨y, List.mem_append_right xs hy, hfails⟩
  · dsimp only at herror
    subst herror
    exact ⟨[x], w', hhook, rfl,
      Attempt.sound_of_fail (.hookFails hx hfails) hhook.within rfl ⟨x, .head _, hfails⟩⟩

end Steps

end Run

end DocExamples
