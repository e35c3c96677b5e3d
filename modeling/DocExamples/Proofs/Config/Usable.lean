import DocExamples.Config.Build
import DocExamples.Proofs.Run.Account

/-!
# Which configurations can be used

A configuration is built long before it is used. What is wrong with a pattern, a maker of modules
or a variable would otherwise show in the middle of a run, where a sandbox is made or a context is
installed. This file says how far the checks at the start rule that out.

There are two ways to a configuration. From parts, everything that is used later is read here, so
a configuration that is built is usable. One that comes as a whole goes another way, with checks
of its own for variables, modules and hook. Its makers of modules are not looked at, nor is its
way of compiling, so these have to be right already.
-/

namespace DocExamples

/-- Holds of a value that the sandbox can receive. -/
def Data.IsRendered (d : Data) : Prop := ∃ text, d.toScript = .ok text

/-- A configuration of which nothing fails when it is used. -/
structure Config.Usable (c : Config) : Prop where
  patterns : c.PatternsRead
  handlers : ∀ x ∈ c.regexRequire, x.2.isUsable = true
  globals : ∀ x ∈ c.globals, x.2.IsRendered
  require : ∀ x ∈ c.require, x.2.IsRendered

/-- Holds of a mapping from patterns to what makes modules. -/
def FinishedConfig.AreMakers (d : Data) : Prop :=
  ∃ entries, d = .map entries ∧ ∀ e ∈ entries, ∃ text, e.1 = .text text ∧
    (∃ pattern, Pattern.read text.toList = .ok pattern) ∧ (Handler.value e.2).isUsable = true

/-- A finished configuration of which nothing fails when it is used. -/
structure FinishedConfig.Usable (f : FinishedConfig) : Prop where
  makers : AreMakers f.regexRequire
  globals : ∀ x ∈ f.globals, x.2.IsRendered
  require : ∀ x ∈ f.require, x.2.IsRendered
  transpile : ∃ enabled presets, f.transpile = .transpile enabled presets

/-! ## What usable configurations are good for -/

theorem Except.mapM_eq_ok {ε α β : Type} {f : α → Except ε β} {P : β → Prop} {as : List α}
    (h : ∀ a ∈ as, ∃ b, f a = .ok b ∧ P b) : ∃ bs, as.mapM f = .ok bs ∧ ∀ b ∈ bs, P b := by
  induction as with
  | nil => exact ⟨[], rfl, fun b hb => absurd hb List.not_mem_nil⟩
  | cons a more ih =>
      obtain ⟨⟨b, hb, hPb⟩, hmore⟩ := List.forall_mem_cons.1 h
      obtain ⟨bs, hbs, hP⟩ := ih hmore
      refine ⟨b :: bs, ?_, List.forall_mem_cons.2 ⟨hPb, hP⟩⟩
      rw [List.mapM_cons, hb, hbs]
      rfl

theorem Sandbox.globalSources_eq_ok {globals : List (Data × Data)}
    (h : ∀ x ∈ globals, x.2.IsRendered) : ∃ sources, globalSources globals = .ok sources := by
  obtain ⟨sources, hsources, -⟩ := Except.mapM_eq_ok (P := fun _ => True)
    (f := fun x : Data × Data => x.2.scriptText.map fun source => (x.1, source)) fun x hx => by
      obtain ⟨text, htext⟩ := h x hx
      rw [Data.scriptText, htext]
      exact ⟨_, rfl, trivial⟩
  exact ⟨sources, hsources⟩

theorem Resolver.patternsRead_of_readPatterns {handlers : List (String × Handler)}
    {patterns : List (Pattern × Maker)} (h : readPatterns handlers = .ok patterns) :
    ∀ x ∈ handlers, ∃ pattern, Pattern.read x.1.toList = .ok pattern := by
  induction handlers generalizing patterns with
  | nil => exact fun x hx => absurd hx List.not_mem_nil
  | cons x more ih =>
      obtain ⟨text, handler⟩ := x
      rw [readPatterns] at h
      cases hread : Pattern.read text.toList with
      | error fault =>
          rw [hread] at h
          cases h
      | ok pattern =>
          rw [hread] at h
          obtain ⟨others, hothers, -⟩ := Except.map_eq_ok h
          exact List.forall_mem_cons.2 ⟨⟨pattern, hread⟩, ih hothers⟩

theorem Sandbox.ofConfig_eq_ok_iff (c : Config) : (∃ s, ofConfig c = .ok s) ↔ c.PatternsRead := by
  refine ⟨fun ⟨s, h⟩ => ?_, ofConfig_eq_ok⟩
  obtain ⟨resolver, hresolver, -⟩ := Except.map_eq_ok h
  obtain ⟨patterns, hpatterns, -⟩ := Except.map_eq_ok hresolver
  exact Resolver.patternsRead_of_readPatterns hpatterns

theorem FinishedConfig.AreMakers.handlers_eq_ok {f : FinishedConfig}
    (h : AreMakers f.regexRequire) :
    ∃ handlers, f.handlers = .ok handlers ∧
      ∀ x ∈ handlers, (∃ pattern, Pattern.read x.1.toList = .ok pattern) ∧
        x.2.isUsable = true := by
  obtain ⟨entries, hentries, hall⟩ := h
  rw [handlers, hentries]
  split
  · refine Except.mapM_eq_ok fun e he => ?_
    obtain ⟨text, htext, hpattern, husable⟩ := hall e he
    obtain ⟨key, value⟩ := e
    cases htext
    exact ⟨_, rfl, hpattern, husable⟩
  · exact ⟨[], rfl, fun x hx => absurd hx List.not_mem_nil⟩

namespace Config

/-! ## What is checked -/

theorem checkValues_eq_ok {part : Section} {entries : List (Data × Data)}
    (h : checkValues part entries = .ok ()) : ∀ e ∈ entries, e.2.IsRendered := by
  induction entries with
  | nil => exact fun e he => absurd he List.not_mem_nil
  | cons e more ih =>
      obtain ⟨key, value⟩ := e
      rw [checkValues] at h
      split at h
      · split at h <;> exact nomatch h
      · exact nomatch h
      · next text htext => exact List.forall_mem_cons.2 ⟨⟨text, htext⟩, ih h⟩

theorem checkValues_entriesOf_eq_ok {part : Section} {named : List (String × Data)}
    (h : checkValues part (entriesOf named) = .ok ()) : ∀ x ∈ named, x.2.IsRendered :=
  fun x hx => checkValues_eq_ok h (.text x.1, x.2) (List.mem_map_of_mem hx)

theorem readHandler_isUsable {pattern : String} {value : Data} {handler : Handler}
    (h : readHandler pattern value = .ok handler) : handler.isUsable = true := by
  rw [readHandler.eq_def] at h
  split at h <;> cases h <;> rfl

theorem readHandlers_eq_ok {named : List (String × Data)} {handlers : List (String × Handler)}
    (h : readHandlers named = .ok handlers) :
    ∀ x ∈ handlers, (∃ pattern, Pattern.read x.1.toList = .ok pattern) ∧
      x.2.isUsable = true := by
  induction named generalizing handlers with
  | nil =>
      cases h
      exact fun x hx => absurd hx List.not_mem_nil
  | cons x more ih =>
      obtain ⟨text, value⟩ := x
      rw [readHandlers] at h
      split at h
      · exact nomatch h
      · next pattern hpattern =>
          split at h
          · exact nomatch h
          · next handler hhandler =>
              obtain ⟨others, hothers, rfl⟩ := Except.map_eq_ok h
              exact List.forall_mem_cons.2
                ⟨⟨⟨pattern, hpattern⟩, readHandler_isUsable hhandler⟩, ih hothers⟩

/-- What a setting makes of the hook. -/
inductive HookOf : Data → Option Hook → Prop where
  | null : HookOf .null none
  | script (source : String) : HookOf (.script source) (some (.script source))
  | text (source : String) : HookOf (.text source) (some (.script source))
  | callable (typeName : String) (call : Nat → List (Option String) → Except Failure Data) :
      HookOf (.callable typeName call) (some (.action (actionFailure call)))

theorem readHook_eq_ok_iff (d : Data) (hook : Option Hook) :
    readHook d = .ok hook ↔ HookOf d hook := by
  constructor
  · intro h
    rw [readHook.eq_def] at h
    split at h <;> cases h
    · exact .null
    · exact .script _
    · exact .text _
    · exact .callable _ _
  · intro h
    cases h <;> rfl

theorem ofParts_usable {settings : Settings} {root : String} {c : Config}
    (h : ofParts settings root = .ok c) :
    c.Usable ∧ HookOf (setting settings "before_each") c.beforeEach := by
  rw [ofParts] at h
  obtain ⟨globals, -, h⟩ := Except.bind_eq_ok h
  obtain ⟨require, -, h⟩ := Except.bind_eq_ok h
  obtain ⟨_, hglobals, h⟩ := Except.bind_eq_ok h
  obtain ⟨_, hrequire, h⟩ := Except.bind_eq_ok h
  obtain ⟨handlers, -, h⟩ := Except.bind_eq_ok h
  obtain ⟨regexRequire, hhandlers, h⟩ := Except.bind_eq_ok h
  obtain ⟨hook, hhook, h⟩ := Except.bind_eq_ok h
  obtain ⟨includes, -, h⟩ := Except.bind_eq_ok h
  obtain ⟨transpile, -, h⟩ := Except.bind_eq_ok h
  obtain ⟨excludes, -, h⟩ := Except.bind_eq_ok h
  cases h
  have hread := readHandlers_eq_ok hhandlers
  exact ⟨⟨fun x hx => (hread x hx).1, fun x hx => (hread x hx).2,
    checkValues_eq_ok hglobals, checkValues_entriesOf_eq_ok hrequire⟩,
    (readHook_eq_ok_iff _ _).1 hhook⟩

theorem ofFinished_eq_ok {fields : Settings} {root : String} {f : FinishedConfig}
    (h : ofFinished fields root = .ok f) :
    (∀ x ∈ f.globals, x.2.IsRendered) ∧ (∀ x ∈ f.require, x.2.IsRendered) ∧
      HookOf (setting fields "before_each") f.beforeEach ∧
      f.regexRequire = field fields "regex_require" (.map []) ∧
      f.transpile = field fields "transpile"
        (.transpile ({} : Transpile).enabled ({} : Transpile).presets) := by
  rw [ofFinished] at h
  obtain ⟨globals, -, h⟩ := Except.bind_eq_ok h
  obtain ⟨_, hglobals, h⟩ := Except.bind_eq_ok h
  obtain ⟨require, -, h⟩ := Except.bind_eq_ok h
  obtain ⟨_, hrequire, h⟩ := Except.bind_eq_ok h
  obtain ⟨hook, hhook, h⟩ := Except.bind_eq_ok h
  cases h
  exact ⟨checkValues_eq_ok hglobals, checkValues_eq_ok hrequire,
    (readHook_eq_ok_iff _ _).1 hhook, rfl, rfl⟩

theorem toConfig_globals {f : FinishedConfig} {c : Config} (h : f.toConfig = .ok c)
    (hglobals : ∀ x ∈ f.globals, x.2.IsRendered) : ∀ x ∈ c.globals, x.2.IsRendered := by
  rw [FinishedConfig.toConfig] at h
  obtain ⟨handlers, -, h⟩ := Except.bind_eq_ok h
  cases h
  exact hglobals

/-- A configuration that is built from parts is usable: sandboxes can be made of it and its
variables have a text. Of a finished one the variables, the modules and the hook are checked. Its
makers of modules and its way of compiling are taken as they come, so it is usable exactly if
these two were right, and a sandbox can be made of it exactly if its patterns can be read. -/
theorem build_usable {settings : Settings} {root : String} {log : List Log.Record} {built : Built}
    (h : build settings root = (log, .ok built)) :
    (∀ c, built = .ofParts c →
      c.Usable ∧ HookOf (setting settings "before_each") c.beforeEach ∧
      (∃ s, Sandbox.ofConfig c = .ok s) ∧
      ∃ sources, Sandbox.globalSources c.globals = .ok sources) ∧
    ∀ f, built = .finished f → ∃ fields, setting settings "config" = .settings fields ∧
      (∀ x ∈ f.globals, x.2.IsRendered) ∧ (∀ x ∈ f.require, x.2.IsRendered) ∧
      HookOf (setting fields "before_each") f.beforeEach ∧
      (f.Usable ↔ FinishedConfig.AreMakers (field fields "regex_require" (.map [])) ∧
        ∃ enabled presets, field fields "transpile"
          (.transpile ({} : Transpile).enabled ({} : Transpile).presets) =
            .transpile enabled presets) ∧
      (f.Usable → ∃ handlers patterns, f.handlers = .ok handlers ∧
        (∀ x ∈ handlers, x.2.isUsable = true) ∧
        Resolver.readPatterns handlers = .ok patterns) ∧
      ∀ c, f.toConfig = .ok c →
        ((∃ s, Sandbox.ofConfig c = .ok s) ↔ c.PatternsRead) ∧
        ∃ sources, Sandbox.globalSources c.globals = .ok sources := by
  have hbuilt := congrArg Prod.snd h
  dsimp only [build] at hbuilt
  split at hbuilt
  · next fields hsettings =>
      obtain ⟨f', hf, rfl⟩ := Except.map_eq_ok hbuilt
      refine ⟨fun c hc => (nomatch hc), ?_⟩
      rintro f ⟨⟩
      obtain ⟨hglobals, hrequire, hhook, hmakers, htranspile⟩ := ofFinished_eq_ok hf
      refine ⟨fields, hsettings, hglobals, hrequire, hhook, ?_, fun husable => ?_,
        fun c hc => ⟨Sandbox.ofConfig_eq_ok_iff c,
          Sandbox.globalSources_eq_ok (toConfig_globals hc hglobals)⟩⟩
      · rw [← hmakers, ← htranspile]
        exact ⟨fun husable => ⟨husable.makers, husable.transpile⟩,
          fun ⟨hm, ht⟩ => ⟨hm, hglobals, hrequire, ht⟩⟩
      · obtain ⟨handlers, hhandlers, hall⟩ := husable.makers.handlers_eq_ok
        obtain ⟨patterns, hpatterns⟩ :=
          Resolver.readPatterns_eq_ok fun x hx => (hall x hx).1
        exact ⟨handlers, patterns, hhandlers, fun x hx => (hall x hx).2, hpatterns⟩
  · obtain ⟨c', hc', rfl⟩ := Except.map_eq_ok hbuilt
    refine ⟨?_, fun f hf => nomatch hf⟩
    rintro c ⟨⟩
    obtain ⟨husable, hhook⟩ := ofParts_usable hc'
    exact ⟨husable, hhook, Sandbox.ofConfig_eq_ok husable.patterns,
      Sandbox.globalSources_eq_ok husable.globals⟩

/-- A value of several levels, a pattern with a template, and a hook. -/
theorem build_usable_of_parts :
    let settings : Settings := [("globals", .map [(.text "n", .list [.null, .text "x"])]),
      ("regex_require", .map [(.text "^a", .text "$0")]), ("before_each", .text "setup")]
    ∃ c, build settings "." = ([], .ok (.ofParts c)) ∧ c.Usable ∧
      ∃ s, Sandbox.ofConfig c = .ok s := by
  intro settings
  have hbuilt : ∃ c, build settings "." = ([], .ok (.ofParts c)) := ⟨_, rfl⟩
  obtain ⟨c, hc⟩ := hbuilt
  obtain ⟨husable, -, hsandbox, -⟩ := (build_usable hc).1 c rfl
  exact ⟨c, hc, husable, hsandbox⟩

/-- A finished configuration may hold a pattern that cannot be read. It is built all the same, and
no sandbox can be made of it. -/
theorem finished_not_usable_of_bad_pattern :
    let settings : Settings := [("config", .settings
      [("regex_require", .map [(.text "(", .callable "function" fun _ _ => .ok .null)])])]
    ∃ f c fault, build settings "base" = ([], .ok (.finished f)) ∧ ¬ f.Usable ∧
      f.toConfig = .ok c ∧ Sandbox.ofConfig c = .error ("(", fault) := by
  intro settings
  refine ⟨_, _, _, rfl, fun husable => ?_, rfl, rfl⟩
  obtain ⟨entries, hentries, hall⟩ := husable.makers
  cases hentries
  obtain ⟨text, htext, ⟨pattern, hpattern⟩, -⟩ := hall _ List.mem_cons_self
  cases htext
  exact nomatch hpattern

end Config

end DocExamples
