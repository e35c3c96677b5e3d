import DocExamples.Proofs.Config.Usable

/-!
# What the checks of settings let through

Something wrong with a configuration should be reported as such. Most checks of settings do that,
but some of what they call can fail in a way of its own, and no handler stands around the call.
This file says for each check which failures these are.

Two things are said of a check at once. What leaves it without a report is one of the failures that
it lets through, and where it gives a value none of them was there. So a failure that is let through
is either seen or comes behind something that is reported first, and the order of the checks does
not have to be spelled out. `LetsThrough` holds both, and what it says of a check that is made of
several follows from what it says of each.
-/

namespace DocExamples.Config

/-- Holds of a check that reports everything but the given failures. -/
structure LetsThrough {α : Type} (check : Except LoadError α) (P : Failure → Prop) : Prop where
  of_unhandled : ∀ x, check = .error (.unhandled x) → P x
  not_of_ok : ∀ a, check = .ok a → ∀ x, ¬ P x

namespace LetsThrough

variable {α β : Type} {check : Except LoadError α} {P Q : Failure → Prop}

theorem congr (h : LetsThrough check P) (hPQ : ∀ x, P x ↔ Q x) : LetsThrough check Q :=
  ⟨fun x hx => (hPQ x).1 (h.of_unhandled x hx),
    fun a ha x hx => h.not_of_ok a ha x ((hPQ x).2 hx)⟩

theorem ok (a : α) (hP : ∀ x, ¬ P x) : LetsThrough (.ok a) P :=
  ⟨fun _ hx => (nomatch hx), fun _ _ => hP⟩

theorem reported (e : ConfigError) : LetsThrough (.error (.config e) : Except LoadError α) P :=
  ⟨fun _ hx => (nomatch hx), fun _ ha => (nomatch ha)⟩

theorem unhandled {x : Failure} (hx : P x) :
    LetsThrough (.error (.unhandled x) : Except LoadError α) P :=
  ⟨by rintro _ ⟨⟩; exact hx, fun _ ha => nomatch ha⟩

theorem map (h : LetsThrough check P) (f : α → β) : LetsThrough (check.map f) P := by
  constructor
  · intro x hx
    cases check with
    | ok a => exact nomatch hx
    | error e =>
        cases hx
        exact h.of_unhandled x rfl
  · intro b hb
    obtain ⟨a, ha, -⟩ := Except.map_eq_ok hb
    exact h.not_of_ok a ha

/-- What stands behind a check lets through is let through, and counts only where the check gave
a value. -/
theorem bind {k : α → Except LoadError β} (h : LetsThrough check P)
    (hk : ∀ a, check = .ok a → LetsThrough (k a) Q) :
    LetsThrough (check >>= k) fun x => P x ∨ Q x := by
  constructor
  · intro x hx
    cases check with
    | ok a => exact .inr ((hk a rfl).of_unhandled x hx)
    | error e =>
        cases hx
        exact .inl (h.of_unhandled x rfl)
  · intro b hb
    obtain ⟨a, ha, hka⟩ := Except.bind_eq_ok hb
    rintro x (hP | hQ)
    · exact h.not_of_ok a ha x hP
    · exact (hk a ha).not_of_ok b hka x hQ

/-- What a check lets through can be told of what stands in front of it. -/
theorem known {earlier : Except LoadError β} {b : β} {P : β → Failure → Prop}
    (h : LetsThrough check (P b)) (hb : earlier = .ok b) :
    LetsThrough check fun x => ∃ b, earlier = .ok b ∧ P b x := by
  refine h.congr fun x => ⟨fun hx => ⟨b, hb, hx⟩, ?_⟩
  rintro ⟨b', hb', hx⟩
  cases hb.symm.trans hb'
  exact hx

/-- A value that is handed on lets nothing through. -/
theorem andPure (h : LetsThrough check P) (f : α → β) :
    LetsThrough (check >>= fun a => pure (f a)) P :=
  (h.bind (Q := fun _ => False) fun a _ => ok (f a) fun _ => id).congr fun _ => by rw [or_false]

theorem foldlM {γ : Type} {R : γ → Failure → Prop} {step : β → γ → Except LoadError β}
    (items : List γ) (h : ∀ item ∈ items, ∀ known, LetsThrough (step known item) (R item))
    (known : β) :
    LetsThrough (items.foldlM step known) fun x => ∃ item ∈ items, R item x := by
  induction items generalizing known with
  | nil => exact ok known fun _ hx => by simp at hx
  | cons item more ih =>
      obtain ⟨hitem, hmore⟩ := List.forall_mem_cons.1 h
      rw [List.foldlM_cons]
      exact ((hitem known).bind fun next _ => ih hmore next).congr fun x => by
        rw [List.exists_mem_cons_iff]

theorem mapM {γ : Type} {R : γ → Failure → Prop} {f : γ → Except LoadError β}
    (items : List γ) (h : ∀ item ∈ items, LetsThrough (f item) (R item)) :
    LetsThrough (items.mapM f) fun x => ∃ item ∈ items, R item x := by
  induction items with
  | nil => exact ok [] fun _ hx => by simp at hx
  | cons item more ih =>
      obtain ⟨hitem, hmore⟩ := List.forall_mem_cons.1 h
      rw [List.mapM_cons]
      exact (hitem.bind fun b _ => (ih hmore).andPure (b :: ·)).congr fun x => by
        rw [List.exists_mem_cons_iff]

end LetsThrough

/-! ## Names -/

/-- Holds of a value without words: a number in it has too many digits. -/
def Wordless (d : Data) (x : Failure) : Prop := ∃ t, d.name = .error t ∧ t.failure = x

theorem name_letsThrough (d : Data) : LetsThrough (d.name.mapError tooLong) (Wordless d) := by
  cases hname : d.name with
  | ok name => exact .ok name fun _ ⟨t, ht, _⟩ => nomatch hname.symm.trans ht
  | error t => exact .unhandled ⟨t, hname, rfl⟩

theorem not_wordless_text (s : String) (x : Failure) : ¬ Wordless (.text s) x :=
  fun ⟨_, ht, _⟩ => nomatch ht

theorem namedEntries_letsThrough (entries : List (Data × Data)) :
    LetsThrough (namedEntries entries) fun x => ∃ e ∈ entries, Wordless e.1 x :=
  .foldlM entries (fun e _ _ => (name_letsThrough e.1).map _) []

theorem readMapping_letsThrough (part : Section) (d : Data) :
    LetsThrough (readMapping part d)
      fun x => ∃ entries, d = .map entries ∧ ∃ e ∈ entries, Wordless e.1 x := by
  cases d with
  | null => exact .ok [] fun _ ⟨_, h, _⟩ => nomatch h
  | map entries =>
      refine (namedEntries_letsThrough entries).congr fun x => ⟨fun h => ⟨entries, rfl, h⟩, ?_⟩
      rintro ⟨_, ⟨⟩, h⟩
      exact h
  | _ => exact .reported _

/-- The items that a list of names is read from. -/
def nameItems : Data → List Data
  | .list items | .tuple items | .foreign _ _ _ items => items.filter isNameItem
  | _ => []

theorem readNames_letsThrough (d : Data) :
    LetsThrough (readNames d) fun x => ∃ item ∈ nameItems d, Wordless item x := by
  have hitems : ∀ items : List Data, LetsThrough (namesOf items)
      fun x => ∃ item ∈ items.filter isNameItem, Wordless item x :=
    fun items => .mapM _ fun item _ => name_letsThrough item
  cases d with
  | list items | tuple items | foreign _ _ _ items => exact hitems items
  | _ => exact .ok _ fun _ ⟨_, h, _⟩ => nomatch h

/-! ## Values -/

/-- Holds of a value that the sandbox could receive if it were smaller: a number in it has too many
digits, or it nests too deep. -/
def Oversized (d : Data) (x : Failure) : Prop :=
  ∃ refusal, d.toScript = .error refusal ∧ (∀ typeName, refusal ≠ .unsupported typeName) ∧
    refusal.failure = x

/-- Holds of an entry whose value the sandbox cannot receive, where saying so fails: the value is too
large, or a value of its type cannot be received and the name has no words. -/
inductive Unreceived (e : Data × Data) : Failure → Prop where
  | oversized {x : Failure} (h : Oversized e.2 x) : Unreceived e x
  | wordless {typeName : String} {x : Failure} (h : e.2.toScript = .error (.unsupported typeName))
      (hname : Wordless e.1 x) : Unreceived e x

theorem checkValues_letsThrough (part : Section) (entries : List (Data × Data)) :
    LetsThrough (checkValues part entries) fun x => ∃ e ∈ entries, Unreceived e x := by
  induction entries with
  | nil => exact .ok () fun _ ⟨_, h, _⟩ => nomatch h
  | cons e more ih =>
      obtain ⟨key, value⟩ := e
      rw [checkValues]
      split
      · next typeName hvalue =>
          split
          · next t ht => exact .unhandled ⟨_, List.mem_cons_self, .wordless hvalue ⟨t, ht, rfl⟩⟩
          · exact .reported _
      · next refusal hsize hvalue =>
          exact .unhandled ⟨_, List.mem_cons_self, .oversized ⟨refusal, hvalue, hsize, rfl⟩⟩
      · next text hvalue =>
          refine ih.congr fun x => ?_
          rw [List.exists_mem_cons_iff]
          refine ⟨.inr, ?_⟩
          rintro (h | h)
          · cases h with
            | oversized h =>
                obtain ⟨refusal, h, -⟩ := h
                rw [hvalue] at h
                cases h
            | wordless h =>
                rw [hvalue] at h
                cases h
          · exact h

/-- A name that is a text has words, so of a named value only its size counts. -/
theorem checkValues_entriesOf_letsThrough (part : Section) (named : List (String × Data)) :
    LetsThrough (checkValues part (entriesOf named)) fun x => ∃ v ∈ named, Oversized v.2 x := by
  refine (checkValues_letsThrough part (entriesOf named)).congr fun x => ⟨?_, ?_⟩
  · rintro ⟨e, he, h⟩
    obtain ⟨v, hv, rfl⟩ := List.mem_map.1 he
    cases h with
    | oversized h => exact ⟨v, hv, h⟩
    | wordless _ hname => exact absurd hname (not_wordless_text v.1 x)
  · rintro ⟨v, hv, h⟩
    exact ⟨_, List.mem_map_of_mem hv, .oversized h⟩

/-! ## Patterns, hook and compiling -/

/-- Holds of a pattern that cannot be read, where no flaw of its text is the reason. -/
def Unreadable (pattern : String) (x : Failure) : Prop :=
  ∃ fault, Pattern.read pattern.toList = .error fault ∧
    (∀ what position, fault ≠ .flaw what position) ∧ fault.failure pattern = x

theorem readHandlers_letsThrough (named : List (String × Data)) :
    LetsThrough (readHandlers named) fun x => ∃ h ∈ named, Unreadable h.1 x := by
  induction named with
  | nil => exact .ok [] fun _ ⟨_, h, _⟩ => nomatch h
  | cons h more ih =>
      obtain ⟨pattern, value⟩ := h
      rw [readHandlers]
      split
      · next fault hread =>
          by_cases hflaw : ∃ what position, fault = .flaw what position
          · obtain ⟨what, position, rfl⟩ := hflaw
            exact .reported _
          · have hfault : ∀ what position, fault ≠ .flaw what position :=
              fun what position heq => hflaw ⟨what, position, heq⟩
            rw [patternError]
            · exact .unhandled ⟨_, List.mem_cons_self, fault, hread, hfault, rfl⟩
            · exact hfault
      · next read hread =>
          split
          · exact .reported _
          · refine (ih.map _).congr fun x => ?_
            rw [List.exists_mem_cons_iff]
            refine ⟨.inr, ?_⟩
            rintro (⟨fault, hfault, -⟩ | h)
            · rw [hread] at hfault
              cases hfault
            · exact h

theorem readHook_letsThrough (d : Data) : LetsThrough (readHook d) fun _ => False := by
  rw [readHook.eq_def]
  split
  all_goals first | exact .ok _ fun _ => id | exact .reported _

/-- The value that names the presets of a way of compiling. -/
def presetsOf : Data → Data
  | .map entries => (Data.entry? "presets" entries).getD .null
  | _ => .null

theorem readTranspile_letsThrough (d : Data) :
    LetsThrough (readTranspile d) fun x => ∃ item ∈ nameItems (presetsOf d), Wordless item x := by
  cases d with
  | map entries =>
      rw [readTranspile]
      split
      · exact ((readNames_letsThrough _).andPure _).map _
      · exact .reported _
  | null | transpile _ _ | bool _ => exact .ok _ fun _ ⟨_, h, _⟩ => nomatch h
  | _ => exact .reported _

/-! ## Configurations -/

/-- Holds of the failures that a configuration from parts lets through. -/
inductive PartsUnguarded (settings : Settings) : Failure → Prop where
  /-- A key of a mapping has no words. -/
  | key (part : Section) {entries : List (Data × Data)} {e : Data × Data} {x : Failure}
      (hpart : setting settings part.name = .map entries) (he : e ∈ entries)
      (h : Wordless e.1 x) : PartsUnguarded settings x
  /-- A variable or a module is too large. -/
  | value (part : Section) {named : List (String × Data)} {v : String × Data} {x : Failure}
      (hne : part ≠ .regexRequire)
      (hpart : readMapping part (setting settings part.name) = .ok named) (hv : v ∈ named)
      (h : Oversized v.2 x) : PartsUnguarded settings x
  /-- A pattern cannot be read, and its text has no flaw. -/
  | pattern {named : List (String × Data)} {v : String × Data} {x : Failure}
      (hpart : readMapping .regexRequire (setting settings "regex_require") = .ok named)
      (hv : v ∈ named) (h : Unreadable v.1 x) : PartsUnguarded settings x
  /-- A number in a list of names has too many digits. -/
  | name {d item : Data} {x : Failure}
      (hd : d ∈ [setting settings "include", presetsOf (setting settings "transpile"),
        setting settings "exclude"])
      (hitem : item ∈ nameItems d) (h : Wordless item x) : PartsUnguarded settings x

theorem ofParts_letsThrough (settings : Settings) (root : String) :
    LetsThrough (ofParts settings root) (PartsUnguarded settings) := by
  rw [ofParts]
  refine ((readMapping_letsThrough .globals _).bind fun globals hglobals =>
    (readMapping_letsThrough .require _).bind fun require hrequire =>
    ((checkValues_entriesOf_letsThrough .globals globals).known hglobals).bind fun _ _ =>
    ((checkValues_entriesOf_letsThrough .require require).known hrequire).bind fun _ _ =>
    (readMapping_letsThrough .regexRequire _).bind fun handlers hhandlers =>
    ((readHandlers_letsThrough handlers).known hhandlers).bind fun _ _ =>
    (readHook_letsThrough _).bind fun _ _ =>
    (readNames_letsThrough _).bind fun _ _ =>
    (readTranspile_letsThrough _).bind fun _ _ =>
    (readNames_letsThrough _).andPure _).congr fun x => ?_
  constructor
  · rintro (⟨_, hpart, e, he, h⟩ | ⟨_, hpart, e, he, h⟩ | ⟨_, hpart, v, hv, h⟩ |
      ⟨_, hpart, v, hv, h⟩ | ⟨_, hpart, e, he, h⟩ | ⟨_, hpart, v, hv, h⟩ | h |
      ⟨item, hitem, h⟩ | ⟨item, hitem, h⟩ | ⟨item, hitem, h⟩)
    · exact .key .globals hpart he h
    · exact .key .require hpart he h
    · exact .value .globals (by decide) hpart hv h
    · exact .value .require (by decide) hpart hv h
    · exact .key .regexRequire hpart he h
    · exact .pattern hpart hv h
    · exact h.elim
    · exact .name (.head _) hitem h
    · exact .name (.tail _ (.head _)) hitem h
    · exact .name (.tail _ (.tail _ (.head _))) hitem h
  · intro h
    cases h with
    | key part hpart he h =>
        cases part with
        | globals => exact .inl ⟨_, hpart, _, he, h⟩
        | require => exact .inr (.inl ⟨_, hpart, _, he, h⟩)
        | regexRequire => exact .inr (.inr (.inr (.inr (.inl ⟨_, hpart, _, he, h⟩))))
    | value part hne hpart hv h =>
        cases part with
        | globals => exact .inr (.inr (.inl ⟨_, hpart, _, hv, h⟩))
        | require => exact .inr (.inr (.inr (.inl ⟨_, hpart, _, hv, h⟩)))
        | regexRequire => exact absurd rfl hne
    | pattern hpart hv h => exact .inr (.inr (.inr (.inr (.inr (.inl ⟨_, hpart, _, hv, h⟩)))))
    | name hd hitem h =>
        simp only [List.mem_cons, List.not_mem_nil, or_false] at hd
        refine .inr (.inr (.inr (.inr (.inr (.inr (.inr ?_))))))
        rcases hd with rfl | rfl | rfl
        · exact .inl ⟨_, hitem, h⟩
        · exact .inr (.inl ⟨_, hitem, h⟩)
        · exact .inr (.inr ⟨_, hitem, h⟩)

/-- Holds of the failures that a finished configuration lets through. -/
inductive FinishedUnguarded (fields : Settings) : Failure → Prop where
  /-- Variables or modules are no mapping. -/
  | field (part : Section) (hne : part ≠ .regexRequire)
      (h : ∀ entries, field fields part.name (.map []) ≠ .map entries) :
      FinishedUnguarded fields
        (FinishedConfig.withoutAttribute (field fields part.name (.map [])) "items")
  /-- A variable or a module cannot be received, and saying so fails. -/
  | entry (part : Section) {entries : List (Data × Data)} {e : Data × Data} {x : Failure}
      (hne : part ≠ .regexRequire) (hpart : field fields part.name (.map []) = .map entries)
      (he : e ∈ entries) (h : Unreceived e x) : FinishedUnguarded fields x

theorem fieldEntries_eq_ok_iff (fields : Settings) (name : String) (entries : List (Data × Data)) :
    fieldEntries fields name = .ok entries ↔ field fields name (.map []) = .map entries := by
  rw [fieldEntries]
  cases field fields name (.map []) with
  | map found => exact ⟨by rintro ⟨⟩; rfl, by rintro ⟨⟩; rfl⟩
  | _ => exact ⟨fun h => (nomatch h), fun h => (nomatch h)⟩

theorem fieldEntries_letsThrough (fields : Settings) (name : String) :
    LetsThrough (fieldEntries fields name) fun x =>
      (∀ entries, field fields name (.map []) ≠ .map entries) ∧
        FinishedConfig.withoutAttribute (field fields name (.map [])) "items" = x := by
  rw [fieldEntries]
  cases field fields name (.map []) with
  | map entries => exact .ok entries fun _ ⟨h, _⟩ => h entries rfl
  | _ => exact .unhandled ⟨nofun, rfl⟩

theorem ofFinished_letsThrough (fields : Settings) (root : String) :
    LetsThrough (ofFinished fields root) (FinishedUnguarded fields) := by
  rw [ofFinished]
  refine ((fieldEntries_letsThrough fields "globals").bind fun globals hglobals =>
    ((checkValues_letsThrough .globals globals).known hglobals).bind fun _ _ =>
    (fieldEntries_letsThrough fields "require").bind fun require hrequire =>
    ((checkValues_letsThrough .require require).known hrequire).bind fun _ _ =>
    (readHook_letsThrough _).andPure _).congr fun x => ?_
  simp only [fieldEntries_eq_ok_iff]
  constructor
  · rintro (⟨hne, rfl⟩ | ⟨_, hpart, e, he, h⟩ | ⟨hne, rfl⟩ | ⟨_, hpart, e, he, h⟩ | h)
    · exact .field .globals (by decide) hne
    · exact .entry .globals (by decide) hpart he h
    · exact .field .require (by decide) hne
    · exact .entry .require (by decide) hpart he h
    · exact h.elim
  · intro h
    cases h with
    | field part hpart hne =>
        cases part with
        | globals => exact .inl ⟨hne, rfl⟩
        | require => exact .inr (.inr (.inl ⟨hne, rfl⟩))
        | regexRequire => exact absurd rfl hpart
    | entry part hne hpart he h =>
        cases part with
        | globals => exact .inr (.inl ⟨_, hpart, _, he, h⟩)
        | require => exact .inr (.inr (.inr (.inl ⟨_, hpart, _, he, h⟩)))
        | regexRequire => exact absurd rfl hne

/-- Holds of the failures that settings let through on the way to a configuration. -/
inductive SettingsUnguarded (settings : Settings) : Failure → Prop where
  | parts {x : Failure} (h : ∀ fields, setting settings "config" ≠ .settings fields)
      (hx : PartsUnguarded settings x) : SettingsUnguarded settings x
  | finished {fields : Settings} {x : Failure} (h : setting settings "config" = .settings fields)
      (hx : FinishedUnguarded fields x) : SettingsUnguarded settings x

theorem build_letsThrough (settings : Settings) (root : String) :
    LetsThrough (build settings root).2 (SettingsUnguarded settings) := by
  dsimp only [build]
  split
  · next fields hfields =>
      refine ((ofFinished_letsThrough fields root).map _).congr fun x => ⟨.finished hfields, ?_⟩
      intro hx
      cases hx with
      | parts h => exact absurd hfields (h fields)
      | finished h hx =>
          cases hfields.symm.trans h
          exact hx
  · next hparts =>
      refine ((ofParts_letsThrough settings root).map _).congr fun x => ⟨.parts hparts, ?_⟩
      intro hx
      cases hx with
      | parts _ hx => exact hx
      | finished h => exact absurd h (hparts _)

end DocExamples.Config
