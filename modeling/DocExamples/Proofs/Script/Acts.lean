import DocExamples.Script.Steps

/-!
# What an act does

An act of a session starts in a state and either gives a value or throws, and in both
cases it leaves a state behind. `Gives` and `Fails` say which, and an act that is put
together from others is followed through them one step at a time. Of an act that
throws no more is said than that: the state it leaves and the words it throws matter
to no one who only asks whether a script runs through.
-/

namespace DocExamples.Script.Session

/-- The act gives a value and leaves a state behind. -/
def Gives {α : Type} (act : Act α) (s : Session) (a : α) (s' : Session) : Prop :=
  act.run.run s = (.ok a, s')

/-- The act throws. -/
def Fails {α : Type} (act : Act α) (s : Session) : Prop :=
  ∃ t s', act.run.run s = (.error t, s')

section

variable {α β : Type} {act : Act α} {next : α → Act β} {s s' s'' : Session} {a : α} {b : β}

theorem Gives.pure (a : α) (s : Session) : Gives (pure a) s a s := rfl

theorem Fails.throw (t : Thrown) (s : Session) : Fails (α := α) (throw t) s := ⟨t, s, rfl⟩

theorem run_bind (act : Act α) (next : α → Act β) (s : Session) :
    (act >>= next).run.run s = match act.run.run s with
      | (.ok a, s') => (next a).run.run s'
      | (.error t, s') => (.error t, s') := by
  show (ExceptT.bind act next).run.run s = _
  rw [ExceptT.bind, ExceptT.run_mk, StateT.run_bind]
  show (match act.run.run s with | (r, s') => (ExceptT.bindCont next r).run s') = _
  split
  next r s' h =>
    rw [h]
    cases r <;> rfl

theorem run_tryCatch (act : Act α) (handler : Thrown → Act α) (s : Session) :
    (tryCatchThe Thrown act handler).run.run s = match act.run.run s with
      | (.ok a, s') => (.ok a, s')
      | (.error t, s') => (handler t).run.run s' := by
  show (ExceptT.tryCatch act handler).run.run s = _
  rw [ExceptT.tryCatch, ExceptT.run_mk, StateT.run_bind]
  change (StateT.run act s >>= _ : Id _) = match StateT.run act s with
    | (.ok a, s') => (.ok a, s')
    | (.error t, s') => (handler t).run.run s'
  cases StateT.run act s with
  | mk r s' => cases r <;> rfl

theorem Gives.run_next (h : Gives act s a s') :
    (act >>= next).run.run s = (next a).run.run s' := by
  rw [run_bind, h]

theorem Gives.bind (h : Gives act s a s') (hnext : Gives (next a) s' b s'') :
    Gives (act >>= next) s b s'' := by
  rw [Gives, run_bind, h]
  exact hnext

theorem Gives.bind_fails (h : Gives act s a s') (hnext : Fails (next a) s') :
    Fails (act >>= next) s := by
  rw [Fails, run_bind, h]
  exact hnext

theorem Fails.bind (h : Fails act s) : Fails (act >>= next) s := by
  obtain ⟨t, s', h⟩ := h
  refine ⟨t, s', ?_⟩
  rw [run_bind, h]

theorem gives_or_fails (act : Act α) (s : Session) :
    (∃ a s', Gives act s a s') ∨ Fails act s := by
  cases h : act.run.run s with
  | mk r s' =>
      cases r with
      | ok a => exact .inl ⟨a, s', h⟩
      | error t => exact .inr ⟨t, s', h⟩

/-- An act fails in any case if what follows its first part does. -/
theorem fails_bind (hnext : ∀ a s, Fails (next a) s) (s : Session) :
    Fails (act >>= next) s := by
  rcases gives_or_fails act s with ⟨a, s', h⟩ | h
  · exact h.bind_fails (hnext a s')
  · exact h.bind

/-- Behind an act that gives a value, an act runs through exactly if its rest does. -/
theorem Gives.bind_iff (h : Gives act s a s') :
    (∃ b s'', Gives (act >>= next) s b s'') ↔ ∃ b s'', Gives (next a) s' b s'' := by
  simp only [Gives, run_bind]
  rw [h]

theorem Fails.not_gives (h : Fails act s) : ¬ ∃ a s', Gives act s a s' := by
  obtain ⟨t, s'', hfails⟩ := h
  rintro ⟨a, s', hgives⟩
  rw [Gives, hfails] at hgives
  cases hgives

/-- Acts that run through one behind the other do so one by one. -/
theorem Gives.of_bind (h : Gives (act >>= next) s b s'') :
    ∃ a s', Gives act s a s' ∧ Gives (next a) s' b s'' := by
  rcases gives_or_fails act s with ⟨a, s', hact⟩ | hact
  · exact ⟨a, s', hact, hact.run_next.symm.trans h⟩
  · have hfails : Fails (act >>= next) s := hact.bind
    exact absurd ⟨b, s'', h⟩ hfails.not_gives

end

/-! ## Reading the state -/

theorem gives_get (s : Session) : Gives get s s s := rfl

theorem gives_replaced? (name : String) (s : Session) :
    Gives (replaced? name) s (s.globals.find? name) s := rfl

theorem gives_standing (s : Session) : Gives standing s s.globals.find? s := rfl

theorem gives_freshId (s : Session) :
    Gives freshId s s.next { s with next := s.next + 1 } := rfl

theorem gives_callHost {c : HostCall} {s : Session} {reply : String} {sandbox : Sandbox}
    (h : s.sandbox.call c = (.ok reply, sandbox)) :
    Gives (callHost c) s reply { s with sandbox := sandbox } := by
  have hcall : Gives
      (modifyGet fun s : Session =>
        ((s.sandbox.call c).1, { s with sandbox := (s.sandbox.call c).2 }))
      s (.ok reply) { s with sandbox := sandbox } := by
    show (Except.ok (s.sandbox.call c).1, { s with sandbox := (s.sandbox.call c).2 }) = _
    rw [h]
  exact hcall.bind (.pure reply _)

end DocExamples.Script.Session
