import DocExamples.Proofs.Script.Acts

/-!
# What stays while scripts run

A script can do a lot to the session it runs in, but some of what a session holds is out
of its reach: the table of the modules, the makers of modules on the side of the host, the
numbers that were used up, and that the session is ready. `LeadsTo` says what can become
of these. Of the table it says more than that something stays, since a script reaches it
in two ways after all. It can change an object that it got from there, and it can load
further modules. `Holder.Grows` has one way for each, and the second one speaks of a name
that was free when its module was asked for, not when it was kept: the source of the module
runs in between and can load others.

An act `Retains` these things if every state that it leaves, also by throwing, is one that
the state before leads to. That is a rule for each way to put acts together, and a lemma
for each act. The lemmas carry `grind` attributes, so that an act that is nothing but others
put together needs no more than to be unfolded. Those that write to the state are the ones
to look at: `update`, which changes objects, is the only one here that touches the table.

Calls are a parameter of most acts, so what is assumed of them, `RetainsCalls`, is carried
along until the machine is there to give them.
-/

namespace DocExamples.Script

namespace Holder

/-- How the table of the modules of a session changes while scripts run. -/
inductive Grows : Holder → Holder → Prop where
  | refl (h : Holder) : Grows h h
  | trans {h h' h'' : Holder} : Grows h h' → Grows h' h'' → Grows h h''
  /-- An object that stands in the table changes. -/
  | changes (h : Holder) {id : Nat} {v : Value} : v.id? = some id → Grows h (h.replace id v)
  /-- A name that was free is taken. Others may have been taken since it was looked up. -/
  | takes {h h' : Holder} {name : String} (v : Value) : h.find? name = none → Grows h h' →
      Grows h (h'.keep name v)

end Holder

namespace Session

/-- A session comes after another one. -/
structure LeadsTo (s s' : Session) : Prop where
  modules : s.modules.Grows s'.modules
  next : s.next ≤ s'.next
  resolver : s'.sandbox.resolver = s.sandbox.resolver
  installed : s.installed = true → s'.installed = true

@[grind ←]
theorem LeadsTo.refl (s : Session) : LeadsTo s s := ⟨.refl _, Nat.le_refl _, rfl, id⟩

theorem LeadsTo.trans {s s' s'' : Session} (h : LeadsTo s s') (h' : LeadsTo s' s'') :
    LeadsTo s s'' :=
  ⟨h.modules.trans h'.modules, Nat.le_trans h.next h'.next, h'.resolver.trans h.resolver,
    fun hs => h'.installed (h.installed hs)⟩

/-- The act leaves what stays while scripts run. -/
def Retains {α : Type} (act : Act α) : Prop := ∀ s, LeadsTo s (act.run.run s).2

/-- Calls leave what stays while scripts run. -/
@[grind =]
def RetainsCalls (call : Caller) : Prop := ∀ f self arguments, Retains (call f self arguments)

/-! ## How acts are put together -/

section

variable {α β : Type}

@[grind ←]
theorem retains_pure (a : α) : Retains (pure a) := LeadsTo.refl

@[grind ←]
theorem retains_throw (t : Thrown) : Retains (α := α) (throw t) := LeadsTo.refl

@[grind ←]
theorem retains_get : Retains get := LeadsTo.refl

theorem retains_modify {f : Session → Session} (h : ∀ s, LeadsTo s (f s)) :
    Retains (modify f : Act Unit) := h

theorem retains_modifyGet {f : Session → α × Session} (h : ∀ s, LeadsTo s (f s).2) :
    Retains (modifyGet f : Act α) := h

theorem LeadsTo.bind {act : Act α} {next : α → Act β} {s₀ s : Session} (hs : LeadsTo s₀ s)
    (h : Retains act) (hnext : ∀ a s', LeadsTo s₀ s' → LeadsTo s₀ ((next a).run.run s').2) :
    LeadsTo s₀ ((act >>= next).run.run s).2 := by
  have hact := hs.trans (h s)
  rw [run_bind]
  cases hrun : act.run.run s with
  | mk r s' =>
      rw [hrun] at hact
      cases r with
      | ok a => exact hnext a s' hact
      | error t => exact hact

@[grind ←]
theorem retains_bind {act : Act α} {next : α → Act β} (h : Retains act)
    (hnext : ∀ a, Retains (next a)) : Retains (act >>= next) :=
  fun s => (LeadsTo.refl s).bind h fun a s' hs => hs.trans (hnext a s')

@[grind ←]
theorem retains_tryCatch {act : Act α} {handler : Thrown → Act α} (h : Retains act)
    (hhandler : ∀ t, Retains (handler t)) : Retains (tryCatchThe Thrown act handler) := by
  intro s
  have hact := h s
  rw [run_tryCatch]
  cases hrun : act.run.run s with
  | mk r s' =>
      rw [hrun] at hact
      cases r with
      | ok a => exact hact
      | error t => exact hact.trans (hhandler t s')

/-! ## Lists -/

@[grind ←]
theorem retains_forM {act : α → Act PUnit} (h : ∀ a, Retains (act a)) (as : List α) :
    Retains (as.forM act) := by
  induction as with
  | nil => exact retains_pure _
  | cons a as ih => exact retains_bind (h a) fun _ => ih

@[grind ←]
theorem retains_forM_option {act : α → Act PUnit} (h : ∀ a, Retains (act a)) (a? : Option α) :
    Retains (a?.forM act) := by
  cases a? with
  | none => exact retains_pure _
  | some a => exact h a

@[grind ←]
theorem retains_mapM {act : α → Act β} (h : ∀ a, Retains (act a)) (as : List α) :
    Retains (as.mapM act) := by
  induction as with
  | nil => exact retains_pure _
  | cons a as ih =>
      rw [List.mapM_cons]
      exact retains_bind (h a) fun _ => retains_bind ih fun _ => retains_pure _

@[grind ←]
theorem retains_foldlM {act : β → α → Act β} (h : ∀ b a, Retains (act b a)) (as : List α) (b : β) :
    Retains (as.foldlM act b) := by
  induction as generalizing b with
  | nil => exact retains_pure _
  | cons a as ih => exact retains_bind (h b a) fun b => ih b

@[grind ←]
theorem retains_filterMapM {act : α → Act (Option β)} (h : ∀ a, Retains (act a)) (as : List α) :
    Retains (as.filterMapM act) := by
  have hloop : ∀ bs, Retains (List.filterMapM.loop act as bs) := by
    induction as with
    | nil => exact fun _ => retains_pure _
    | cons a as ih =>
        refine fun bs => retains_bind (h a) fun b => ?_
        cases b with
        | none => exact ih bs
        | some b => exact ih (b :: bs)
  exact hloop []

@[grind ←]
theorem retains_filterM {act : α → Act Bool} (h : ∀ a, Retains (act a)) (as : List α) :
    Retains (as.filterM act) := by
  have hloop : ∀ bs, Retains (List.filterAuxM act as bs) := by
    induction as with
    | nil => exact fun _ => retains_pure _
    | cons a as ih => exact fun bs => retains_bind (h a) fun b => ih _
  exact retains_bind (hloop []) fun _ => retains_pure _

@[grind ←]
theorem retains_anyM {act : α → Act Bool} (h : ∀ a, Retains (act a)) (as : List α) :
    Retains (as.anyM act) := by
  induction as with
  | nil => exact retains_pure _
  | cons a as ih =>
      refine retains_bind (h a) fun b => ?_
      cases b with
      | false => exact ih
      | true => exact retains_pure _

@[grind ←]
theorem retains_allM {act : α → Act Bool} (h : ∀ a, Retains (act a)) (as : List α) :
    Retains (as.allM act) := by
  induction as with
  | nil => exact retains_pure _
  | cons a as ih =>
      refine retains_bind (h a) fun b => ?_
      cases b with
      | true => exact ih
      | false => exact retains_pure _

@[grind ←]
theorem retains_findM? {act : α → Act Bool} (h : ∀ a, Retains (act a)) (as : List α) :
    Retains (as.findM? act) := by
  induction as with
  | nil => exact retains_pure _
  | cons a as ih =>
      refine retains_bind (h a) fun b => ?_
      cases b with
      | true => exact retains_pure _
      | false => exact ih

@[grind ←]
theorem retains_mapIdxM {act : Nat → α → Act β} (h : ∀ n a, Retains (act n a)) (as : List α) :
    Retains (as.mapIdxM act) := by
  have hgo : ∀ bs : Array β, Retains (List.mapIdxM.go act as bs) := by
    induction as with
    | nil => exact fun _ => retains_pure _
    | cons a as ih => exact fun bs => retains_bind (h _ a) fun b => ih _
  exact hgo #[]

end

/-! ## The state -/

@[grind ←]
theorem retains_freshId : Retains freshId :=
  retains_modifyGet fun _ => ⟨.refl _, Nat.le_succ _, rfl, id⟩

@[grind ←]
theorem retains_take {α : Type} (r : Except Thrown α) : Retains (take r) := by
  unfold take; grind

@[grind ←]
theorem retains_refuse {α : Type} (u : Misuse) : Retains (α := α) (refuse u) := retains_throw _

@[grind ←]
theorem retains_newArray (items : List Value) : Retains (newArray items) := by
  unfold newArray; grind

@[grind ←]
theorem retains_newObject (members : List (String × Value)) : Retains (newObject members) := by
  unfold newObject; grind

theorem resolver_call (sandbox : Sandbox) (c : HostCall) :
    (sandbox.call c).2.resolver = sandbox.resolver := by
  unfold Sandbox.call; grind

@[grind ←]
theorem retains_callHost (c : HostCall) : Retains (callHost c) := by
  have hcall : Retains (modifyGet fun s : Session =>
      ((s.sandbox.call c).1, { s with sandbox := (s.sandbox.call c).2 })) :=
    retains_modifyGet fun s => ⟨.refl _, Nat.le_refl _, resolver_call _ _, id⟩
  refine retains_bind hcall fun outcome => ?_
  cases outcome with
  | ok reply => exact retains_pure reply
  | error e => exact retains_throw .host

@[grind ←]
theorem retains_newPlace (v : Option Value) : Retains (newPlace v) :=
  retains_modifyGet fun _ => ⟨.refl _, Nat.le_refl _, rfl, id⟩

@[grind ←]
theorem retains_atPlace (place : Nat) : Retains (atPlace place) := by
  unfold atPlace; grind

@[grind ←]
theorem retains_release (place : Nat) : Retains (release place) :=
  retains_modify fun s => by
    split
    · exact ⟨.refl _, Nat.le_refl _, rfl, id⟩
    · exact .refl s

@[grind ←]
theorem retains_putAt (place : Nat) (v : Value) : Retains (putAt place v) :=
  retains_modify fun _ => ⟨.refl _, Nat.le_refl _, rfl, id⟩

@[grind ←]
theorem retains_standing : Retains standing := by
  unfold standing; grind

@[grind ←]
theorem retains_replaced? (name : String) : Retains (replaced? name) := by
  unfold replaced?; grind

@[grind ←]
theorem retains_globalObject : Retains globalObject := by
  unfold globalObject; grind

@[grind ←]
theorem retains_findVariable (name : String) : Retains (findVariable name) := by
  unfold findVariable; grind

@[grind ←]
theorem retains_setVariable (name : String) (v : Value) : Retains (setVariable name v) := by
  have hset : Retains (modify fun s => { s with globals := s.globals.keep name v }) :=
    retains_modify fun _ => ⟨.refl _, Nat.le_refl _, rfl, id⟩
  unfold setVariable; grind

@[grind ←]
theorem retains_noteAncestor (id : Nat) (v : Value) : Retains (noteAncestor id v) :=
  retains_modify fun _ => ⟨.refl _, Nat.le_refl _, rfl, fun h => h⟩

@[grind ←]
theorem retains_ancestorOf (f : Value) : Retains (ancestorOf f) := by
  unfold ancestorOf; grind

@[grind ←]
theorem retains_storedMember? (v : Value) (name : String) : Retains (storedMember? v name) := by
  unfold storedMember?; grind

@[grind ←]
theorem retains_update (v : Value) : Retains (update v) := by
  rw [update]
  cases hid : v.id? with
  | none => exact retains_pure _
  | some id =>
    refine retains_bind (retains_modify fun s => ?_) fun _ => ?_
    · exact ⟨.changes _ hid, Nat.le_refl _, rfl, fun h => h⟩
    · grind

@[grind ←]
theorem retains_setMember (v : Value) (name : String) (new : Value) :
    Retains (setMember v name new) := by
  unfold setMember; grind

@[grind ←]
theorem retains_changed {act : Value → Act Unit} (h : ∀ v, Retains (act v)) (v : Value) :
    Retains (changed v act) := by
  unfold changed; grind

@[grind ←]
theorem retains_removeMember (v : Value) (name : String) : Retains (removeMember v name) := by
  have hremove : Retains (modify fun s => { s with globals := s.globals.remove name }) :=
    retains_modify fun _ => ⟨.refl _, Nat.le_refl _, rfl, id⟩
  unfold removeMember; grind

section

variable {call : Caller} (hcall : RetainsCalls call)
include hcall

@[grind ←]
theorem retains_member (v : Value) (name : String) : Retains (member call v name) := by
  unfold member; grind

@[grind ←]
theorem retains_callMember (v : Value) (name : String) (arguments : List Value) :
    Retains (callMember call v name arguments) := by
  unfold callMember; grind

end

end Session

end DocExamples.Script
