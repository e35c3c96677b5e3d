import DocExamples.Proofs.Script.Retention.Native
import DocExamples.Script.Session

/-!
# What stays while a session goes on

Terms and steps are evaluated by recursion on them, with the machine as a parameter, so
their lemmas are inductions along that recursion under the assumption that the machine
retains what stays. The assumption goes away at the end: a machine that lets calls nest to
a depth makes its calls by the one below, and the lowest only throws. With that, every
step of a session leads on from the session before.
-/

namespace DocExamples.Script.Session

/-! ## Scopes -/

@[grind ←]
theorem retains_lookup (scope : Scope) (name : String) : Retains (lookup scope name) := by
  unfold lookup; grind

@[grind ←]
theorem retains_selfOf (scope : Scope) : Retains (selfOf scope) := by
  unfold selfOf; grind

@[grind ←]
theorem retains_withPlace (scope : Scope) (name : String) (v : Option Value) :
    Retains (withPlace scope name v) := by
  unfold withPlace; grind

@[grind ←]
theorem retains_withPlaces (scope : Scope) (v : Option Value) (names : List String) :
    Retains (withPlaces scope v names) := by
  unfold withPlaces; grind

@[grind ←]
theorem retains_assignName (scope : Scope) (name : String) (v : Value) :
    Retains (assignName scope name v) := by
  unfold assignName; grind

@[grind ←]
theorem retains_newFunction (scope : Scope) (source : String) :
    Retains (newFunction scope source) := by
  unfold newFunction; grind

@[grind ←]
theorem retains_openBlock (scope : Scope) (steps : List Statement) :
    Retains (openBlock scope steps) := by
  unfold openBlock; grind

@[grind ←]
theorem retains_writeSpot (scope : Scope) (spot : Spot) (v : Value) :
    Retains (writeSpot scope spot v) := by
  unfold writeSpot; grind

@[grind ←]
theorem retains_objectWith (ancestry : Ancestry) (members : List (String × Option Value)) :
    Retains (objectWith ancestry members) := by
  unfold objectWith; grind

@[grind ←]
theorem retains_caught (t : Thrown) : Retains (caught t) := by
  unfold caught; grind

@[grind ←]
theorem retains_rounds {α : Type} {round : α → Act (Option (Outcome × α))}
    (h : ∀ a, Retains (round a)) (most : Nat) (a : α) : Retains (rounds round most a) := by
  induction most generalizing a <;> (unfold rounds; grind)

@[grind ←]
theorem retains_visit {round : Value → Act Outcome} (h : ∀ v, Retains (round v))
    (values : List Value) : Retains (visit round values) := by
  induction values <;> (unfold visit; grind)

@[grind ←]
theorem retains_renewed (scope : Scope) (names : List String) : Retains (renewed scope names) := by
  unfold renewed; grind

@[grind ←]
theorem retains_visited (names : Bool) (v : Value) : Retains (visited names v) := by
  unfold visited; grind

section

variable {call : Caller} (hcall : RetainsCalls call)
include hcall

@[grind ←]
theorem retains_keyOf? (v : Value) : Retains (keyOf? call v) := by
  unfold keyOf?; grind

@[grind ←]
theorem retains_memberAt (v key : Value) : Retains (memberAt call v key) := by
  unfold memberAt; grind

@[grind ←]
theorem retains_readSpot (scope : Scope) (spot : Spot) : Retains (readSpot call scope spot) := by
  unfold readSpot; grind

end

/-! ## Terms -/

@[grind ←]
theorem retains_holding {α : Type} {act : Act α} (h : Retains act) (v : Value) :
    Retains (holding v act) := by
  unfold holding; grind

@[grind ←]
theorem retains_counted (up : Bool) (v : Value) : Retains (counted up v) := by
  unfold counted; grind

@[grind ←]
theorem retains_writtenAncestry (v : Value) : Retains (writtenAncestry v) := by
  unfold writtenAncestry; grind

/-- What is done for a term, and for what it is made of, leaves what stays. -/
theorem retains_terms {m : Machine} (hm : RetainsAll m) :
    (∀ scope t, Retains (evaluate m scope t)) ∧
      (∀ scope t, Retains (spotOf m scope t)) ∧
      (∀ scope fields taken v, Retains (assignFields m scope fields taken v)) ∧
      (∀ scope t v, Retains (assign m scope t v)) ∧
      (∀ scope items values, Retains (assignItems m scope items values)) ∧
      (∀ scope terms, Retains (evaluateAll m scope terms)) ∧
      (∀ scope fields, Retains (evaluateFields m scope fields)) ∧
      (∀ scope items, Retains (evaluateItems m scope items)) := by
  have hcall := hm.call
  apply evaluate.mutual_induct (fun scope t => Retains (evaluate m scope t))
    (fun scope t => Retains (spotOf m scope t))
    (fun scope fields taken v => Retains (assignFields m scope fields taken v))
    (fun scope t v => Retains (assign m scope t v))
    (fun scope items values => Retains (assignItems m scope items values))
    (fun scope terms => Retains (evaluateAll m scope terms))
    (fun scope fields => Retains (evaluateFields m scope fields))
    (fun scope items => Retains (evaluateItems m scope items))
  case case32 =>
    intro scope target up before hspot
    rw [evaluate]
    refine retains_bind hspot fun spot => retains_bind (retains_readSpot hcall _ _) fun old =>
      retains_bind (retains_primitive hcall _ _) fun v => ?_
    split <;> grind
  all_goals
    intros
    simp only [evaluate, spotOf, assignFields, assign, assignItems, evaluateAll, evaluateFields,
      evaluateItems]
    grind

theorem retains_evaluate {m : Machine} (hm : RetainsAll m) (scope : Scope) (t : Term) :
    Retains (evaluate m scope t) := (retains_terms hm).1 scope t

theorem retains_assign {m : Machine} (hm : RetainsAll m) (scope : Scope) (t : Term) (v : Value) :
    Retains (assign m scope t v) := (retains_terms hm).2.2.2.1 scope t v

theorem retains_assignItems {m : Machine} (hm : RetainsAll m) (scope : Scope)
    (items : List (Option Term)) (values : List Value) :
    Retains (assignItems m scope items values) := (retains_terms hm).2.2.2.2.1 scope items values

attribute [grind ←] retains_evaluate retains_assign retains_assignItems

section

variable {m : Machine} (hm : RetainsAll m)
include hm

/-! ## Steps -/

@[grind ←]
theorem retains_declare (scope : Scope) (reach : Reach) (target : Term) (t : Option Term) :
    Retains (declare m scope reach target t) := by
  unfold declare; grind

@[grind ←]
theorem retains_holds (scope : Scope) (condition : Option Term) :
    Retains (holds m scope condition) := by
  unfold holds; grind

omit hm in
@[grind ←]
theorem retains_keptValue (t : Thrown) : Retains (keptValue t) := by
  unfold keptValue; grind

omit hm in
@[grind ←]
theorem retains_lastly {act last : Act Outcome} (h : Retains act) (hlast : Retains last) :
    Retains (lastly act last) := by
  unfold lastly; grind

@[grind ←]
theorem retains_findCase (scope : Scope) (v : Value)
    (cases : List (Option Term × List Statement)) (n : Nat) :
    Retains (findCase m scope v cases n) := by
  induction cases generalizing n with
  | nil => unfold findCase; grind
  | cons c more ih =>
      obtain ⟨_ | t, steps⟩ := c <;> (unfold findCase; grind)

/-- What is done for a step, and for those that it is made of, leaves what stays. -/
theorem retains_steps :
    (∀ scope steps, Retains (perform m scope steps)) ∧
      (∀ scope step, Retains (performOne m scope step)) ∧
      (∀ scope act handler, Retains act → Retains (performHandled m scope act handler)) ∧
      (∀ scope n cases, Retains (performCases m scope n cases)) := by
  apply perform.mutual_induct m (fun scope steps => Retains (perform m scope steps))
    (fun scope step => Retains (performOne m scope step))
    (fun scope act handler => Retains act → Retains (performHandled m scope act handler))
    (fun scope n cases => Retains (performCases m scope n cases))
  case case8 =>
    intro scope start condition after atOnce body hstart hbody
    rw [performOne]
    refine retains_bind (retains_openBlock _ _) fun scope => retains_bind (hstart _) fun _ =>
      retains_rounds (fun round => retains_bind (retains_holds hm _ _) fun goesOn => ?_) _ _
    split
    · exact retains_pure _
    · refine retains_bind (hbody _) fun outcome => retains_bind (retains_renewed _ _)
        fun scope => ?_
      split <;> grind
  case case10 =>
    intro scope t cases hcases
    rw [performOne]
    refine retains_bind (retains_evaluate hm _ _) fun v => retains_bind (retains_openBlock _ _)
      fun scope => retains_bind (retains_findCase hm _ _ _ _) fun found => ?_
    split <;> grind
  all_goals
    intros
    simp only [perform, performOne, performHandled, performCases]
    grind

theorem retains_perform (scope : Scope) (steps : List Statement) :
    Retains (perform m scope steps) := (retains_steps hm).1 scope steps

theorem retains_performOne (scope : Scope) (step : Statement) :
    Retains (performOne m scope step) := (retains_steps hm).2.1 scope step

/-! ## Functions and scripts -/

@[grind ←]
theorem retains_enter (r : Routine) (f self : Value) (places : List (String × Nat))
    (arguments : List Value) : Retains (enter m r f self places arguments) := by
  unfold enter
  refine retains_bind (retains_foldlM (fun scope name => retains_withPlace scope name _) _ _)
    fun scope => ?_
  split
  · grind
  · refine retains_bind (retains_withPlace _ _ _) fun scope => retains_bind (retains_newArray _)
      fun items => retains_bind (retains_withPlace _ _ _) fun scope => ?_
    grind

@[grind ←]
theorem retains_runRoutine (r : Routine) (f self : Value) (places : List (String × Nat))
    (arguments : List Value) : Retains (runRoutine m r f self places arguments) := by
  have hbody := retains_perform hm
  unfold runRoutine; grind

@[grind ←]
theorem retains_performScript (steps : List Statement) (last : Value) :
    Retains (performScript m steps last) := by
  induction steps generalizing last with
  | nil => exact retains_pure _
  | cons step more ih =>
      have hstep := retains_performOne hm {} step
      cases step <;> (unfold performScript; grind)

@[grind ←]
theorem retains_runScript (steps : List Statement) : Retains (runScript m steps) := by
  unfold runScript; grind

@[grind ←]
theorem retains_run (source : String) : Retains (run m source) := by
  unfold run; grind

/-! ## Calls -/

omit hm in
@[grind ←]
theorem retains_sharedMembers (scope : Scope) (parts : List ClassPart) :
    Retains (sharedMembers scope parts) := by
  unfold sharedMembers; grind

omit hm in
@[grind ←]
theorem retains_define (places : List (String × Nat)) (source : String) :
    Retains (define places source) := by
  unfold define; grind

@[grind ←]
theorem retains_build (f : Value) (scope : Scope) (keeper : Nat) (parts : List ClassPart)
    (arguments : List Value) : Retains (build m f scope keeper parts arguments) := by
  unfold build; grind

@[grind ←]
theorem retains_create (f : Value) (arguments : List Value) : Retains (create m f arguments) := by
  unfold create
  split
  · exact Native.retains_make hm _ _
  · split
    · refine retains_bind retains_freshId fun id => retains_bind (retains_ancestorOf _) fun _ =>
        retains_bind (retains_newPlace _) fun keeper => ?_
      split <;> grind
    · exact retains_throw _
  · exact retains_throw _

@[grind ←]
theorem retains_callWritten (f self : Value) (source : String) (places : List (String × Nat))
    (arguments : List Value) : Retains (callWritten m f self source places arguments) := by
  unfold callWritten; grind

end

/-- The machine of a session leaves what stays while scripts run, however deep calls may nest. -/
theorem retainsAll_machineWithin (fuel : Nat) : RetainsAll (machineWithin fuel) := by
  induction fuel with
  | zero =>
      exact ⟨fun _ _ _ => retains_throw _, fun _ _ => retains_throw _, retains_define,
        fun _ => retains_throw _⟩
  | succ fuel ih =>
      refine ⟨fun f self arguments => ?_, retains_create ih, retains_define, retains_run ih⟩
      cases f with
      | native path => exact Native.retains_apply ih path self arguments
      | function id source places => exact retains_callWritten ih _ self source places arguments
      | _ => exact retains_throw _

theorem retainsAll_machine : RetainsAll machine := retainsAll_machineWithin callDepth

/-! ## Sessions -/

@[grind ←]
theorem retains_raisedText (v : Value) : Retains (raisedText v) := by
  have hcall := retainsAll_machine.call
  have hstack : Retains (tryCatchThe Thrown
      (do return String.ofList (← spelling machine.call (← member machine.call v "stack")))
      fun _ => return "") := retains_tryCatch (by grind) fun _ => retains_pure _
  unfold raisedText
  refine retains_bind (retains_spelling hcall v) fun text => ?_
  split <;> first | exact retains_pure _ | exact retains_bind hstack fun _ => retains_pure _

@[grind ←]
theorem retains_reported (t : Thrown) : Retains (reported t) := by
  unfold reported; grind

@[grind ←]
theorem retains_reporting {α : Type} {act : Act α} (h : Retains act) : Retains (reporting act) := by
  unfold reporting; grind

theorem retains_act (step : Step) : Retains (act step) := by
  have hm := retainsAll_machine
  unfold act; grind

theorem retains_sources : Retains sources := by
  unfold sources; grind

theorem retains_installVariable (key : Data) (source : String) :
    Retains (installVariable key source) := by
  rw [installVariable]
  split
  · exact retains_throw _
  · exact retains_tryCatch (retains_reporting
      (retains_bind (retains_run retainsAll_machine _) fun _ => retains_pure _))
      fun _ => retains_throw _

theorem retains_install : Retains install := by
  have hdone : Retains (modify fun s => { s with installed := true }) :=
    retains_modify fun _ => ⟨.refl _, Nat.le_refl _, rfl, fun _ => rfl⟩
  unfold install
  exact retains_bind retains_sources fun _ =>
    retains_bind (retains_forM (fun _ => retains_installVariable _ _) _) fun _ => hdone

/-- A session that is ready from the start is what setting the variables of its sandbox leaves. -/
theorem run_install_of_ready {sandbox : Sandbox} {s : Session}
    (h : (start sandbox).ready = (.ok (), s)) : install.run.run (start sandbox) = (.ok (), s) := by
  have hnew : ¬ (start sandbox).installed = true := Bool.false_ne_true
  rw [ready, if_neg hnew] at h
  cases hrun : install.run.run (start sandbox) with
  | mk outcome s' =>
      rw [hrun] at h
      cases outcome with
      | ok _ => exact h
      | error t => exact nomatch (Prod.mk.inj h).1

/-- A session that is ready has come from its start. -/
theorem leadsTo_of_ready {sandbox : Sandbox} {s : Session}
    (h : (start sandbox).ready = (.ok (), s)) : LeadsTo (start sandbox) s := by
  have hinstall := retains_install (start sandbox)
  rwa [run_install_of_ready h] at hinstall

/-- A step leads on from a session that is ready. -/
theorem leadsTo_step {s : Session} (hs : s.installed = true) (step : Except SourceFault Step) :
    LeadsTo s (s.step step).2 := by
  have hready : s.ready = (.ok (), s) := if_pos hs
  unfold Session.step
  rw [hready]
  cases step with
  | error f => exact .refl s
  | ok step => exact retains_act step s

end DocExamples.Script.Session
