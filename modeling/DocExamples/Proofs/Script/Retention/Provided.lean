import DocExamples.Proofs.Script.Retention.Conversions

/-!
# What stays while the functions of every sandbox run

The console and the checks exchange JSON with the host, which keeps its makers of modules.
`require` is the one function that puts something into the table of the modules. It looks
the name up first, and only a free name is asked for, so `retains_require` is where the
second way for a table to grow comes from. Between looking up and keeping lies all that the
source of the module does, which is why the session it looked at is carried through the acts
in between.
-/

namespace DocExamples.Script.Session

/-- What a machine does leaves what stays while scripts run. -/
structure RetainsAll (m : Machine) : Prop where
  call : RetainsCalls m.call
  create (f : Value) (arguments : List Value) : Retains (m.create f arguments)
  define (places : List (String × Nat)) (source : String) : Retains (m.define places source)
  run (source : String) : Retains (m.run source)

attribute [grind →] RetainsAll.call
attribute [grind ←] RetainsAll.create RetainsAll.define RetainsAll.run

/-! ## The host -/

@[grind ←]
theorem retains_hostArgument (arguments : List Value) : Retains (hostArgument arguments) := by
  unfold hostArgument; grind

mutual

@[grind ←]
theorem retains_ofJson (j : Json) : Retains (ofJson j) := by
  cases j with
  | arr items =>
      have hitems := retains_ofJsonItems items
      unfold ofJson; grind
  | obj members =>
      have hmembers := retains_ofJsonMembers members
      unfold ofJson; grind
  | _ => unfold ofJson; grind

theorem retains_ofJsonItems (items : List Json) : Retains (ofJsonItems items) := by
  cases items with
  | nil => exact retains_pure _
  | cons item more =>
      have hitem := retains_ofJson item
      have hmore := retains_ofJsonItems more
      unfold ofJsonItems; grind

theorem retains_ofJsonMembers (members : List (String × Json)) :
    Retains (ofJsonMembers members) := by
  cases members with
  | nil => exact retains_pure _
  | cons m more =>
      obtain ⟨name, item⟩ := m
      have hitem := retains_ofJson item
      have hmore := retains_ofJsonMembers more
      unfold ofJsonMembers; grind

end

section

variable {call : Caller} (hcall : RetainsCalls call)
include hcall

@[grind ←]
theorem retains_askHost (name : String) (request : String → HostCall) (arguments : List Value) :
    Retains (askHost call name request arguments) := by
  unfold askHost; grind

@[grind ←]
theorem retains_askHostFor (name : String) (request : HostCall) :
    Retains (askHostFor call name request) := by
  unfold askHostFor; grind

@[grind ←]
theorem retains_parseJson (v : Value) : Retains (parseJson call v) := by
  unfold parseJson; grind

@[grind ←]
theorem retains_parseReply {reply : Act Value} (h : Retains reply) :
    Retains (parseReply call reply) := by
  unfold parseReply; grind

/-! ## The console -/

@[grind ←]
theorem retains_needsArrays : Retains (needsArrays call) := by
  unfold needsArrays; grind

@[grind ←]
theorem retains_log (values : List Value) : Retains (log call values) := by
  unfold log; grind

@[grind ←]
theorem retains_nextOutput : Retains (nextOutput call) := by
  unfold nextOutput; grind

@[grind ←]
theorem retains_formatOutput (values : Value) : Retains (formatOutput call values) := by
  unfold formatOutput; grind

end

/-! ## Checks -/

@[grind ←]
theorem retains_throwValue {α : Type} (v : Value) : Retains (α := α) (throwValue v) :=
  retains_bind (retains_modify fun _ => ⟨.refl _, Nat.le_refl _, rfl, id⟩) fun _ => retains_throw _

section

variable {m : Machine} (hm : RetainsAll m)
include hm

@[grind ←]
theorem retains_failWith (t : Thrown) : Retains (failWith m t) := by
  rw [failWith]
  refine retains_bind (retains_replaced? "Error") fun found => ?_
  cases found with
  | none => exact retains_throw t
  | some f =>
      have hchanged : ∀ v, Retains (changed v fun v =>
          t.members.forM fun given => setMember v given.1 (.text given.2)) :=
        retains_changed fun v => retains_forM (fun _ => retains_setMember v _ _) t.members
      exact retains_bind (hm.create f _) fun v =>
        retains_bind (hchanged v) fun v => retains_throwValue v

@[grind ←]
theorem retains_assertDrained : Retains (assertDrained m) := by
  unfold assertDrained; grind

omit hm in
@[grind ←]
theorem retains_equalBy {call : Caller} (hcall : RetainsCalls call) (objects a b : Value) :
    Retains (equalBy call objects a b) := by
  unfold equalBy; grind

omit hm in
@[grind ←]
theorem retains_equal {call : Caller} (hcall : RetainsCalls call) (a b : Value) :
    Retains (equal call a b) := by
  unfold equal; grind

@[grind ←]
theorem retains_assertEqual (actual expected : Value) :
    Retains (assertEqual m actual expected) := by
  unfold assertEqual; grind

/-! ## Modules -/

@[grind ←]
theorem retains_replySource (reply : Value) : Retains (replySource m reply) := by
  unfold replySource; grind

@[grind ←]
theorem retains_evaluateSource (source : String) : Retains (evaluateSource m source) := by
  unfold evaluateSource; grind

/-- A module is kept under a name that was free when the module was asked for. -/
@[grind ←]
theorem retains_require (name : Value) : Retains (require m name) := by
  rw [require]
  refine retains_bind (retains_conversions_text hm.call name) fun name =>
    retains_bind (retains_spelling hm.call name) fun key s => ?_
  rw [(gives_get s).run_next]
  cases hfree : s.modules.find? (String.ofList key) with
  | some v => exact .refl s
  | none =>
      refine (LeadsTo.refl s).bind (retains_parseReply hm.call (retains_askHost hm.call _ _ _))
        fun reply s' hs => hs.bind (retains_replySource hm reply) fun source s' hs =>
          hs.bind (retains_evaluateSource hm _) fun v s' hs => ?_
      exact ⟨.takes v hfree hs.modules, hs.next, hs.resolver, hs.installed⟩

end

end DocExamples.Script.Session
