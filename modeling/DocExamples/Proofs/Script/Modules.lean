import DocExamples.Proofs.Script.Equality
import DocExamples.Proofs.Script.Requests
import DocExamples.Proofs.Script.Retention.Machine

/-!
# The modules of a session

A module that was loaded once stays what it is for the rest of the session, whatever
scripts do, and the host is not asked for it again. The argument has two parts. One is
about a single request: what it finds in the table settles whether the host is asked, and
`run_require` tells the rest. The other is about all that lies between two requests, and it
rests on how a table `Grows`: an object in it can change and goes on under its number, and
only a name that was free is taken. So a request for one name cannot touch what stands
under another, not even through the requests that its source makes while it is evaluated.

The one name that is left out is the one that stands for what an object inherits from. The
table is an object like any other, and under that name it keeps nothing: what is put there
is passed over, or becomes what the table inherits from. `ancestor_module_lost` shows what
a script gets instead of its module.
-/

namespace DocExamples.Script

/-! ## What is kept -/

namespace Session

/-- The value is still the one that it was: the object, which can have changed, or the value. -/
def IsStill (v w : Value) : Prop := w = v ∨ v.same w = true

theorem IsStill.trans {u v w : Value} (h : IsStill u v) (h' : IsStill v w) : IsStill u w := by
  rcases h with rfl | h
  · exact h'
  · rcases h' with rfl | h'
    · exact .inr h
    · exact .inr (Value.same_trans h h')

theorem isStill_replace {id : Nat} {new : Value} (hnew : new.id? = some id) (v : Value) :
    IsStill v (Value.replace id new v) := by
  cases hv : v.id? with
  | none =>
      refine .inl ?_
      cases v <;> first | rfl | cases hv
  | some i =>
      exact .inr (Value.same_iff.2 (.inl ⟨hv ▸ rfl, (Value.id?_replace hnew v).symm⟩))

end Session

open Session (IsStill)

namespace Holder

/-- What stands in a table goes on standing there. -/
theorem Grows.find? {h h' : Holder} (hgrows : h.Grows h') {name : String} {v : Value}
    (hfind : h.find? name = some v) : ∃ w, h'.find? name = some w ∧ IsStill v w := by
  induction hgrows generalizing v with
  | refl h => exact ⟨v, hfind, .inl rfl⟩
  | trans _ _ ih ih' =>
      obtain ⟨w, hw, hstill⟩ := ih hfind
      obtain ⟨u, hu, hstill'⟩ := ih' hw
      exact ⟨u, hu, hstill.trans hstill'⟩
  | changes h hid =>
      exact ⟨_, by rw [find?_replace, hfind]; rfl, Session.isStill_replace hid v⟩
  | takes new hfree _ ih =>
      obtain ⟨w, hw, hstill⟩ := ih hfind
      refine ⟨w, ?_, hstill⟩
      -- The name that is taken was free, so it is another one.
      rw [find?_keep_of_ne _ ?_ new, hw]
      rintro rfl
      exact nomatch hfree.symm.trans hfind

end Holder

namespace Session

open Sandbox (sourceReply absenceReply)

/-! ## What happens in a session -/

/-- What can happen in a session: a request for a module, inside which calls may nest to a depth, or
a step. -/
inductive Event where
  | request (depth : Nat) (name : String)
  | step (step : Except SourceFault Step)

/-- Lets an event happen. A step that runs through gives nothing. -/
def Event.run (e : Event) (s : Session) : Except Thrown Value × Session :=
  match e with
  | .request depth name => (require (machineWithin depth) (.text name)).run.run s
  | .step taken => ((s.step taken).1.map fun _ => .undefined, (s.step taken).2)

/-- An event with what it gives, the session that it finds and the session that it leaves. -/
structure Turn where
  event : Event
  found : Session
  outcome : Except Thrown Value
  left : Session

/-- What happens in a session, one event after the other. -/
def turns (s : Session) : List Event → List Turn
  | [] => []
  | e :: more => ⟨e, s, (e.run s).1, (e.run s).2⟩ :: turns (e.run s).2 more

namespace Turn

/-- A module is given that is kept, whatever the host would say, and nothing changes. -/
def Reuses (t : Turn) (v : Value) : Prop :=
  t.outcome = .ok v ∧ t.left = t.found ∧
    ∀ sandbox, t.event.run { t.found with sandbox := sandbox } =
      (.ok v, { t.found with sandbox := sandbox })

/-- An error with the words of the host is thrown, and a script that handles it finds the code.
Nothing is kept. -/
def IsRefused (t : Turn) (message : String) : Prop :=
  t.outcome = .error (.noModule message) ∧ t.left = t.found.asked ∧
    Gives (caught (.noModule message)) t.left
      (.error t.left.next "Error" (some message) [("code", some (.text "MODULE_NOT_FOUND"))])
      t.left.asked

/-- The source of a module is evaluated. What it gives is given and kept, what it throws is thrown,
and under all other names there is what the source leaves there. -/
def Loads (t : Turn) (depth : Nat) (name source : String) : Prop :=
  let evaluated := ((machineWithin depth).run ("(" ++ source ++ ")")).run.run t.found.asked
  t.outcome = evaluated.1 ∧
    (∀ v, t.outcome = .ok v → t.left.modules.find? name = some v) ∧
    (∀ e, t.outcome = .error e → t.left = evaluated.2) ∧
    ∀ other, other ≠ name → t.left.modules.find? other = evaluated.2.modules.find? other

/-- The host is asked for a module, and what a script reads in its reply decides. -/
def Asks (t : Turn) (depth : Nat) (name : String) : Prop :=
  ∃ reply, t.found.sandbox.call (.require (Thrown.crossing name)) = (.ok reply, t.found.sandbox) ∧
    ((∃ message, JsonReader.read reply.toList = .ok (absenceReply message) ∧ t.IsRefused message) ∨
      ∃ source, JsonReader.read reply.toList = .ok (sourceReply source) ∧ t.Loads depth name source)

/-- A name that was free is taken. -/
def Takes (t : Turn) (name : String) : Prop :=
  t.found.modules.find? name = none ∧ t.left.modules.find? name ≠ none

end Turn

/-! ## One request -/

/-- What is thrown where the host refuses a module, as a script can handle it. -/
theorem gives_caught_noModule (message : String) (s : Session) :
    Gives (caught (.noModule message)) s
      (.error s.next "Error" (some message) [("code", some (.text "MODULE_NOT_FOUND"))])
      s.asked := by
  have hcut : Thrown.cut ("Error: ".toList ++ message.toList) =
      ("Error".toList, message.toList) := by
    have hwords : "Error: ".toList = ['E', 'r', 'r', 'o', 'r', ':', ' '] := by decide
    rw [hwords]
    simp [Thrown.cut]
  have hparts : (Thrown.noModule message).parts = ("Error", message) := by
    have hmessage : (Thrown.noModule message).message.toList =
        "Error: ".toList ++ message.toList := String.toList_append
    unfold Thrown.parts
    rw [hmessage, hcut]
    exact Prod.ext String.ofList_toList String.ofList_toList
  have hmaking : (Thrown.noModule message).making = ("Error", message) := by
    rw [Thrown.making, hparts]
    rfl
  rw [caught]
  · rw [hmaking]
    exact (gives_freshId s).bind (.pure _ _)
  · exact fun h => nomatch h

section

variable {depth : Nat} {name : String} {s s' : Session}

theorem run_request_kept (hreliable : s.Reliable) (hnext : Standard.firstFree ≤ s.next) {v : Value}
    (hkept : s.modules.find? name = some v) :
    (Event.request depth name).run s = (.ok v, s) := by
  rw [Event.run, run_require _ hreliable hnext, hkept]

theorem run_request_absent (hreliable : s.Reliable) (hnext : Standard.firstFree ≤ s.next)
    (hfree : s.modules.find? name = none) {message : String}
    (hsource : Sandbox.moduleSource s.sandbox.resolver (Thrown.crossing name) = .error message) :
    (Event.request depth name).run s = (.error (.noModule message), s.asked) := by
  rw [Event.run, run_require _ hreliable hnext, hfree, hsource]

theorem run_request_thrown (hreliable : s.Reliable) (hnext : Standard.firstFree ≤ s.next)
    (hfree : s.modules.find? name = none) {source : String}
    (hsource : Sandbox.moduleSource s.sandbox.resolver (Thrown.crossing name) = .ok source)
    {e : Thrown}
    (hrun : ((machineWithin depth).run ("(" ++ source ++ ")")).run.run s.asked = (.error e, s')) :
    (Event.request depth name).run s = (.error e, s') := by
  rw [Event.run, run_require _ hreliable hnext, hfree, hsource]
  dsimp only
  rw [hrun]

theorem run_request_loaded (hreliable : s.Reliable) (hnext : Standard.firstFree ≤ s.next)
    (hfree : s.modules.find? name = none) {source : String}
    (hsource : Sandbox.moduleSource s.sandbox.resolver (Thrown.crossing name) = .ok source)
    {v : Value}
    (hrun : ((machineWithin depth).run ("(" ++ source ++ ")")).run.run s.asked = (.ok v, s')) :
    (Event.request depth name).run s =
      (.ok ((s'.modules.keep name v).kept name),
        { s' with modules := s'.modules.keep name v }) := by
  rw [Event.run, run_require _ hreliable hnext, hfree, hsource]
  dsimp only
  rw [hrun]

end

section

variable {depth : Nat} {name : String} {t : Turn}

theorem reuses_of_kept (hturn : t.event.run t.found = (t.outcome, t.left))
    (hevent : t.event = .request depth name) (hreliable : t.found.Reliable)
    (hnext : Standard.firstFree ≤ t.found.next) {v : Value}
    (hkept : t.found.modules.find? name = some v) : t.Reuses v := by
  have hrun : t.event.run t.found = (.ok v, t.found) :=
    hevent ▸ run_request_kept hreliable hnext hkept
  obtain ⟨houtcome, hleft⟩ := Prod.mk.inj (hturn.symm.trans hrun)
  refine ⟨houtcome, hleft, fun sandbox => ?_⟩
  rw [hevent]
  exact run_request_kept (s := { t.found with sandbox := sandbox }) hreliable hnext hkept

theorem asks_of_free (hturn : t.event.run t.found = (t.outcome, t.left))
    (hevent : t.event = .request depth name) (hname : name ≠ Holder.ancestorName)
    (hreliable : t.found.Reliable) (hnext : Standard.firstFree ≤ t.found.next)
    (hfree : t.found.modules.find? name = none) : t.Asks depth name := by
  have hread := (Sandbox.read_requireReply t.found.sandbox.resolver (Thrown.crossing name)).2
  rw [hevent] at hturn
  refine ⟨_, rfl, ?_⟩
  cases hsource : Sandbox.moduleSource t.found.sandbox.resolver (Thrown.crossing name) with
  | error message =>
      rw [Sandbox.requireReply_eq_absence_iff.2 hsource] at hread ⊢
      rw [run_request_absent hreliable hnext hfree hsource] at hturn
      obtain ⟨houtcome, hleft⟩ := Prod.mk.inj hturn
      exact .inl ⟨message, hread, houtcome.symm, hleft.symm, gives_caught_noModule message _⟩
  | ok source =>
      rw [Sandbox.requireReply_eq_source_iff.2 hsource] at hread ⊢
      refine .inr ⟨source, hread, ?_⟩
      unfold Turn.Loads
      cases hrun : ((machineWithin depth).run ("(" ++ source ++ ")")).run.run t.found.asked with
      | mk outcome s' =>
          cases outcome with
          | error e =>
              rw [run_request_thrown hreliable hnext hfree hsource hrun] at hturn
              obtain ⟨houtcome, hleft⟩ := Prod.mk.inj hturn
              rw [← houtcome, ← hleft]
              exact ⟨rfl, (fun _ h => nomatch h), fun _ _ => rfl, fun _ _ => rfl⟩
          | ok v =>
              have hfind := Holder.find?_keep (h := s'.modules) (v := v) hname
              have hkept : (s'.modules.keep name v).kept name = v := by
                rw [Holder.kept, if_neg hname, hfind]
                rfl
              rw [run_request_loaded hreliable hnext hfree hsource hrun, hkept] at hturn
              obtain ⟨houtcome, hleft⟩ := Prod.mk.inj hturn
              rw [← houtcome, ← hleft]
              refine ⟨rfl, fun w hw => Except.ok.inj hw ▸ hfind, (fun _ h => nomatch h), ?_⟩
              exact fun other hother => Holder.find?_keep_of_ne _ hother v

/-- A request that gives a module leaves it in the table. -/
theorem find?_of_ok (hturn : t.event.run t.found = (t.outcome, t.left))
    (hevent : t.event = .request depth name) (hname : name ≠ Holder.ancestorName)
    (hreliable : t.found.Reliable) (hnext : Standard.firstFree ≤ t.found.next) {v : Value}
    (houtcome : t.outcome = .ok v) : t.left.modules.find? name = some v := by
  cases hfound : t.found.modules.find? name with
  | some w =>
      obtain ⟨houtcome', hleft, -⟩ := reuses_of_kept hturn hevent hreliable hnext hfound
      rw [hleft, hfound, Except.ok.inj (houtcome'.symm.trans houtcome)]
  | none =>
      obtain ⟨_, -, ⟨_, -, houtcome', -⟩ | ⟨_, -, -, hkeeps, -⟩⟩ :=
        asks_of_free hturn hevent hname hreliable hnext hfound
      · exact nomatch houtcome'.symm.trans houtcome
      · exact hkeeps v houtcome

end

/-- One source and what it evaluates to. -/
theorem run_true (depth : Nat) (s : Session) :
    ((machineWithin (depth + 1)).run ("(" ++ "true" ++ ")")).run.run s = (.ok (.bool true), s) := by
  have hread : Reader.script ("(" ++ "true" ++ ")").toList = .ok [.run (.bool true)] := by
    have hsource : ("(" ++ "true" ++ ")").toList = ['(', 't', 'r', 'u', 'e', ')'] := by decide
    rw [hsource]
    rfl
  have hmachine : (machineWithin (depth + 1)).run = run (machineWithin depth) := rfl
  rw [hmachine, run, hread]
  rfl

/-! ## All that happens -/

theorem installed_of_ready {sandbox : Sandbox} {s : Session}
    (h : (start sandbox).ready = (.ok (), s)) : s.installed = true := by
  obtain ⟨_, _, -, hmore⟩ := Gives.of_bind (run_install_of_ready h)
  obtain ⟨_, _, -, hdone⟩ := Gives.of_bind hmore
  rw [← (Prod.mk.inj hdone).2]

theorem leadsTo_run {s : Session} (hs : s.installed = true) (e : Event) :
    LeadsTo s (e.run s).2 := by
  cases e with
  | request depth name => exact retains_require (retainsAll_machineWithin depth) (.text name) s
  | step taken => exact leadsTo_step hs taken

section

variable {s : Session} {events : List Event} {earlier later : List Turn} {t : Turn}

/-- What follows a turn happens in the session that the turn leaves. -/
theorem turns_split (hs : s.installed = true) (hturns : turns s events = earlier ++ t :: later) :
    LeadsTo s t.found ∧ t.event.run t.found = (t.outcome, t.left) ∧
      ∃ more, turns t.left more = later := by
  induction earlier generalizing s events with
  | nil =>
      cases events with
      | nil => exact nomatch hturns
      | cons e more =>
          obtain ⟨rfl, hlater⟩ := List.cons.inj hturns
          exact ⟨.refl s, rfl, more, hlater⟩
  | cons u earlier ih =>
      cases events with
      | nil => exact nomatch hturns
      | cons e more =>
          have hrun := leadsTo_run hs e
          obtain ⟨hfound, hturn⟩ := ih (hrun.installed hs) (List.cons.inj hturns).2
          exact ⟨hrun.trans hfound, hturn⟩

/-- A name that nothing took is free. -/
theorem free_of_not_taken {name : String} (hturns : turns s events = earlier ++ t :: later)
    (hfree : s.modules.find? name = none) (htakes : ∀ u ∈ earlier, ¬ u.Takes name) :
    t.found.modules.find? name = none := by
  induction earlier generalizing s events with
  | nil =>
      cases events with
      | nil => exact nomatch hturns
      | cons e more =>
          obtain ⟨rfl, -⟩ := List.cons.inj hturns
          exact hfree
  | cons u earlier ih =>
      cases events with
      | nil => exact nomatch hturns
      | cons e more =>
          obtain ⟨rfl, hmore⟩ := List.cons.inj hturns
          obtain ⟨hfirst, hrest⟩ := List.forall_mem_cons.1 htakes
          exact ih hmore (Decidable.of_not_not fun hleft => hfirst ⟨hfree, hleft⟩) hrest

end

/-- Whatever happened in a sandbox before, a request for a module gives what is kept under the name
and asks no one, and asks the host where the name is free: a refusal is thrown with its words and
its code and leaves nothing behind, and a source gives what it evaluates to, which is kept from then
on. So a request behind one that gave a module gives that same module, a name that nothing took is
asked for, and what is kept under any name stays, with the host as it was. -/
theorem module_asked_once {sandbox : Sandbox} {s : Session}
    (hready : (start sandbox).ready = (.ok (), s)) {events : List Event}
    {earlier later : List Turn} {t : Turn} {depth : Nat} {name : String}
    (hturns : turns s events = earlier ++ t :: later) (hevent : t.event = .request depth name)
    (hname : name ≠ Holder.ancestorName) (hreliable : t.found.Reliable) :
    (∀ v, t.found.modules.find? name = some v → t.Reuses v) ∧
      (t.found.modules.find? name = none → t.Asks depth name) ∧
      (∀ u ∈ earlier, ∀ depth' v, u.event = .request depth' name → u.found.Reliable →
        u.outcome = .ok v → ∃ w, IsStill v w ∧ t.Reuses w) ∧
      (s.modules.find? name = none → (∀ u ∈ earlier, ¬ u.Takes name) →
        t.found.modules.find? name = none) ∧
      (∀ other v, t.found.modules.find? other = some v →
        ∃ w, t.left.modules.find? other = some w ∧ IsStill v w) ∧
      t.found.sandbox.resolver = sandbox.resolver := by
  have hs := installed_of_ready hready
  have hstart := leadsTo_of_ready hready
  obtain ⟨hfound, hturn, -⟩ := turns_split hs hturns
  have hnext : Standard.firstFree ≤ t.found.next := Nat.le_trans hstart.next hfound.next
  refine ⟨fun v hkept => reuses_of_kept hturn hevent hreliable hnext hkept,
    asks_of_free hturn hevent hname hreliable hnext, ?_, free_of_not_taken hturns, ?_,
    hfound.resolver.trans hstart.resolver⟩
  · intro u hu depth' v hevent' hreliable' houtcome
    obtain ⟨before, between, rfl⟩ := List.append_of_mem hu
    rw [List.append_assoc, List.cons_append] at hturns
    obtain ⟨hfound', hturn', more, hmore⟩ := turns_split hs hturns
    have hnext' : Standard.firstFree ≤ u.found.next := Nat.le_trans hstart.next hfound'.next
    have hkept := find?_of_ok hturn' hevent' hname hreliable' hnext' houtcome
    have hinstalled : u.left.installed = true := by
      have hrun := leadsTo_run (hfound'.installed hs) u.event
      rw [hturn'] at hrun
      exact hrun.installed (hfound'.installed hs)
    obtain ⟨w, hw, hstill⟩ := (turns_split hinstalled hmore).1.modules.find? hkept
    exact ⟨w, hstill, reuses_of_kept hturn hevent hreliable hnext hw⟩
  · intro other v hother
    have hrun := leadsTo_run (hfound.installed hs) t.event
    rw [hturn] at hrun
    exact hrun.modules.find? hother

/-- A module that is no object is asked for under a name that every object inherits, then
another name like that is refused, and then the module is there without a question. -/
theorem module_asked_once_of_inherited :
    let sandbox : Sandbox := ⟨⟨[], [("constructor", .bool true)]⟩, [], {}⟩
    let s : Session := { start sandbox with installed := true }
    let first : Event := .request 3 "constructor"
    let second : Event := .request 3 "toString"
    let found := (second.run (first.run s).2).2
    (start sandbox).ready = (.ok (), s) ∧
      (first.run s).1 = .ok (.bool true) ∧
      (second.run (first.run s).2).1 = .error (.noModule (Resolver.notFoundMessage "toString")) ∧
      Turn.Reuses ⟨first, found, (first.run found).1, (first.run found).2⟩
        (.bool true) := by
  intro sandbox s first second found
  have hreliable : s.Reliable := fun _ _ => rfl
  have hsource : Sandbox.moduleSource s.sandbox.resolver (Thrown.crossing "constructor") =
      .ok "true" := by
    have hcrossing : Thrown.crossing "constructor" = "constructor" := by decide +kernel
    rw [hcrossing]
    rfl
  have habsent : Sandbox.moduleSource s.sandbox.resolver (Thrown.crossing "toString") =
      .error (Resolver.notFoundMessage "toString") := by
    have hcrossing : Thrown.crossing "toString" = "toString" := by decide +kernel
    rw [hcrossing]
    rfl
  have hfirst := run_request_loaded hreliable (Nat.le_refl _) rfl hsource (run_true 2 _)
  have hreliable' : (first.run s).2.Reliable := by
    rw [hfirst]
    exact fun _ _ => rfl
  have hsecond : second.run (first.run s).2 =
      (.error (.noModule (Resolver.notFoundMessage "toString")), (first.run s).2.asked) := by
    refine run_request_absent hreliable' ?_ ?_ ?_
    all_goals rw [hfirst]
    · exact Nat.le_succ _
    · rfl
    · exact habsent
  have hfound : found.Reliable := by
    show (second.run (first.run s).2).2.Reliable
    rw [hsecond]
    exact hreliable'.asked
  have houtcome : (first.run s).1 = .ok (.bool true) := by rw [hfirst]; rfl
  have hready : (start sandbox).ready = (.ok (), s) := rfl
  have hturns : turns s [first, second, first] =
      [⟨first, s, (first.run s).1, (first.run s).2⟩,
        ⟨second, (first.run s).2, (second.run (first.run s).2).1, found⟩] ++
      ⟨first, found, (first.run found).1, (first.run found).2⟩ :: [] := rfl
  obtain ⟨-, -, hlater, -⟩ := module_asked_once hready hturns rfl (by decide) hfound
  obtain ⟨w, hstill, hreuses⟩ := hlater _ List.mem_cons_self 3 _ rfl hreliable houtcome
  refine ⟨hready, houtcome, congrArg Prod.fst hsecond, ?_⟩
  rcases hstill with rfl | hsame
  · exact hreuses
  · rcases Value.same_iff.1 hsame with ⟨hid, -⟩ | ⟨-, rfl, -⟩
    · exact nomatch hid
    · exact hreuses

/-! ## The name that is left out -/

/-- Under the name for what an object inherits from, a table that inherits from something keeps no
value that is no object. A request gives what the table inherits from. -/
theorem run_request_ancestor {depth : Nat} {s s' : Session} (hreliable : s.Reliable)
    (hnext : Standard.firstFree ≤ s.next) (hfree : s.modules.find? Holder.ancestorName = none)
    {source : String} {v : Value}
    (hsource : Sandbox.moduleSource s.sandbox.resolver (Thrown.crossing Holder.ancestorName) =
      .ok source)
    (hrun : ((machineWithin depth).run ("(" ++ source ++ ")")).run.run s.asked = (.ok v, s'))
    {ancestor : Value} (hancestor : s'.modules.ancestor = some ancestor)
    (hdown : Holder.handsDown s'.modules.ancestor = true) (hprimitive : v.isPrimitive = true)
    (hnull : v ≠ .null) :
    (Event.request depth Holder.ancestorName).run s = (.ok ancestor, s') := by
  have hkeep : s'.modules.keep Holder.ancestorName v = s'.modules := by
    unfold Holder.keep
    rw [if_pos ⟨rfl, hdown⟩]
    cases v <;> first | rfl | exact absurd rfl hnull | cases hprimitive
  have hkept : s'.modules.kept Holder.ancestorName = ancestor := by
    rw [Holder.kept, if_pos rfl, Holder.special?, if_pos hdown, hancestor]
    rfl
  rw [run_request_loaded hreliable hnext hfree hsource hrun, hkeep, hkept]

/-- The host has a module under that name and its source evaluates to a value, but a script gets
what all objects inherit from, and nothing is kept. -/
theorem ancestor_module_lost :
    let sandbox : Sandbox := ⟨⟨[], [("__proto__", .bool true)]⟩, [], {}⟩
    let s : Session := { start sandbox with installed := true }
    (start sandbox).ready = (.ok (), s) ∧
      Sandbox.requireReply sandbox.resolver (Thrown.crossing "__proto__") = sourceReply "true" ∧
      ((machineWithin 3).run ("(" ++ "true" ++ ")")).run.run s.asked = (.ok (.bool true), s.asked) ∧
      (Event.request 3 "__proto__").run s = (.ok (.object 0 .topmost []), s.asked) ∧
      s.asked.modules.find? "__proto__" = none := by
  intro sandbox s
  have hsource : Sandbox.moduleSource s.sandbox.resolver (Thrown.crossing "__proto__") =
      .ok "true" := by
    have hcrossing : Thrown.crossing "__proto__" = "__proto__" := by decide +kernel
    rw [hcrossing]
    rfl
  have hrun := run_request_ancestor (fun _ _ => rfl) (Nat.le_refl _) rfl hsource (run_true 2 _) rfl
    rfl rfl (fun h => nomatch h)
  exact ⟨rfl, Sandbox.requireReply_eq_source_iff.2 hsource, run_true 2 _, hrun, rfl⟩

end Session

end DocExamples.Script
