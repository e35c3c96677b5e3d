import DocExamples.Proofs.Sandbox.Resolution
import DocExamples.Proofs.Script.Output

/-!
# One request for a module

A request goes through many hands: the name becomes a text, the host is asked under a name
of its own, its reply is JSON, the object in the reply is looked into, and the source is
wrapped and evaluated. A script can set most of the names on this way anew. Where it has
not, `run_require` says in one equation what a request comes to, and nothing behind it
looks into the steps again.

The object that the reply is read as is as new as its number, which is all that tells it
apart from what is there from the start. That is the one thing the equation asks of the
session beside the names.
-/

namespace DocExamples.Script.Session

/-- The names that a request for a module relies on. -/
def requestNames : List String := ["String", "JSON", "Error", "eval", "__hostRequire"]

/-- Nothing stands in place of what a request for a module relies on. -/
def Reliable (s : Session) : Prop := ∀ name ∈ requestNames, s.globals.find? name = none

/-- What a request that the host replies to leaves behind: a number is used up for the reply. -/
def asked (s : Session) : Session := { s with next := s.next + 1 }

theorem Reliable.asked {s : Session} (hs : s.Reliable) : s.asked.Reliable := hs

/-! ## The reply as a script reads it -/

/-- The object that a reply of the host is read as: whether there is a module, and a text. -/
def answer (id : Nat) (ok : Bool) (name text : String) : Value :=
  .object id .common [("ok", some (.bool ok)), (name, some (.text text))]

theorem listed_pair {name name' : String} (hne : name ≠ name')
    (hplain : Members.position? name = none) (hplain' : Members.position? name' = none)
    (v w : Option Value) :
    Members.listed [(name, v), (name', w)] = [(name, v), (name', w)] := by
  have hsettled : Members.settle [(name, v), (name', w)] = [(name, v), (name', w)] := by
    simp [Members.settle, Members.set, hne]
  rw [Members.listed, hsettled]
  refine List.mergeSort_of_pairwise (List.pairwise_pair.2 ?_)
  rw [Members.isBefore, hplain, hplain']

theorem gives_ofJson_answer (ok : Bool) {name : String} (hname : name ≠ "ok")
    (hplain : Members.position? name = none) (text : String) (s : Session) :
    Gives (ofJson (.obj [("ok", .bool ok), (name, .str text)])) s (answer s.next ok name text)
      s.asked := by
  have hmembers : Gives (ofJsonMembers [("ok", .bool ok), (name, .str text)]) s
      [("ok", .bool ok), (name, .text text)] s := rfl
  rw [ofJson]
  refine hmembers.bind ?_
  rw [newObject]
  refine (gives_freshId s).bind ?_
  rw [List.map_cons, List.map_cons, List.map_nil,
    listed_pair (Ne.symm hname) (by decide) hplain]
  exact .pure _ _

/-- A member that an object has itself. -/
theorem gives_member_own (call : Caller) {id : Nat} (hid : Standard.firstFree ≤ id)
    {members : List (String × Option Value)} {name : String} {v : Value}
    (hmember : members.lookup name = some (some v)) (hv : ∀ f, v ≠ .computed f) (s : Session) :
    Gives (member call (.object id .common members) name) s v s := by
  have hsame : (Value.object id .common members).same Standard.allVariables = false := by
    show (id == 5) = false
    rw [beq_eq_false_iff_ne]
    rintro rfl
    exact absurd hid (by decide)
  have hown : (Value.object id .common members).ownMember? name = some v := by
    rw [Value.ownMember?, hmember]
    rfl
  have hinherited : ∀ ancestors fuel,
      inherited? ancestors (fuel + 1) (.object id .common members) name = some v := by
    intro ancestors fuel
    unfold inherited?
    rw [hown]
  have hstored : Gives (storedMember? (.object id .common members) name) s (some v) s := by
    rw [storedMember?]
    · refine (gives_get s).bind ?_
      dsimp only
      rw [hinherited]
      exact .pure _ s
    all_goals simp
  rw [member]
  · rw [hsame]
    refine hstored.bind ?_
    cases v <;> first | exact .pure _ s | exact absurd rfl (hv _)
  all_goals simp

theorem gives_member_ok (call : Caller) {id : Nat} (hid : Standard.firstFree ≤ id) (ok : Bool)
    (name text : String) (s : Session) :
    Gives (member call (answer id ok name text) "ok") s (.bool ok) s := by
  refine gives_member_own call hid ?_ ?_ s
  · rfl
  · exact fun _ h => nomatch h

theorem gives_member_text (call : Caller) {id : Nat} (hid : Standard.firstFree ≤ id) (ok : Bool)
    {name : String} (hname : name ≠ "ok") (text : String) (s : Session) :
    Gives (member call (answer id ok name text) name) s (.text text) s := by
  refine gives_member_own call hid ?_ ?_ s
  · rw [List.lookup_cons, beq_eq_false_iff_ne.2 hname]
    exact List.lookup_cons_self
  · exact fun _ h => nomatch h

/-! ## The steps of a request -/

section

variable (m : Machine) {s : Session}

theorem gives_conversions_text (call : Caller) (hs : s.Reliable) (name : String) :
    Gives ((conversions call).text (.text name)) s (.text name) s := by
  have htext : Gives (textOf call (.text name)) s name.toList s := rfl
  show Gives (replaced? "String" >>= _) s _ s
  refine (gives_replaced? "String" s).bind ?_
  rw [hs "String" (by decide)]
  refine htext.bind ?_
  rw [String.ofList_toList]
  exact .pure _ s

theorem gives_reply (hs : s.Reliable) (name : String) {ok : Bool} {member text : String}
    (hmember : member ≠ "ok") (hplain : Members.position? member = none)
    (hreply : Sandbox.requireReply s.sandbox.resolver (Thrown.crossing name) =
      .obj [("ok", .bool ok), (member, .str text)]) :
    Gives (parseReply m.call (askHost m.call "__hostRequire" .require [.text name])) s
      (answer s.next ok member text) s.asked := by
  have hcall : s.sandbox.call (.require (Thrown.crossing name)) =
      (.ok (Sandbox.requireReply s.sandbox.resolver (Thrown.crossing name)).render, s.sandbox) :=
    rfl
  have hask : Gives (askHost m.call "__hostRequire" .require [.text name]) s
      (.text (Sandbox.requireReply s.sandbox.resolver (Thrown.crossing name)).render) s := by
    rw [askHost]
    refine (gives_replaced? "__hostRequire" s).bind ?_
    rw [hs "__hostRequire" (by decide)]
    exact (Gives.pure _ s).bind ((gives_callHost hcall).bind (.pure _ _))
  have hread := (Sandbox.read_requireReply s.sandbox.resolver (Thrown.crossing name)).2
  rw [parseReply]
  refine (gives_replaced? "JSON" s).bind ?_
  rw [hs "JSON" (by decide)]
  refine hask.bind (gives_parseJson hread ?_)
  rw [hreply]
  exact gives_ofJson_answer ok hmember hplain text s

theorem gives_replySource {id : Nat} (hid : Standard.firstFree ≤ id) (source : String)
    (s : Session) : Gives (replySource m (answer id true "source" source)) s source s := by
  rw [replySource]
  refine (gives_member_ok m.call hid true "source" source s).bind
    ((gives_member_text m.call hid true (by decide) source s).bind
      ((gives_spelling_text m.call source s).bind ?_))
  rw [String.ofList_toList]
  exact .pure _ s

theorem run_replySource_absent {id : Nat} (hid : Standard.firstFree ≤ id) (hs : s.Reliable)
    (message : String) :
    (replySource m (answer id false "message" message)).run.run s =
      (.error (.noModule message), s) := by
  have hmessage := gives_member_text m.call hid false (by decide : "message" ≠ "ok") message s
  have hfail : (failWith m (.noModule message)).run.run s = (.error (.noModule message), s) := by
    rw [failWith, (gives_replaced? "Error" s).run_next, hs "Error" (by decide)]
    rfl
  rw [replySource, (gives_member_ok m.call hid false "message" message s).run_next]
  show (_ >>= _ : Act String).run.run s = _
  rw [hmessage.run_next, (gives_spelling_text m.call message s).run_next, String.ofList_toList,
    run_bind, hfail]

theorem evaluateSource_eq (hs : s.Reliable) (source : String) :
    (evaluateSource m source).run.run s = (m.run source).run.run s := by
  rw [evaluateSource, (gives_replaced? "eval" s).run_next, hs "eval" (by decide)]

/-- What a request for a module comes to. -/
theorem run_require (hs : s.Reliable) (hnext : Standard.firstFree ≤ s.next) (name : String) :
    (require m (.text name)).run.run s =
      match s.modules.find? name with
      | some v => (.ok v, s)
      | none =>
        match Sandbox.moduleSource s.sandbox.resolver (Thrown.crossing name) with
        | .error message => (.error (.noModule message), s.asked)
        | .ok source =>
          match (m.run ("(" ++ source ++ ")")).run.run s.asked with
          | (.error t, s') => (.error t, s')
          | (.ok v, s') =>
            (.ok ((s'.modules.keep name v).kept name),
              { s' with modules := s'.modules.keep name v }) := by
  rw [require, (gives_conversions_text m.call hs name).run_next,
    (gives_spelling_text m.call name s).run_next, String.ofList_toList, (gives_get s).run_next]
  cases s.modules.find? name with
  | some v => rfl
  | none =>
      dsimp only
      cases hsource : Sandbox.moduleSource s.sandbox.resolver (Thrown.crossing name) with
      | error message =>
          have hreply := Sandbox.requireReply_eq_absence_iff.2 hsource
          rw [(gives_reply m hs name (by decide) (by decide) hreply).run_next, run_bind,
            run_replySource_absent m hnext hs.asked]
      | ok source =>
          have hreply := Sandbox.requireReply_eq_source_iff.2 hsource
          rw [(gives_reply m hs name (by decide) (by decide) hreply).run_next,
            (gives_replySource m hnext source s.asked).run_next, run_bind,
            evaluateSource_eq m hs.asked]
          dsimp only
          cases (m.run ("(" ++ source ++ ")")).run.run s.asked with
          | mk outcome s' => cases outcome <;> rfl

end

end DocExamples.Script.Session
