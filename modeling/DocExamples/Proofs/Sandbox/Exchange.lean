import DocExamples.Proofs.Script.Replies
import DocExamples.Sandbox.Host
import Mathlib.Logic.Function.Basic

/-!
# What sandboxes exchange with their host

A line that a snippet writes passes through JSON twice before a check sees it: the
values of the call go to the host as a payload, and the line comes back as a reply.
Between the two it waits in the console. This file says that nothing is lost on that
way, whatever else is asked of the host in between and however many of the calls fail.

The invariant is an account of one console. What it held, followed by the lines of
the payloads that were accepted since, is what was taken since, followed by what it
holds. `answer_lines` gives the account of one call and `moments_lines` that of a
sequence of calls, in which those out of other sandboxes are passed over.
-/

namespace DocExamples

open Function (update update_self update_of_ne)

/-- A call to the host out of one of several sandboxes. What makes modules may keep a
state of its own and answer otherwise each time, so it is given as the call finds it. -/
structure HostRequest where
  sandbox : Nat
  call : HostCall
  makers : Resolver

/-- A request with its reply, and the sandboxes in front of it and behind it. -/
structure Moment where
  request : HostRequest
  found : Nat → Sandbox
  reply : Except HostError String
  left : Nat → Sandbox

namespace Moment

/-- The line that the reply hands over. -/
def taken? (m : Moment) : Option String :=
  match m.request.call, m.reply with
  | .nextOutput, .ok reply =>
    match Script.JsonReader.read reply.toList with
    | .ok (.str line) => some line
    | _ => none
  | _, _ => none

/-- The payload that the host accepts for the console. -/
def logged? (m : Moment) : Option String :=
  match m.request.call, m.reply with
  | .log payload, .ok _ => some payload
  | _, _ => none

end Moment

namespace Sandbox

/-- The moment of a request. -/
def answer (sandboxes : Nat → Sandbox) (q : HostRequest) : Moment where
  request := q
  found := sandboxes
  reply := ({ sandboxes q.sandbox with resolver := q.makers }.call q.call).1
  left := update sandboxes q.sandbox
    ({ sandboxes q.sandbox with resolver := q.makers }.call q.call).2

/-- The moments of requests that are made one after the other. -/
def moments (sandboxes : Nat → Sandbox) : List HostRequest → List Moment
  | [] => []
  | q :: more => answer sandboxes q :: moments (answer sandboxes q).left more

/-- The sandboxes behind requests that are made one after the other. -/
def leftBy (sandboxes : Nat → Sandbox) : List HostRequest → Nat → Sandbox
  | [] => sandboxes
  | q :: more => leftBy (answer sandboxes q).left more

variable {sandboxes : Nat → Sandbox} {q : HostRequest}

/-! ## One call -/

theorem call_log_of_error {s : Sandbox} {payload : String} {e : HostError}
    (h : lineOf payload = .error e) : s.call (.log payload) = (.error e, s) := by
  rw [call, h]

theorem call_log_of_ok {s : Sandbox} {payload line : String} (h : lineOf payload = .ok line) :
    s.call (.log payload) = (.ok "", { s with console := s.console.log line }) := by
  rw [call, h]

theorem call_nextOutput (s : Sandbox) :
    s.call .nextOutput = (.ok (lineJson s.console.lines.head?).render,
      { s with console := ⟨s.console.lines.tail⟩ }) := by
  obtain ⟨resolver, globals, lines⟩ := s
  cases lines with
  | mk lines => cases lines <;> rfl

/-- Only writing and taking a line change the console. -/
theorem call_console {s : Sandbox} {call : HostCall} (hlog : ∀ payload, call ≠ .log payload)
    (hnext : call ≠ .nextOutput) : (s.call call).2.console = s.console := by
  cases call with
  | log payload => exact absurd rfl (hlog payload)
  | nextOutput => exact absurd rfl hnext
  | _ => rfl

theorem call_globals (s : Sandbox) (call : HostCall) : (s.call call).2.globals = s.globals := by
  cases call with
  | log payload =>
      cases h : lineOf payload with
      | error e => rw [call_log_of_error h]
      | ok line => rw [call_log_of_ok h]
  | nextOutput => rw [call_nextOutput]
  | _ => rfl

/-- No line is printed for a payload that is no JSON, or whose value does not hold the
values of a call. -/
theorem lineOf_eq_error_iff (payload : String) :
    (∃ e, lineOf payload = .error e) ↔
      (∃ e, Json.read payload.toList = .error e) ∨
        ∃ j n, Json.read payload.toList = .ok j ∧ Console.values j = .error n := by
  rw [lineOf]
  cases Json.read payload.toList with
  | error e => exact iff_of_true ⟨_, rfl⟩ (.inl ⟨e, rfl⟩)
  | ok j =>
      dsimp only
      cases hvalues : Console.values j with
      | error n => exact iff_of_true ⟨_, rfl⟩ (.inr ⟨j, n, rfl, hvalues⟩)
      | ok values =>
          refine iff_of_false (fun ⟨_, h⟩ => nomatch h) ?_
          rintro (⟨_, ⟨⟩⟩ | ⟨_, n, ⟨⟩, hn⟩)
          exact nomatch hvalues.symm.trans hn

theorem answer_left_self :
    (answer sandboxes q).left q.sandbox =
      ({ sandboxes q.sandbox with resolver := q.makers }.call q.call).2 :=
  update_self _ _ _

theorem answer_left_of_ne {k : Nat} (hk : k ≠ q.sandbox) :
    (answer sandboxes q).left k = sandboxes k :=
  update_of_ne hk _ _

theorem answer_console (hlog : ∀ payload, q.call ≠ .log payload) (hnext : q.call ≠ .nextOutput)
    (k : Nat) : ((answer sandboxes q).left k).console = (sandboxes k).console := by
  by_cases hk : k = q.sandbox
  · subst hk
    rw [answer_left_self, call_console hlog hnext]
  · rw [answer_left_of_ne hk]

/-- A payload that is refused leaves every console as it was. -/
theorem answer_console_of_error {payload : String} (hcall : q.call = .log payload) {e : HostError}
    (he : lineOf payload = .error e) (k : Nat) :
    ((answer sandboxes q).left k).console = (sandboxes k).console := by
  by_cases hk : k = q.sandbox
  · subst hk
    rw [answer_left_self, hcall, call_log_of_error he]
  · rw [answer_left_of_ne hk]

theorem answer_log_eq_error_iff {payload : String} (hcall : q.call = .log payload) :
    (∃ e, (answer sandboxes q).reply = .error e) ↔ ∃ e, lineOf payload = .error e := by
  simp only [answer, hcall]
  cases hline : lineOf payload with
  | error e => rw [call_log_of_error hline]
  | ok line =>
      rw [call_log_of_ok hline]
      exact iff_of_false (fun ⟨_, h⟩ => nomatch h) fun ⟨_, h⟩ => nomatch h

/-- A reply is `null` exactly where no line is left. -/
theorem render_lineJson_eq_null_iff (line : Option String) :
    (lineJson line).render = "null" ↔ line = none := by
  refine ⟨fun h => ?_, fun h => by rw [h]; rfl⟩
  have hread := Script.JsonReader.read_lineJson line
  rw [h] at hread
  cases line with
  | none => rfl
  | some line => exact nomatch Except.ok.inj hread

theorem answer_next_eq_null_iff (hcall : q.call = .nextOutput) :
    (answer sandboxes q).reply = .ok "null" ↔ (sandboxes q.sandbox).console.lines = [] := by
  rw [answer, hcall, call_nextOutput]
  dsimp only
  rw [Except.ok.injEq, render_lineJson_eq_null_iff, List.head?_eq_none_iff]

/-- The account of one call: what the console held and what it was given is what was
taken from it and what it holds. -/
theorem answer_lines (sandboxes : Nat → Sandbox) (q : HostRequest) :
    (sandboxes q.sandbox).console.lines.map .ok ++
        (answer sandboxes q).logged?.toList.map lineOf =
      ((answer sandboxes q).taken?.toList ++
        ((answer sandboxes q).left q.sandbox).console.lines).map .ok := by
  rw [answer_left_self, Moment.logged?, Moment.taken?]
  obtain ⟨k, call, makers⟩ := q
  simp only [answer]
  cases call with
  | log payload =>
      cases hline : lineOf payload with
      | error e =>
          rw [call_log_of_error hline]
          exact List.append_nil _
      | ok line =>
          rw [call_log_of_ok hline]
          simp [hline]
  | nextOutput =>
      rw [call_nextOutput]
      simp only [Script.JsonReader.read_lineJson]
      cases hlines : (sandboxes k).console.lines with
      | nil => rfl
      | cons line more => simp [lineJson]
  | _ => exact List.append_nil _

/-! ## Calls one after the other -/

theorem filterMap_cons_toList {α β : Type} (f : α → Option β) (a : α) (as : List α) :
    (a :: as).filterMap f = (f a).toList ++ as.filterMap f := by
  rw [List.filterMap_cons]
  cases f a <;> rfl

/-- The moments of one sandbox. -/
def momentsOf (k : Nat) (sandboxes : Nat → Sandbox) (asked : List HostRequest) : List Moment :=
  (moments sandboxes asked).filter (·.request.sandbox = k)

theorem momentsOf_cons_self (sandboxes : Nat → Sandbox) (q : HostRequest)
    (more : List HostRequest) :
    momentsOf q.sandbox sandboxes (q :: more) =
      answer sandboxes q :: momentsOf q.sandbox (answer sandboxes q).left more :=
  List.filter_cons_of_pos (decide_eq_true rfl)

theorem momentsOf_cons_of_ne {k : Nat} (hk : k ≠ q.sandbox) (more : List HostRequest) :
    momentsOf k sandboxes (q :: more) = momentsOf k (answer sandboxes q).left more :=
  List.filter_cons_of_neg fun h => hk (of_decide_eq_true h).symm

/-- The account of one console over any calls, out of its own sandbox and out of
others. -/
theorem moments_lines (k : Nat) (sandboxes : Nat → Sandbox) (asked : List HostRequest) :
    (sandboxes k).console.lines.map .ok ++
        ((momentsOf k sandboxes asked).filterMap (·.logged?)).map lineOf =
      ((momentsOf k sandboxes asked).filterMap (·.taken?) ++
        (leftBy sandboxes asked k).console.lines).map .ok := by
  induction asked generalizing sandboxes with
  | nil => exact List.append_nil _
  | cons q more ih =>
      have hrest := ih (answer sandboxes q).left
      by_cases hk : k = q.sandbox
      · subst hk
        have hfirst := answer_lines sandboxes q
        rw [List.map_append] at hfirst
        rw [momentsOf_cons_self, filterMap_cons_toList, filterMap_cons_toList, List.map_append,
          ← List.append_assoc, hfirst, List.append_assoc, hrest, ← List.map_append,
          List.append_assoc, leftBy]
      · rw [momentsOf_cons_of_ne hk, leftBy, ← hrest, answer_left_of_ne hk]

theorem exists_answer_of_mem {asked : List HostRequest} {m : Moment}
    (h : m ∈ moments sandboxes asked) : ∃ found q, m = answer found q := by
  induction asked generalizing sandboxes with
  | nil => exact absurd h List.not_mem_nil
  | cons q more ih =>
      rcases List.mem_cons.1 h with rfl | h
      · exact ⟨sandboxes, q, rfl⟩
      · exact ih h

/-! ## From a new sandbox on -/

theorem ofConfig_lines {c : Config} {fresh : Sandbox} (h : ofConfig c = .ok fresh) :
    fresh.console.lines = [] := by
  rw [ofConfig] at h
  cases hresolver : Resolver.ofConfig c with
  | error x => rw [hresolver] at h; cases h
  | ok resolver => rw [hresolver] at h; cases h; rfl

/-- Among any calls out of sandboxes of one configuration, what one sandbox takes, followed
by what its console is left with, is the lines of the payloads that the host accepted from
it, in order. A reply is `null` exactly if the console is empty when the call is made, and
a console changes by no call out of another sandbox, none that asks for something else, and
none that is refused. A half of a pair that stands alone in a payload is read as the replacement
character here, on both sides. -/
theorem exchange_lossless {c : Config} {fresh : Sandbox} (h : ofConfig c = .ok fresh)
    (asked : List HostRequest) :
    (∀ k, ∃ pending reply,
      ((leftBy (fun _ => fresh) asked k).call .pendingOutput).1 = .ok reply ∧
      Script.JsonReader.read reply.toList = .ok (.arr (pending.map .str)) ∧
      ((momentsOf k (fun _ => fresh) asked).filterMap (·.logged?)).map lineOf =
        ((momentsOf k (fun _ => fresh) asked).filterMap (·.taken?) ++ pending).map .ok) ∧
    ∀ m ∈ moments (fun _ => fresh) asked,
      (∀ k, k ≠ m.request.sandbox → m.left k = m.found k) ∧
      (m.request.call = .nextOutput →
        (m.reply = .ok "null" ↔ (m.found m.request.sandbox).console.lines = [])) ∧
      ((∀ payload, m.request.call ≠ .log payload) → m.request.call ≠ .nextOutput →
        ∀ k, (m.left k).console = (m.found k).console) ∧
      ∀ payload, m.request.call = .log payload →
        ((∃ e, m.reply = .error e) ↔
          (∃ e, Json.read payload.toList = .error e) ∨
            ∃ j n, Json.read payload.toList = .ok j ∧ Console.values j = .error n) ∧
        ((∃ e, m.reply = .error e) → ∀ k, (m.left k).console = (m.found k).console) := by
  refine ⟨fun k => ⟨(leftBy (fun _ => fresh) asked k).console.lines, _, rfl,
    Script.JsonReader.read_lines _, ?_⟩, fun m hm => ?_⟩
  · have hlines := moments_lines k (fun _ => fresh) asked
    rwa [ofConfig_lines h, List.map_nil, List.nil_append] at hlines
  · obtain ⟨found, q, rfl⟩ := exists_answer_of_mem hm
    refine ⟨fun k hk => answer_left_of_ne hk, answer_next_eq_null_iff, answer_console,
      fun payload hcall => ?_⟩
    have hrefused : (∃ e, (answer found q).reply = .error e) ↔ ∃ e, lineOf payload = .error e :=
      answer_log_eq_error_iff hcall
    refine ⟨hrefused.trans (lineOf_eq_error_iff payload), fun hreply => ?_⟩
    obtain ⟨e, he⟩ := hrefused.1 hreply
    exact answer_console_of_error hcall he

/-- Two sandboxes write in turns, and one of them also what is no JSON and what holds no
values. -/
theorem exchange_lossless_of_refused_payloads :
    let fresh : Sandbox := ⟨{}, [], {}⟩
    let asked : List HostRequest :=
      [⟨0, .log "[\"a\",[null,true]]", {}⟩, ⟨1, .log "[\"other\"]", {}⟩, ⟨0, .log "[", {}⟩,
        ⟨0, .log "\"xy\"", {}⟩, ⟨0, .nextOutput, {}⟩, ⟨0, .log "true", {}⟩]
    ofConfig { root := "." } = .ok fresh ∧
      (momentsOf 0 (fun _ => fresh) asked).filterMap (·.logged?) =
        ["[\"a\",[null,true]]", "\"xy\""] ∧
      (momentsOf 0 (fun _ => fresh) asked).filterMap (·.taken?) = ["a [null,true]"] ∧
      ∃ pending, ["[\"a\",[null,true]]", "\"xy\""].map lineOf =
        (["a [null,true]"] ++ pending).map .ok := by
  intro fresh asked
  have hlogged : (momentsOf 0 (fun _ => fresh) asked).filterMap (·.logged?) =
      ["[\"a\",[null,true]]", "\"xy\""] := by decide +kernel
  have htaken : (momentsOf 0 (fun _ => fresh) asked).filterMap (·.taken?) =
      ["a [null,true]"] := by decide +kernel
  obtain ⟨pending, _, _, _, hlines⟩ := (exchange_lossless (c := { root := "." }) rfl asked).1 0
  rw [hlogged, htaken] at hlines
  exact ⟨rfl, hlogged, htaken, pending, hlines⟩

end Sandbox

end DocExamples
