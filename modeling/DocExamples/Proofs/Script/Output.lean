import DocExamples.Document.Assertion
import DocExamples.Proofs.Number.Double
import DocExamples.Proofs.Script.Acts
import DocExamples.Proofs.Script.Replies
import DocExamples.Script.Session

/-!
# Checks of console output

What the checks of a script do once it has been read. Taking a line asks the host for
it, and the host gives the oldest line or none; the comparison behind it goes through
exactly if there was a line and it is the text. The last check asks for all lines that
are left. `gives_runScript_iff` puts this together for a script of any length.

The functions that the checks call are found by name, and a script may set these names
anew. So a session has to be `Intact`. A session is intact from its start, and taking a
line keeps it intact, which is what carries the induction over the checks. The last
check uses up a number for the array that it gets, and only the number of that array
tells it apart from the arrays that are there from the start.
-/

namespace DocExamples.Script.Session

/-- The names that the checks rely on. -/
def checkNames : List String :=
  ["__deepStrictEqual", "__nextOutput", "__assertOutputDrained", "__hostNextOutput",
    "__hostPendingOutput", "JSON", "Object"]

/-- A session in which the checks are what they were at its start. -/
structure Intact (s : Session) : Prop where
  names : ∀ name ∈ checkNames, s.globals.find? name = none
  next : Standard.firstFree ≤ s.next

/-- A session with other lines in its console. -/
def withLines (s : Session) (lines : List String) : Session :=
  { s with sandbox := { s.sandbox with console := ⟨lines⟩ } }

/-- What a script gets for a line: the text, or nothing. -/
def lineValue : Option String → Value
  | none => .null
  | some line => .text line

theorem gives_spelling_text (call : Caller) (text : String) (s : Session) :
    Gives (spelling call (.text text)) s text.toList s := rfl

theorem gives_ofJson_lineJson (line : Option String) (s : Session) :
    Gives (ofJson (Sandbox.lineJson line)) s (lineValue line) s := by
  cases line with
  | none => rfl
  | some line => rfl

theorem gives_parseJson {call : Caller} {reply : String} {j : Json} {s s' : Session} {v : Value}
    (hread : JsonReader.read reply.toList = .ok j) (hj : Gives (ofJson j) s v s') :
    Gives (parseJson call (.text reply)) s v s' := by
  rw [parseJson]
  refine (gives_spelling_text call reply s).bind ?_
  rw [hread]
  exact hj

/-- What a script makes of a reply of the host. -/
theorem gives_parseReply {call : Caller} {name reply : String} {request : HostCall}
    {sandbox : Sandbox} {j : Json} {s s' : Session} {v : Value} (hs : s.globals.find? "JSON" = none)
    (hname : s.globals.find? name = none)
    (hcall : s.sandbox.call request = (.ok reply, sandbox))
    (hread : JsonReader.read reply.toList = .ok j)
    (hj : Gives (ofJson j) { s with sandbox := sandbox } v s') :
    Gives (parseReply call (askHostFor call name request)) s v s' := by
  have hask : Gives (askHostFor call name request) s (.text reply)
      { s with sandbox := sandbox } := by
    rw [askHostFor]
    refine (gives_replaced? name s).bind ?_
    rw [hname]
    exact (gives_callHost hcall).bind (.pure _ _)
  rw [parseReply]
  refine (gives_replaced? "JSON" s).bind ?_
  rw [hs]
  exact hask.bind (gives_parseJson hread hj)

theorem gives_nextOutput (call : Caller) {s : Session} (hs : s.Intact) :
    Gives (nextOutput call) s (lineValue s.sandbox.console.lines.head?)
      (s.withLines s.sandbox.console.lines.tail) := by
  have hpop : s.sandbox.call .nextOutput =
      (.ok (Sandbox.lineJson s.sandbox.console.lines.head?).render,
        { s.sandbox with console := ⟨s.sandbox.console.lines.tail⟩ }) := by
    cases h : s.sandbox.console.lines with
    | nil =>
        have hconsole : s.sandbox.console = ⟨[]⟩ := congrArg Console.mk h
        simp [Sandbox.call, Console.pop, hconsole]
    | cons line more => simp [Sandbox.call, Console.pop, h]
  exact gives_parseReply (hs.names _ (by decide)) (hs.names _ (by decide)) hpop
    (JsonReader.read_lineJson _) (gives_ofJson_lineJson _ _)

theorem Intact.withLines {s : Session} (hs : s.Intact) (lines : List String) :
    (s.withLines lines).Intact := ⟨hs.names, hs.next⟩

/-! ## Comparing -/

/-- What is built to be thrown is thrown, or something on the way is. -/
theorem fails_failWith (m : Machine) (t : Thrown) (s : Session) : Fails (failWith m t) s := by
  rw [failWith]
  refine fails_bind (fun found s => ?_) s
  cases found with
  | none => exact .throw t s
  | some f =>
      refine fails_bind (fun v s => fails_bind (fun w s => ?_) s) s
      exact Gives.bind_fails rfl (.throw .value { s with thrown := w })

theorem gives_settled (call : Caller) {v : Value} (hv : v.calls = false) (s : Session) :
    Gives (settled call v) s v s := by
  rw [settled, hv]
  exact .pure v s

theorem gives_equal (call : Caller) (line : Option String) (text : String) {s : Session}
    (hs : s.Intact) :
    Gives (equal call (lineValue line) (.text text)) s (decide (line = some text)) s := by
  have hcalls : (lineValue line).calls = false := by cases line <;> rfl
  have hequal : Value.equalWhere s.globals.find? (lineValue line) (.text text) =
      .ok (decide (line = some text)) := by
    cases line with
    | none => rfl
    | some line =>
        show (if line == text then Except.ok true else Except.ok false) = _
        by_cases h : line = text
        · rw [if_pos (beq_iff_eq.2 h), decide_eq_true (congrArg some h)]
        · rw [if_neg (mt beq_iff_eq.1 h), decide_eq_false fun heq => h (Option.some.inj heq)]
  rw [equal]
  refine (gives_replaced? "Object" s).bind ?_
  rw [hs.names "Object" (by decide)]
  refine (gives_standing s).bind ((gives_settled call hcalls s).bind
    ((gives_settled call rfl s).bind ?_))
  rw [hequal]
  exact .pure _ s

theorem gives_assertEqual (m : Machine) {line : Option String} {text : String} {s : Session}
    (hs : s.Intact) (h : line = some text) :
    Gives (assertEqual m (lineValue line) (.text text)) s () s := by
  rw [assertEqual]
  refine (gives_equal m.call line text hs).bind ?_
  rw [decide_eq_true h]
  exact .pure () s

theorem fails_assertEqual (m : Machine) {line : Option String} {text : String} {s : Session}
    (hs : s.Intact) (h : line ≠ some text) :
    Fails (assertEqual m (lineValue line) (.text text)) s := by
  rw [assertEqual]
  refine (gives_equal m.call line text hs).bind_fails ?_
  rw [decide_eq_false h]
  exact fails_bind (fun _ => fails_bind fun _ => fails_bind fun _ => fails_bind fun _ =>
    fails_failWith m _) s

/-! ## No line left -/

theorem gives_ofJsonItems_lines (lines : List String) (s : Session) :
    Gives (ofJsonItems (lines.map .str)) s (lines.map .text) s := by
  induction lines with
  | nil => rfl
  | cons line lines ih =>
      rw [List.map_cons, ofJsonItems, ofJson]
      exact (Gives.pure _ s).bind (ih.bind (.pure _ s))

theorem gives_pending (call : Caller) {s : Session} (hs : s.Intact) :
    Gives (parseReply call (askHostFor call "__hostPendingOutput" .pendingOutput)) s
      (.array s.next (s.sandbox.console.lines.map fun line => some (.text line)))
      { s with next := s.next + 1 } := by
  refine gives_parseReply (hs.names _ (by decide)) (hs.names _ (by decide)) (by rfl)
    (JsonReader.read_lines _) ?_
  rw [ofJson]
  refine (gives_ofJsonItems_lines _ s).bind ?_
  rw [newArray]
  refine (gives_freshId s).bind ?_
  rw [List.map_map]
  exact .pure _ _

theorem gives_length (call : Caller) {id : Nat} (hid : Standard.firstFree ≤ id)
    (items : List (Option Value)) (s : Session) :
    Gives (member call (.array id items) "length") s (.number (.ofInt items.length)) s := by
  have hsame : (Value.array id items).same Standard.allVariables = false := by
    show (id == 5) = false
    rw [beq_eq_false_iff_ne]
    rintro rfl
    exact absurd hid (by decide)
  rw [member]
  · rw [hsame]
    rfl
  all_goals exact fun h => nomatch h

theorem gives_assertDrained (m : Machine) {s : Session} (hs : s.Intact)
    (h : s.sandbox.console.lines = []) :
    Gives (assertDrained m) s () { s with next := s.next + 1 } := by
  rw [assertDrained]
  refine (gives_pending m.call hs).bind ((gives_length m.call hs.next _ _).bind
    ((Gives.pure _ _).bind ?_))
  rw [Number.Double.isLess_zero_ofInt, List.length_map, h]
  exact .pure () _

theorem fails_assertDrained (m : Machine) {s : Session} (hs : s.Intact)
    (h : s.sandbox.console.lines ≠ []) : Fails (assertDrained m) s := by
  have hpos : 0 < s.sandbox.console.lines.length := List.length_pos_iff.2 h
  rw [assertDrained]
  refine (gives_pending m.call hs).bind_fails ((gives_length m.call hs.next _ _).bind_fails
    ((Gives.pure _ _).bind_fails ?_))
  rw [Number.Double.isLess_zero_ofInt, List.length_map, decide_eq_true hpos]
  exact fails_bind (fun _ => fails_bind fun _ => fails_failWith m _) _

/-! ## Calls -/

/-- A function of the start under its own name. -/
theorem gives_name (m : Machine) {name : String} {s : Session}
    (hname : s.globals.find? name = none) (hfixed : Standard.fixed.lookup name = none)
    (hstart : Standard.startValue? name = some (.native name)) :
    Gives (evaluate m {} (.name name)) s (.native name) s := by
  have hfind : Gives (findVariable name) s (some (.native name)) s := by
    rw [findVariable, hfixed]
    refine (gives_get s).bind ?_
    dsimp only
    rw [hname, hstart]
    exact .pure _ s
  rw [evaluate, readSpot, lookup]
  exact hfind.bind (.pure _ s)

theorem evaluate_call_name (m : Machine) (name : String) (arguments : List Term) :
    evaluate m {} (Step.call name arguments) =
      evaluate m {} (.name name) >>= fun f =>
        evaluateAll m {} arguments >>= fun values => m.call f .undefined values := by
  rfl

theorem gives_call_nextOutput (fuel : Nat) {s : Session} (hs : s.Intact) :
    Gives (evaluate (machineWithin (fuel + 1)) {} (Step.call "__nextOutput" [])) s
      (lineValue s.sandbox.console.lines.head?) (s.withLines s.sandbox.console.lines.tail) := by
  rw [evaluate_call_name]
  refine (gives_name _ (hs.names "__nextOutput" (by decide)) rfl rfl).bind
    ((Gives.pure [] s).bind ?_)
  exact gives_nextOutput (machineWithin fuel).call hs

/-- The check of one line. -/
def checkTerm (text : String) : Term :=
  Step.call "__deepStrictEqual" [Step.call "__nextOutput" [], .text text]

theorem gives_holding {α : Type} {act : Act α} {v : Value} {a : α} {s s' : Session}
    (hv : v.id? = none) (h : Gives act s a s') : Gives (holding v act) s (v, a) s' := by
  rw [holding, hv]
  exact h.bind (.pure _ s')

/-- The check of a line compares the line that it takes with its text. -/
theorem gives_arguments (fuel : Nat) (text : String) {s : Session} (hs : s.Intact) :
    Gives (evaluateAll (machineWithin (fuel + 1)) {} [Step.call "__nextOutput" [], .text text]) s
      [lineValue s.sandbox.console.lines.head?, .text text]
      (s.withLines s.sandbox.console.lines.tail) := by
  have hid : (lineValue s.sandbox.console.lines.head?).id? = none := by
    cases s.sandbox.console.lines.head? <;> rfl
  have htext : ∀ s', Gives (evaluateAll (machineWithin (fuel + 1)) {} [.text text]) s'
      [.text text] s' := fun _ => rfl
  rw [evaluateAll]
  · exact (gives_call_nextOutput fuel hs).bind
      ((gives_holding hid (htext _)).bind (.pure _ _))
  · exact fun _ h => nomatch h

theorem gives_checkTerm (fuel : Nat) {text : String} {s : Session} (hs : s.Intact)
    (h : s.sandbox.console.lines.head? = some text) :
    Gives (evaluate (machineWithin (fuel + 1)) {} (checkTerm text)) s .undefined
      (s.withLines s.sandbox.console.lines.tail) := by
  rw [checkTerm, evaluate_call_name]
  refine (gives_name _ (hs.names "__deepStrictEqual" (by decide)) rfl rfl).bind
    ((gives_arguments fuel text hs).bind ?_)
  exact (gives_assertEqual (machineWithin fuel) (hs.withLines _) h).bind (.pure _ _)

theorem fails_checkTerm (fuel : Nat) {text : String} {s : Session} (hs : s.Intact)
    (h : s.sandbox.console.lines.head? ≠ some text) :
    Fails (evaluate (machineWithin (fuel + 1)) {} (checkTerm text)) s := by
  rw [checkTerm, evaluate_call_name]
  refine (gives_name _ (hs.names "__deepStrictEqual" (by decide)) rfl rfl).bind_fails
    ((gives_arguments fuel text hs).bind_fails ?_)
  exact (fails_assertEqual (machineWithin fuel) (hs.withLines _) h).bind

/-- The check that no line is left. -/
def drainedTerm : Term := Step.call "__assertOutputDrained" []

theorem gives_drainedTerm (fuel : Nat) {s : Session} (hs : s.Intact)
    (h : s.sandbox.console.lines = []) :
    Gives (evaluate (machineWithin (fuel + 1)) {} drainedTerm) s .undefined
      { s with next := s.next + 1 } := by
  rw [drainedTerm, evaluate_call_name]
  refine (gives_name _ (hs.names "__assertOutputDrained" (by decide)) rfl rfl).bind
    ((Gives.pure [] s).bind ?_)
  exact (gives_assertDrained (machineWithin fuel) hs h).bind (.pure _ _)

theorem fails_drainedTerm (fuel : Nat) {s : Session} (hs : s.Intact)
    (h : s.sandbox.console.lines ≠ []) :
    Fails (evaluate (machineWithin (fuel + 1)) {} drainedTerm) s := by
  rw [drainedTerm, evaluate_call_name]
  refine (gives_name _ (hs.names "__assertOutputDrained" (by decide)) rfl rfl).bind_fails
    ((Gives.pure [] s).bind_fails ?_)
  exact (fails_assertDrained (machineWithin fuel) hs h).bind

/-! ## A script of checks -/

/-- The statements that check lines, and the one that checks that no line is left, where
the flag asks for it. -/
def checkSteps (texts : List String) (drained : Bool) : List Statement :=
  texts.map (fun text => .run (checkTerm text)) ++ if drained then [.run drainedTerm] else []

theorem functionsOf_checkSteps (texts : List String) (drained : Bool) :
    Reader.functionsOf (checkSteps texts drained) = [] := by
  rw [Reader.functionsOf, List.filterMap_eq_nil_iff]
  intro step hstep
  obtain ⟨t, rfl⟩ : ∃ t, step = .run t := by
    rcases List.mem_append.1 hstep with hcheck | hdrained
    · obtain ⟨text, _, rfl⟩ := List.mem_map.1 hcheck
      exact ⟨_, rfl⟩
    · split at hdrained
      · exact ⟨_, List.mem_singleton.1 hdrained⟩
      · cases hdrained
  rfl

/-- Holds when the lines are what the checks ask for. -/
def Accepts (texts : List String) (drained : Bool) (lines : List String) : Prop :=
  if drained then lines = texts else texts <+: lines

theorem accepts_cons {text line : String} {texts lines : List String} {drained : Bool} :
    Accepts (text :: texts) drained (line :: lines) ↔
      line = text ∧ Accepts texts drained lines := by
  cases drained with
  | true => exact List.cons_eq_cons
  | false =>
      show text :: texts <+: line :: lines ↔ line = text ∧ texts <+: lines
      rw [List.cons_prefix_cons, eq_comm]

theorem not_accepts_nil {text : String} {texts : List String} {drained : Bool} :
    ¬ Accepts (text :: texts) drained [] := by
  cases drained with
  | true => exact fun h => nomatch h
  | false => exact fun h => nomatch List.prefix_nil.1 h

/-- Checks run through exactly if the lines of the console are what they ask for. -/
theorem gives_performScript_iff (fuel : Nat) (texts : List String) (drained : Bool)
    {s : Session} (hs : s.Intact) (last : Value) :
    (∃ v s', Gives (performScript (machineWithin (fuel + 1)) (checkSteps texts drained) last)
      s v s') ↔ Accepts texts drained s.sandbox.console.lines := by
  induction texts generalizing s last with
  | nil =>
      cases drained with
      | false => exact iff_of_true ⟨last, s, .pure last s⟩ List.nil_prefix
      | true =>
          show (∃ v s', Gives (evaluate (machineWithin (fuel + 1)) {} drainedTerm >>= _)
            s v s') ↔ s.sandbox.console.lines = []
          by_cases h : s.sandbox.console.lines = []
          · exact iff_of_true ⟨_, _, (gives_drainedTerm fuel hs h).bind (.pure _ _)⟩ h
          · exact iff_of_false (fails_drainedTerm fuel hs h).bind.not_gives h
  | cons text texts ih =>
      show (∃ v s', Gives (evaluate (machineWithin (fuel + 1)) {} (checkTerm text) >>= fun v =>
        performScript _ (checkSteps texts drained) v) s v s') ↔ _
      cases hlines : s.sandbox.console.lines with
      | nil =>
          have hhead : s.sandbox.console.lines.head? ≠ some text := by
            rw [hlines]
            exact fun h => nomatch h
          exact iff_of_false (fails_checkTerm fuel hs hhead).bind.not_gives not_accepts_nil
      | cons line lines =>
          rw [accepts_cons]
          by_cases h : line = text
          · have hhead : s.sandbox.console.lines.head? = some text := by
              rw [hlines, List.head?_cons, h]
            rw [(gives_checkTerm fuel hs hhead).bind_iff, ih (hs.withLines _), hlines]
            exact (and_iff_right h).symm
          · have hhead : s.sandbox.console.lines.head? ≠ some text := by
              rw [hlines, List.head?_cons]
              exact fun heq => h (Option.some.inj heq)
            exact iff_of_false (fails_checkTerm fuel hs hhead).bind.not_gives fun hor => h hor.1

theorem gives_runScript_iff (fuel : Nat) (texts : List String) (drained : Bool) {s : Session}
    (hs : s.Intact) :
    (∃ v s', Gives (runScript (machineWithin (fuel + 1)) (checkSteps texts drained)) s v s') ↔
      Accepts texts drained s.sandbox.console.lines := by
  rw [runScript, functionsOf_checkSteps]
  exact (Gives.pure () s).bind_iff.trans (gives_performScript_iff fuel texts drained hs _)

end DocExamples.Script.Session
