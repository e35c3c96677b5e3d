import DocExamples.Document.Snippet
import DocExamples.Proofs.Script.Output

/-!
# The text of a script of checks

The statements that take the place of annotations are text, and a script that is run is
read first. Here the generated text is read back: the check of a line as `checkTerm`, the
last check as `drainedTerm`, and lines of them as the script `checkSteps`.

Between a statement and the operands in it there is one reader for each level of
operators. A term that starts with a name or a text and that a comma, a bracket or a
semicolon ends passes through all of them as it is. `StartsTerm` and `EndsTerm` hold what
the readers look at on the way, and a lemma for each level leads from `chain` up to
`assignment`. The fuel of the readers takes no part in this: each lemma asks for one call
more than the one below it, and what `depthFor` allows is far beyond their sum.

A line feed in front of a statement is a blank like the one in front of an argument, so
both are covered by stating where a reader starts through `Token.skip`.
-/

namespace DocExamples.Script.Reader

/-! ## Where a term starts and ends -/

/-- A source at the start of a term that no operator stands in front of. -/
structure StartsTerm (s : List Char) : Prop where
  skip : Token.skip s = .ok s
  arrow : startsArrow s = false
  token : ∃ first rest, Token.read s = .ok (first, rest) ∧ unary? first = none ∧
    (∀ m, first ≠ .mark m) ∧ first ≠ .word "delete" ∧ first ≠ .name "async"

/-- A source at a mark that ends a term. -/
def EndsTerm (s : List Char) : Prop :=
  ∃ m rest, Token.read s = .ok (.mark m, rest) ∧ (m = "," ∨ m = ")" ∨ m = ";")

theorem endsTerm_comma (s : List Char) : EndsTerm (',' :: s) := ⟨_, s, rfl, .inl rfl⟩

theorem endsTerm_bracket (s : List Char) : EndsTerm (')' :: s) := ⟨_, s, rfl, .inr (.inl rfl)⟩

theorem endsTerm_semicolon (s : List Char) : EndsTerm (';' :: s) := ⟨_, s, rfl, .inr (.inr rfl)⟩

theorem markNext_of_endsTerm {s : List Char} (h : EndsTerm s) {m : String}
    (hm : m ∉ [",", ")", ";"]) : markNext m s = false := by
  obtain ⟨n, rest, hread, hn⟩ := h
  rw [markNext, hread]
  refine beq_eq_false_iff_ne.2 fun heq => hm ?_
  rw [← heq]
  simpa using hn

section

/-! ## The levels of operators -/

variable {body : List Char → Rest} {fuel : Nat} {s rest : List Char} {t : Term}

theorem counted_of_chain (h : chain body fuel s = .ok (t, rest)) (hend : EndsTerm rest) :
    counted body (fuel + 1) s = .ok (t, rest) := by
  obtain ⟨m, more, hread, hm⟩ := hend
  rw [counted, h]
  show (if endsLine rest then _ else _) = _
  -- A line that ends here ends the term; otherwise no counting mark follows.
  split
  · rfl
  · rw [hread]
    rcases hm with rfl | rfl | rfl <;> rfl

theorem signed_of_counted (hstart : StartsTerm s)
    (h : counted body fuel s = .ok (t, rest)) (hend : EndsTerm rest) :
    signed body (fuel + 1) false s = .ok (t, rest) := by
  obtain ⟨first, after, hfirst, hunary, hmark, hdelete, -⟩ := hstart.token
  obtain ⟨m, more, hread, hm⟩ := hend
  have hcount : ¬(first = .mark "++" ∨ first = .mark "--") := not_or_intro (hmark _) (hmark _)
  rw [signed, hfirst]
  simp only [bind, Except.bind, pure, Except.pure, hunary, if_neg hcount, if_neg hdelete, h,
    hread]
  rcases hm with rfl | rfl | rfl <;> rfl

theorem furtherOperands_of_endsTerm (level : Nat) (hend : EndsTerm rest) :
    furtherOperands body (fuel + 1) level t rest = .ok (t, rest) := by
  obtain ⟨m, more, hread, hm⟩ := hend
  rw [furtherOperands, hread]
  rcases hm with rfl | rfl | rfl <;> rfl

theorem binary_of_signed (level : Nat) (h : signed body (fuel + 1) false s = .ok (t, rest))
    (hend : EndsTerm rest) : binary body (fuel + 2) level s = .ok (t, rest) := by
  rw [binary, h]
  exact furtherOperands_of_endsTerm level hend

theorem coalesced_of_binary (h : binary body (fuel + 1) 3 s = .ok (t, rest))
    (hend : EndsTerm rest) : coalesced body (fuel + 2) s = .ok (t, rest) := by
  have hchoice : markNext "??" rest = false := markNext_of_endsTerm hend (by decide)
  have hand : markNext "&&" rest = false := markNext_of_endsTerm hend (by decide)
  have hor : markNext "||" rest = false := markNext_of_endsTerm hend (by decide)
  rw [coalesced, h]
  simp only [bind, Except.bind, hchoice, furtherOperands_of_endsTerm 1 hend, hand, hor]
  rfl

theorem conditional_of_coalesced (h : coalesced body fuel s = .ok (t, rest))
    (hend : EndsTerm rest) : conditional body (fuel + 1) s = .ok (t, rest) := by
  obtain ⟨m, more, hread, hm⟩ := hend
  rw [conditional, h]
  simp only [bind, Except.bind, hread]
  rcases hm with rfl | rfl | rfl <;> rfl

theorem setting_of_conditional (h : conditional body fuel s = .ok (t, rest))
    (hend : EndsTerm rest) : setting body (fuel + 1) s = .ok (t, rest) := by
  obtain ⟨m, more, hread, hm⟩ := hend
  rw [setting, h]
  simp only [bind, Except.bind, hread]
  rcases hm with rfl | rfl | rfl <;> rfl

theorem assignment_of_setting {s' : List Char} (hgap : Token.skip s = .ok s')
    (hstart : StartsTerm s') (h : setting body fuel s' = .ok (t, rest)) :
    assignment body (fuel + 1) s = .ok (t, rest) := by
  obtain ⟨first, after, hfirst, -, -, -, hasync⟩ := hstart.token
  rw [assignment, hgap]
  simp only [bind, Except.bind, hstart.arrow, hfirst, Bool.false_eq_true, if_false]
  split
  next heq =>
    rw [Prod.mk.injEq] at heq
    exact absurd heq.1 hasync
  next => exact h

/-- A term that no operator joins to another is read from where it starts. -/
theorem assignment_of_chain {s' : List Char} (hgap : Token.skip s = .ok s')
    (hstart : StartsTerm s') (h : chain body fuel s' = .ok (t, rest)) (hend : EndsTerm rest) :
    assignment body (fuel + 7) s = .ok (t, rest) :=
  have hsigned := signed_of_counted hstart (counted_of_chain h hend) hend
  have hcoalesced := coalesced_of_binary (binary_of_signed 3 hsigned hend) hend
  assignment_of_setting hgap hstart
    (setting_of_conditional (conditional_of_coalesced hcoalesced hend) hend)

/-! ## Calls and their arguments -/

theorem links_of_endsTerm (hend : EndsTerm rest) :
    links body (fuel + 1) true t rest = .ok (t, rest) := by
  obtain ⟨m, more, hread, hm⟩ := hend
  rw [links, hread]
  rcases hm with rfl | rfl | rfl <;> rfl

theorem links_call {inside : List Char} {ts : List Term}
    (h : arguments body (fuel + 1) [] inside = .ok (ts, rest)) (hend : EndsTerm rest) :
    links body (fuel + 2) true t ('(' :: inside) = .ok (.call t ts, rest) := by
  have hread : Token.read ('(' :: inside) = .ok (.mark "(", inside) := rfl
  rw [links, hread]
  simp only [bind, Except.bind, h, if_true]
  exact links_of_endsTerm hend

theorem readHere_of_read {s : List Char} {r : Token.Reading Token} (hskip : Token.skip s = .ok s)
    (h : Token.read s = r) : Token.readHere s = r := by
  rw [← h, Token.read, hskip]
  rfl

theorem operand_name {x : String} (hskip : Token.skip s = .ok s)
    (h : Token.read s = .ok (.name x, rest)) :
    operand body (fuel + 1) s = .ok (.name x, rest) := by
  rw [operand, hskip]
  simp only [bind, Except.bind, readHere_of_read hskip h]
  rfl

theorem operand_text {x : String} (hskip : Token.skip s = .ok s)
    (h : Token.read s = .ok (.text x, rest)) :
    operand body (fuel + 1) s = .ok (.text x, rest) := by
  rw [operand, hskip]
  simp only [bind, Except.bind, readHere_of_read hskip h]
  rfl

theorem arguments_none (acc : List Term) (rest : List Char) :
    arguments body (fuel + 1) acc (')' :: rest) = .ok (acc.reverse, rest) := by
  have hread : Token.read (')' :: rest) = .ok (.mark ")", rest) := rfl
  rw [arguments, hread]
  rfl

theorem arguments_of_assignment {s' : List Char} (acc : List Term)
    (hgap : Token.skip s = .ok s') (hstart : StartsTerm s')
    (h : assignment body fuel s = .ok (t, rest)) :
    arguments body (fuel + 1) acc s = (do
      match ← Token.read rest with
      | (.mark ")", rest) => return ((t :: acc).reverse, rest)
      | _ => arguments body fuel (t :: acc) (← Token.expect "," rest)) := by
  obtain ⟨first, after, hfirst, -, hmark, -, -⟩ := hstart.token
  have hread : Token.read s = .ok (first, after) := by
    rw [← hfirst, Token.read, hgap, Token.read, hstart.skip]
  rw [arguments, hread]
  simp only [bind, Except.bind]
  split
  next heq =>
    rw [Prod.mk.injEq] at heq
    exact absurd heq.1 (hmark _)
  next token after' _ heq =>
    rw [Prod.mk.injEq] at heq
    rw [← heq.1, if_neg (hmark _)]
    -- The term is what `assignment` found; both sides go on in the same way.
    generalize assignment body fuel s = found at h ⊢
    subst h
    rfl

theorem arguments_last {s' : List Char} (acc : List Term) (hgap : Token.skip s = .ok s')
    (hstart : StartsTerm s') (h : assignment body fuel s = .ok (t, ')' :: rest)) :
    arguments body (fuel + 1) acc s = .ok ((t :: acc).reverse, rest) := by
  rw [arguments_of_assignment acc hgap hstart h]
  rfl

theorem arguments_more {s' : List Char} (acc : List Term) (hgap : Token.skip s = .ok s')
    (hstart : StartsTerm s') (h : assignment body fuel s = .ok (t, ',' :: rest)) :
    arguments body (fuel + 1) acc s = arguments body fuel (t :: acc) rest := by
  rw [arguments_of_assignment acc hgap hstart h]
  rfl

end

/-! ## Checks -/

/-- The functions that the checks call. -/
def helpers : List String := ["__nextOutput", "__deepStrictEqual", "__assertOutputDrained"]

theorem read_helper {x : String} (hx : x ∈ helpers) (s : List Char) :
    Token.skip (x.toList ++ '(' :: s) = .ok (x.toList ++ '(' :: s) ∧
      Token.read (x.toList ++ '(' :: s) = .ok (.name x, '(' :: s) := by
  simp only [helpers, List.mem_cons, List.not_mem_nil, or_false] at hx
  rcases hx with rfl | rfl | rfl <;> exact ⟨rfl, rfl⟩

theorem startsTerm_helper {x : String} (hx : x ∈ helpers) (s : List Char) :
    StartsTerm (x.toList ++ '(' :: s) := by
  obtain ⟨hskip, hread⟩ := read_helper hx s
  refine ⟨hskip, ?_, .name x, _, hread, rfl, fun _ => nofun, nofun, ?_⟩
  · rw [startsArrow, hread]
    rfl
  · intro h
    rw [Token.name.injEq] at h
    rw [h] at hx
    exact absurd hx (by decide)

section

variable {body : List Char → Rest} {fuel : Nat} {inside rest : List Char}

theorem chain_helper {x : String} (hx : x ∈ helpers) {ts : List Term}
    (h : arguments body (fuel + 1) [] inside = .ok (ts, rest)) (hend : EndsTerm rest) :
    chain body (fuel + 3) (x.toList ++ '(' :: inside) = .ok (Step.call x ts, rest) := by
  obtain ⟨hskip, hread⟩ := read_helper hx inside
  rw [chain, operand_name hskip hread]
  exact links_call h hend

theorem read_quoteAscii (text rest : List Char) :
    Token.read (Json.quoteAscii text ++ rest) = .ok (.text (String.ofList text), rest) := by
  rw [Json.quoteAscii_append]
  show (Token.readText '"' _).map _ = _
  rw [Token.readText_escape]
  rfl

theorem startsTerm_quoteAscii (text rest : List Char) :
    StartsTerm (Json.quoteAscii text ++ rest) := by
  refine ⟨rfl, ?_, .text _, _, read_quoteAscii text rest, rfl,
    fun _ => nofun, nofun, nofun⟩
  rw [startsArrow, read_quoteAscii]

theorem chain_quoteAscii (text : List Char) (hend : EndsTerm rest) :
    chain body (fuel + 2) (Json.quoteAscii text ++ rest) =
      .ok (.text (String.ofList text), rest) := by
  rw [chain, operand_text rfl (read_quoteAscii text rest)]
  exact links_of_endsTerm hend

end

section

variable {body : List Char → Rest}

theorem startsTerm_nextOutput (rest : List Char) : StartsTerm (Assertion.nextOutput ++ rest) :=
  startsTerm_helper (x := "__nextOutput") (by decide) (')' :: rest)

/-- The call that takes a line is read from the source of the check. -/
theorem assignment_nextOutput (fuel : Nat) (rest : List Char) :
    assignment body (fuel + 10) (Assertion.nextOutput ++ ',' :: rest) =
      .ok (Step.call "__nextOutput" [], ',' :: rest) := by
  have hin : "__nextOutput" ∈ helpers := by decide
  have hstart := startsTerm_nextOutput (',' :: rest)
  have hchain : chain body (fuel + 3) (Assertion.nextOutput ++ ',' :: rest) = _ :=
    chain_helper hin (arguments_none [] _) (endsTerm_comma rest)
  exact assignment_of_chain hstart.skip hstart hchain (endsTerm_comma rest)

theorem assignment_text (fuel : Nat) (text rest : List Char) :
    assignment body (fuel + 9) (' ' :: (Json.quoteAscii text ++ ')' :: rest)) =
      .ok (.text (String.ofList text), ')' :: rest) :=
  have hstart := startsTerm_quoteAscii text (')' :: rest)
  assignment_of_chain (by rfl) hstart (chain_quoteAscii text (endsTerm_bracket rest))
    (endsTerm_bracket rest)

/-- The arguments of the check of a line. -/
theorem arguments_check (fuel : Nat) (text rest : List Char) :
    arguments body (fuel + 11) []
        (Assertion.nextOutput ++ ',' :: ' ' :: (Json.quoteAscii text ++ ')' :: rest)) =
      .ok ([Step.call "__nextOutput" [], .text (String.ofList text)], rest) := by
  have hnext := startsTerm_nextOutput (',' :: ' ' :: (Json.quoteAscii text ++ ')' :: rest))
  have htext := startsTerm_quoteAscii text (')' :: rest)
  rw [arguments_more [] hnext.skip hnext (assignment_nextOutput fuel _),
    arguments_last _ (by rfl) htext (assignment_text fuel text rest)]
  rfl

theorem expectOutput_eq (text rest : List Char) :
    Assertion.expectOutput text false ++ rest =
      "__deepStrictEqual".toList ++ '(' :: (Assertion.nextOutput ++
        ',' :: ' ' :: (Json.quoteAscii text ++ ')' :: ';' :: rest)) := by
  have hopen : "__deepStrictEqual(".toList = "__deepStrictEqual".toList ++ ['('] := rfl
  show "__deepStrictEqual(".toList ++ Assertion.nextOutput ++ [',', ' '] ++
    Json.quoteAscii text ++ [')', ';'] ++ rest = _
  simp only [hopen, List.append_assoc, List.cons_append, List.nil_append]

theorem drained_eq (rest : List Char) :
    Assertion.drained ++ rest = "__assertOutputDrained".toList ++ '(' :: ')' :: ';' :: rest := by
  have hopen : Assertion.drained = "__assertOutputDrained".toList ++ ['(', ')', ';'] := rfl
  rw [hopen, List.append_assoc]
  rfl

variable {s rest : List Char}

theorem expression_of_assignment {fuel : Nat} {t : Term}
    (h : assignment body (fuel + 1) s = .ok (t, ';' :: rest)) :
    expression body (fuel + 2) s = .ok (t, ';' :: rest) := by
  rw [expression, h]
  rfl

theorem expression_check (fuel : Nat) (text : List Char)
    (hgap : Token.skip s = .ok (Assertion.expectOutput text false ++ rest)) :
    expression body (fuel + 21) s =
      .ok (Session.checkTerm (String.ofList text), ';' :: rest) := by
  rw [expectOutput_eq] at hgap
  have hin : "__deepStrictEqual" ∈ helpers := by decide
  have hend := endsTerm_semicolon rest
  exact expression_of_assignment (assignment_of_chain hgap (startsTerm_helper hin _)
    (chain_helper hin (arguments_check fuel text (';' :: rest)) hend) hend)

theorem expression_drained (fuel : Nat)
    (hgap : Token.skip s = .ok (Assertion.drained ++ rest)) :
    expression body (fuel + 21) s = .ok (Session.drainedTerm, ';' :: rest) := by
  rw [drained_eq] at hgap
  have hin : "__assertOutputDrained" ∈ helpers := by decide
  have hend := endsTerm_semicolon rest
  exact expression_of_assignment (assignment_of_chain hgap (startsTerm_helper hin _)
    (chain_helper hin (arguments_none [] (';' :: rest)) hend) hend)

end

section

variable {x : String} {s inside rest last : List Char} {t : Term}

theorem read_of_skip (hx : x ∈ helpers) (hgap : Token.skip s = .ok (x.toList ++ '(' :: inside)) :
    Token.read s = .ok (.name x, '(' :: inside) := by
  obtain ⟨hskip, hread⟩ := read_helper hx inside
  rw [← hread, Token.read, hgap, Token.read, hskip]

/-- A call of a helper is a statement of its own. -/
theorem statement_helper (hx : x ∈ helpers)
    (hgap : Token.skip s = .ok (x.toList ++ '(' :: inside))
    (hterm : ∀ body fuel, expression body (fuel + 21) s = .ok (t, ';' :: rest)) (fuel : Nat) :
    statement {} (fuel + 2) s = .ok ([.run t], rest) := by
  have hread := read_of_skip hx hgap
  have hdepth : ∃ n, depthFor s = n + 21 := by
    cases s with
    | nil => cases hread
    | cons c s => exact ⟨20 * s.length + 19, by rw [depthFor, List.length_cons]; omega⟩
  obtain ⟨n, hn⟩ := hdepth
  have hspoken : spoken (fuel + 1) s = .ok ([.run t], rest) := by
    rw [spoken, hn, hterm]
    rfl
  rw [statement, hread]
  simp only [helpers, List.mem_cons, List.not_mem_nil, or_false] at hx
  rcases hx with rfl | rfl | rfl <;> exact hspoken

/-- The statements behind a call are read on from its semicolon. -/
theorem statements_helper (hx : x ∈ helpers) {fuel : Nat} {steps : List Statement}
    (hgap : Token.skip s = .ok (x.toList ++ '(' :: inside))
    (hterm : ∀ body fuel, expression body (fuel + 21) s = .ok (t, ';' :: rest))
    (hrest : statements {} (fuel + 2) rest = .ok (steps, last)) :
    statements {} (fuel + 3) s = .ok (.run t :: steps, last) := by
  have hread := read_of_skip hx hgap
  rw [statements, hread]
  simp only [bind, Except.bind, statement_helper hx hgap hterm fuel, hrest]
  rfl

end

/-! ## The text of a script of checks -/

/-- The lines that check lines of the console, and the one that checks that none is left, where
the flag asks for it. -/
def checkLines (texts : List String) (drained : Bool) : List Line :=
  texts.map (fun text => Assertion.expectOutput text.toList false) ++
    if drained then [Assertion.drained] else []

/-- The text of the lines. -/
def checksText (texts : List String) (drained : Bool) : List Char :=
  Code.text (checkLines texts drained).reverse

theorem checksText_cons (text : String) (texts : List String) (drained : Bool) :
    checksText (text :: texts) drained =
      Assertion.expectOutput text.toList false ++ '\n' :: checksText texts drained := by
  show Code.text (_ :: checkLines texts drained).reverse = _
  rw [checksText, Code.text, Code.text, List.reverse_reverse, List.reverse_reverse,
    List.map_cons, List.flatten_cons, List.append_assoc]
  rfl

theorem length_le_checksText (texts : List String) (drained : Bool) :
    texts.length ≤ (checksText texts drained).length := by
  induction texts with
  | nil => exact Nat.zero_le _
  | cons text texts ih =>
      rw [checksText_cons, List.length_append, List.length_cons, List.length_cons]
      omega

/-- Where a check starts, nothing is skipped. -/
theorem skip_checksText (texts : List String) (drained : Bool) :
    Token.skip (checksText texts drained) = .ok (checksText texts drained) := by
  cases texts with
  | nil =>
      cases drained with
      | false => rfl
      | true => rfl
  | cons text texts =>
      rw [checksText_cons, expectOutput_eq]
      exact (startsTerm_helper (by decide) _).skip

/-- The text is read as its checks, from its start or from the end of the line before. -/
theorem statements_checksText (fuel : Nat) (texts : List String) (drained : Bool)
    {s : List Char} (hgap : Token.skip s = .ok (checksText texts drained)) :
    ∃ rest, statements {} (fuel + texts.length + 4) s =
        .ok (Session.checkSteps texts drained, rest) ∧
      Token.read rest = .ok (.stop, []) := by
  induction texts generalizing s with
  | nil =>
      cases drained with
      | false =>
          -- Nothing is left, or the line feed of the last check.
          have hread : Token.read s = .ok (.stop, []) := by
            rw [Token.read, hgap]
            rfl
          refine ⟨s, ?_, hread⟩
          rw [statements, hread]
          rfl
      | true =>
          have hdrained : Token.skip s = .ok (Assertion.drained ++ ['\n']) := hgap
          have hterm : ∀ body n, expression body (n + 21) s =
              .ok (Session.drainedTerm, ';' :: ['\n']) :=
            fun _ n => expression_drained n hdrained
          rw [drained_eq] at hdrained
          exact ⟨['\n'], statements_helper (by decide) hdrained hterm rfl, rfl⟩
  | cons text texts ih =>
      have hnext : Token.skip ('\n' :: checksText texts drained) =
          .ok (checksText texts drained) := skip_checksText texts drained
      obtain ⟨rest, hrest, hstop⟩ := ih hnext
      rw [checksText_cons] at hgap
      have hterm : ∀ body n, expression body (n + 21) s =
          .ok (Session.checkTerm text, ';' :: '\n' :: checksText texts drained) := by
        intro body n
        rw [expression_check n _ hgap, String.ofList_toList]
      rw [expectOutput_eq] at hgap
      exact ⟨rest, statements_helper (by decide) hgap hterm hrest, hstop⟩

theorem withoutCommand_checksText (texts : List String) (drained : Bool) :
    withoutCommand (checksText texts drained) = checksText texts drained := by
  cases texts with
  | nil =>
      cases drained with
      | false => rfl
      | true => rfl
  | cons text texts =>
      rw [checksText_cons, expectOutput_eq]
      rfl

/-- A script of checks is read as its checks. -/
theorem script_checksText (texts : List String) (drained : Bool) :
    script (checksText texts drained) = .ok (Session.checkSteps texts drained) := by
  have hdepth : depthFor (checksText texts drained) =
      (depthFor (checksText texts drained) - texts.length - 4) + texts.length + 4 := by
    have h := length_le_checksText texts drained
    rw [depthFor]
    omega
  obtain ⟨rest, hsteps, hstop⟩ := statements_checksText
    (depthFor (checksText texts drained) - texts.length - 4) texts drained
    (skip_checksText texts drained)
  rw [script, withoutCommand_checksText, hdepth, hsteps]
  dsimp only
  rw [hstop]
  rfl

end DocExamples.Script.Reader

/-!
# Which lines the checks of an example accept

A console that was empty receives lines from the host's side, and a script of checks runs
after them. It runs through exactly if the lines are the texts that it checks, and without
its last check exactly if the texts are a beginning of the lines. The checks are run from
their text, so this joins what is read out of the text, what the host answers to each
request, and the order in which the console gives its lines back.
-/

namespace DocExamples

namespace Sandbox

/-- A sandbox after payloads were written to its console. -/
def logAll (s : Sandbox) (payloads : List String) : Sandbox :=
  payloads.foldl (fun s payload => (s.call (.log payload)).2) s

/-- Lines are queued in the order in which they are written. -/
theorem lines_logAll {payloads lines : List String}
    (hlines : payloads.map lineOf = lines.map .ok) (s : Sandbox) :
    (s.logAll payloads).console.lines = s.console.lines ++ lines := by
  induction payloads generalizing s lines with
  | nil =>
      rw [List.map_nil, eq_comm, List.map_eq_nil_iff] at hlines
      rw [hlines, List.append_nil]
      rfl
  | cons payload payloads ih =>
      cases lines with
      | nil => cases hlines
      | cons line lines =>
          rw [List.map_cons, List.map_cons, List.cons.injEq] at hlines
          have hcall : s.call (.log payload) =
              (.ok "", { s with console := s.console.log line }) := by
            rw [call, hlines.1]
          show (((s.call (.log payload)).2).logAll payloads).console.lines = _
          rw [hcall, ih hlines.2, Console.lines_log, List.append_assoc]
          rfl

end Sandbox

namespace Script.Session

theorem intact_start (sandbox : Sandbox) : (start sandbox).Intact :=
  ⟨fun _ _ => rfl, Nat.le_refl _⟩

/-- The source runs through without anything thrown. -/
def RunsThrough (source : List Char) (s : Session) : Prop :=
  ∃ v s', Gives (run machine (String.ofList source)) s v s'

theorem runsThrough_checksText_iff (texts : List String) (drained : Bool) {s : Session}
    (hs : s.Intact) :
    RunsThrough (Reader.checksText texts drained) s ↔
      Accepts texts drained s.sandbox.console.lines := by
  rw [RunsThrough, run, String.toList_ofList, Reader.script_checksText]
  exact gives_runScript_iff _ texts drained hs

/-- Behind an empty console that lines were written to, the checks of texts run through with
the last check exactly if the lines are the texts, and without it exactly if the texts are a
beginning of the lines. A session is intact from its start (`intact_start`). -/
theorem checks_run_through_iff {s : Session} {payloads lines : List String} (hs : s.Intact)
    (hempty : s.sandbox.console.lines = [])
    (hlines : payloads.map Sandbox.lineOf = lines.map .ok) (texts : List String) :
    let logged : Session := { s with sandbox := s.sandbox.logAll payloads }
    (RunsThrough (Reader.checksText texts true) logged ↔ lines = texts) ∧
      (RunsThrough (Reader.checksText texts false) logged ↔ texts <+: lines) := by
  intro logged
  have hconsole : logged.sandbox.console.lines = lines := by
    rw [show logged.sandbox = s.sandbox.logAll payloads from rfl, Sandbox.lines_logAll hlines,
      hempty, List.nil_append]
  have hlogged : logged.Intact := ⟨hs.names, hs.next⟩
  rw [runsThrough_checksText_iff _ _ hlogged, runsThrough_checksText_iff _ _ hlogged, hconsole]
  exact ⟨Iff.rfl, Iff.rfl⟩

/-- Of a line with a quote and an empty one, both have to be checked before the last check. -/
theorem checks_run_through_of_quoted_line :
    let s : Session := start ⟨{}, [], {}⟩
    let logged : Session :=
      { s with sandbox := s.sandbox.logAll ["[\"a\\\"b\", 1]", "[\"\"]"] }
    RunsThrough (Reader.checksText ["a\"b 1", ""] true) logged ∧
      RunsThrough (Reader.checksText ["a\"b 1"] false) logged ∧
      ¬ RunsThrough (Reader.checksText ["a\"b 1"] true) logged := by
  have hlines : ["[\"a\\\"b\", 1]", "[\"\"]"].map Sandbox.lineOf =
      ["a\"b 1", ""].map .ok := by
    have hfirst : (Sandbox.lineOf "[\"a\\\"b\", 1]").toOption = some "a\"b 1" := by
      decide +kernel
    have hsecond : Sandbox.lineOf "[\"\"]" = .ok "" := rfl
    rw [List.map_cons, List.map_singleton, hsecond]
    cases h : Sandbox.lineOf "[\"a\\\"b\", 1]" with
    | error e =>
        rw [h] at hfirst
        cases hfirst
    | ok line =>
        rw [h] at hfirst
        cases hfirst
        rfl
  have h := checks_run_through_iff (intact_start ⟨{}, [], {}⟩) rfl hlines
  exact ⟨(h _).1.2 rfl, (h _).2.2 (by decide), fun hrun => absurd ((h _).1.1 hrun) (by decide)⟩

end Script.Session

end DocExamples
