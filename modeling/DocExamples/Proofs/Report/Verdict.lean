import DocExamples.Proofs.Document.Lines
import DocExamples.Proofs.Number.Digits
import DocExamples.Report.Terminal
import DocExamples.Service.App

/-!
# One verdict for the terminal and the service

A run is reported in two ways. A command writes its report on the terminal and ends with an exit
code; the service answers with counts, a verdict and a list of failures. Both start from the
results and from the documents without results, each on its own, so a failure that one of them left
out would stay hidden from those who use it.

The verdicts meet in `Report.Clean`, which says what a run without faults is. As for the rest, the
answer of the service holds everything that the terminal is handed: `Response.reportLines` draws the
lines of the report from an answer alone, and the report of a run is the one drawn from its answer.

What the terminal makes of the lines is up to its library, and no library shows every text as it is.
`TerminalLibrary.Documented` says what is known of one where a text neither looks like markup nor is
changed for another reason. Such a failure is seen as it stands in the answer unless its diagnostic
ends with a lone backslash. Such a backslash could change what stands behind it, so a second one is
written with it, and where nothing stands behind it both are seen.
-/

namespace DocExamples

/-! ## Counts and verdict -/

theorem Summary.total (results : List Result) :
    (Summary.ofResults results).passed + (Summary.ofResults results).failed +
      (Summary.ofResults results).skipped = results.length := by
  induction results with
  | nil => rfl
  | cons r rest ih =>
      simp only [ofResults, List.countP_cons, List.length_cons] at ih ⊢
      cases r.status <;> simp <;> omega

namespace Report

/-- A run without faults: no example failed, and every document has results. -/
structure Clean (results : List Result) (errors : List DocumentError) : Prop where
  none_failed : ∀ r ∈ results, r.status ≠ .fail
  all_read : errors = []

theorem succeeded_iff (results : List Result) (errors : List DocumentError) :
    succeeded results errors = true ↔ Clean results errors := by
  have hfailed : (Summary.ofResults results).success = true ↔
      ∀ r ∈ results, r.status ≠ .fail := by
    simp [Summary.success, Summary.ofResults, List.countP_eq_zero]
  rw [succeeded, Bool.and_eq_true, hfailed, List.isEmpty_iff]
  exact ⟨fun h => ⟨h.1, h.2⟩, fun h => ⟨h.none_failed, h.all_read⟩⟩

end Report

theorem Command.completed_code {σ : Type} (l : TerminalLibrary) (o : RunOptions)
    (records : List Log.Record) (outcome : Run.Outcome σ) :
    (completed l o records outcome).ending.code = 0 ↔
      Report.Clean outcome.results outcome.errors := by
  rw [← Report.succeeded_iff, completed]
  cases Report.succeeded outcome.results outcome.errors <;> simp

/-! ## The report drawn from an answer -/

namespace Service

section Lines

variable (escape : List Char → List Char)

/-- The hint for a failure in an answer. -/
def FailureReport.hint (f : FailureReport) : List (List Char) :=
  match Details.undefinedName? f.diagnostic.toList with
  | none => []
  | some name => Markup.hintLines escape name

/-- The line with the diagnostic of a failure in an answer. -/
def FailureReport.diagnosticLine (f : FailureReport) : Printed :=
  { markup := escape f.diagnostic.toList, highlight := false }

/-- The lines for a failure in an answer. -/
def FailureReport.lines (f : FailureReport) : List Printed :=
  Report.locationLine escape f.location.toList :: f.diagnosticLine escape ::
    (f.hint escape).map fun line => { markup := line, highlight := false }

/-- The lines below the failures and errors of an answer. -/
def Response.tallyLines (a : Response) : List Printed :=
  [Report.countLine "green" "Passed" a.passed] ++
    (if a.skipped = 0 then [] else [Report.countLine "yellow" "Skipped" a.skipped]) ++
    if a.success then [Report.successLine]
    else
      (if a.failed = 0 then [] else [Report.countLine "red" "Failed" a.failed]) ++
        if a.errors.isEmpty then [] else
          [Report.countLine "red" "Unparseable documents" a.errors.length]

/-- The lines of the report that an answer stands for. -/
def Response.reportLines (a : Response) : List Printed :=
  [{ markup := [] }] ++ a.failures.flatMap (FailureReport.lines escape) ++
    a.errors.map (fun e =>
      { markup := Markup.coloured "red" ("Error - ".toList ++ escape e.toList) }) ++ a.tallyLines

/-- A failed result as it stands in an answer. -/
def FailureReport.ofResult (r : Result) : FailureReport := ⟨r.location, Report.detail r⟩

theorem FailureReport.lines_ofResult (r : Result) :
    (ofResult r).lines escape = Report.failureLines escape r := by
  have hdetail : (Report.detail r).toList = Details.relevant r.diagnostic.toList :=
    String.toList_ofList
  cases hname : Details.undefinedName? (Details.relevant r.diagnostic.toList) <;>
    simp only [lines, hint, diagnosticLine, ofResult, Report.failureLines, hdetail, hname]

variable (results : List Result) (errors : List DocumentError)

theorem Response.ofRun_failures :
    (ofRun results errors).failures =
      (results.filter fun r => r.status == .fail).map FailureReport.ofResult :=
  rfl

theorem Response.tallyLines_ofRun :
    (ofRun results errors).tallyLines =
      [Report.countLine "green" "Passed" (Summary.ofResults results).passed] ++
        (if (Summary.ofResults results).skipped = 0 then []
          else [Report.countLine "yellow" "Skipped" (Summary.ofResults results).skipped]) ++
        Report.verdictLines (Summary.ofResults results) errors := by
  simp only [tallyLines, ofRun, List.isEmpty_map, List.length_map]
  rfl

theorem Response.reportLines_ofRun :
    (ofRun results errors).reportLines escape = Report.lines escape results errors := by
  have hfailures :
      (ofRun results errors).failures.flatMap (FailureReport.lines escape) =
        (Report.failures results).flatMap (Report.failureLines escape) := by
    rw [ofRun_failures, List.flatMap_map, Report.failures]
    simp only [FailureReport.lines_ofResult]
  have herrors : (ofRun results errors).errors.map (fun e => ({
        markup := Markup.coloured "red" ("Error - ".toList ++ escape e.toList) } : Printed)) =
      errors.map (Report.errorLine escape) := by
    simp only [ofRun, List.map_map]
    rfl
  simp only [reportLines, hfailures, herrors, tallyLines_ofRun, Report.lines, List.append_assoc]

end Lines

end Service

/-! ## What is known of a library for the terminal -/

/-- A text that ends with a backslash which has no other in front of it. -/
def EndsInLoneBackslash (s : List Char) : Prop :=
  ∃ t, s = t ++ ['\\'] ∧ t.getLast? ≠ some '\\'

/-- A text that a terminal of a width shows as it is. It has no tags and no controls but line
feeds, its lines fit, and nothing between two of its colons is the name of a sign. -/
structure Literal (width : Nat) (isSign : List Char → Prop) (s : List Char) : Prop where
  characters : ∀ c ∈ s, c = '\n' ∨ ' ' ≤ c ∧ c ≠ '['
  fits : ∀ line ∈ Text.splitLines s, Text.columns line ≤ width
  unsigned : ∀ before name after, s = before ++ ':' :: (name ++ ':' :: after) → ¬ isSign name

/-- What is known of the escape of a text without brackets: only a lone backslash at its end is
written differently. -/
structure Markup.Escapes (escape : List Char → List Char) : Prop where
  eq_self : ∀ s, '[' ∉ s → ¬ EndsInLoneBackslash s → escape s = s
  doubled : ∀ s, '[' ∉ s → EndsInLoneBackslash s → escape s = s ++ ['\\']

/-- What is known of a library that shows lines on a terminal of a width, some names between colons
as signs. -/
structure TerminalLibrary.Documented (l : TerminalLibrary) (width : Nat)
    (isSign : List Char → Prop) : Prop where
  escapes : Markup.Escapes l.escape
  shown_literal : ∀ line, Literal width isSign line.markup →
    l.shown line = line.markup ++ line.ending
  shown_red : ∀ s, Literal width isSign s → s.getLast? ≠ some '\\' →
    l.shown { markup := Markup.coloured "red" s } = s ++ ['\n']

theorem Literal.not_mem_bracket {width : Nat} {isSign : List Char → Prop} {s : List Char}
    (h : Literal width isSign s) : '[' ∉ s := by
  intro hmem
  rcases h.characters _ hmem with hline | ⟨-, hne⟩
  · exact absurd hline (by decide)
  · exact hne rfl

theorem literal_of_line {width : Nat} {isSign : List Char → Prop} {s : List Char}
    (hs : (s.all fun c => decide (' ' ≤ c) && c != '[') = true) (hwidth : Text.columns s ≤ width)
    (hsign : ∀ before name after, s = before ++ ':' :: (name ++ ':' :: after) → ¬ isSign name) :
    Literal width isSign s := by
  have hprintable : ∀ c ∈ s, ' ' ≤ c ∧ c ≠ '[' := by
    intro c hc
    have hboth := List.all_eq_true.1 hs c hc
    rw [Bool.and_eq_true, decide_eq_true_iff, bne_iff_ne] at hboth
    exact hboth
  refine ⟨fun c hc => .inr (hprintable c hc), fun line hline => ?_, hsign⟩
  have hfeed : '\n' ∉ s := fun hmem => absurd (hprintable _ hmem).1 (by decide)
  rw [Text.splitLines_of_not_mem hfeed, List.mem_singleton] at hline
  rw [hline]
  exact hwidth

/-! ## A plain terminal -/

namespace Terminal

theorem backslashes_append_cons (n : Nat) (s : List Char) :
    backslashes n ++ '\\' :: s = backslashes (n + 1) ++ s := by
  rw [backslashes, backslashes, List.replicate_succ', List.append_assoc]
  rfl

theorem escapeTags_of_not_mem {s : List Char} (h : '[' ∉ s) (n : Nat) :
    escapeTags n s = backslashes n ++ s := by
  induction s generalizing n with
  | nil => rw [escapeTags, List.append_nil]
  | cons c rest ih =>
      obtain ⟨hc, hrest⟩ := List.ne_and_not_mem_of_not_mem_cons h
      by_cases hslash : c = '\\'
      · rw [escapeTags, if_pos hslash, ih hrest, hslash, backslashes_append_cons]
      · have hnot : ¬ (c = '[' && isTag rest) = true := by simp [Ne.symm hc]
        rw [escapeTags, if_neg hslash, if_neg hnot, ih hrest]
        rfl

theorem escapes : Markup.Escapes escape where
  eq_self := by
    intro s hmem hend
    rw [escape, escapeTags_of_not_mem hmem]
    split
    · rfl
    · next rest hnot hreverse =>
        refine absurd ⟨rest.reverse, List.reverse_eq_cons_iff.1 hreverse, fun hlast => ?_⟩ hend
        rw [List.getLast?_reverse] at hlast
        obtain ⟨more, hmore⟩ := List.head?_eq_some_iff.1 hlast
        exact hnot more hmore
    · rfl
  doubled := by
    intro s hmem hend
    obtain ⟨t, ht, hlast⟩ := hend
    have hreverse : s.reverse = '\\' :: t.reverse := by
      rw [ht, List.reverse_append]
      rfl
    rw [escape, escapeTags_of_not_mem hmem]
    split
    · next rest heq =>
        refine absurd ?_ hlast
        rw [← List.head?_reverse, (List.cons.inj (hreverse.symm.trans heq)).2]
        rfl
    · rfl
    · next _ hnot => exact absurd hreverse (hnot t.reverse)

theorem dropTags_cons {c : Char} (hc : '[' ≠ c) (s : List Char) (n : Nat) :
    dropTags false n (c :: s) =
      if c = '\\' then dropTags false (n + 1) s else backslashes n ++ c :: dropTags false 0 s := by
  rw [dropTags, if_neg Bool.false_ne_true, if_neg (Ne.symm hc)]

theorem dropTags_of_not_mem {s : List Char} (h : '[' ∉ s) (n : Nat) :
    dropTags false n s = backslashes n ++ s := by
  induction s generalizing n with
  | nil => rw [dropTags, List.append_nil]
  | cons c rest ih =>
      obtain ⟨hc, hrest⟩ := List.ne_and_not_mem_of_not_mem_cons h
      rw [dropTags_cons hc]
      split
      · next hslash => rw [ih hrest, hslash, backslashes_append_cons]
      · rw [ih hrest]
        rfl

/-- Where a tag stands behind a text without brackets, the text stays as it is unless it ends with
a backslash. -/
theorem dropTags_append_tag {s rest : List Char} (h : '[' ∉ s) (htag : isTag rest = true) (n : Nat)
    (hlast : (backslashes n ++ s).getLast? ≠ some '\\') :
    dropTags false n (s ++ '[' :: rest) = backslashes n ++ s ++ dropTags true 0 rest := by
  induction s generalizing n with
  | nil =>
      cases n with
      | zero =>
          rw [List.nil_append, dropTags, if_neg Bool.false_ne_true, if_neg (by decide), if_pos rfl,
            if_pos htag]
          rfl
      | succ n =>
          refine absurd ?_ hlast
          rw [List.append_nil, backslashes, List.getLast?_replicate, if_neg (Nat.succ_ne_zero n)]
  | cons c t ih =>
      obtain ⟨hc, ht⟩ := List.ne_and_not_mem_of_not_mem_cons h
      rw [List.cons_append, dropTags_cons hc]
      split
      · next hslash =>
          subst hslash
          rw [backslashes_append_cons] at hlast ⊢
          exact ih ht (n + 1) hlast
      · have hrest : (backslashes 0 ++ t).getLast? ≠ some '\\' := by
          intro hend
          have hend : t.getLast? = some '\\' := hend
          refine hlast ?_
          rw [List.getLast?_append, List.getLast?_cons, hend]
          rfl
        rw [ih ht 0 hrest, List.append_assoc (backslashes n)]
        rfl

theorem shown_of_literal {width : Nat} {isSign : List Char → Prop} {s : List Char}
    (h : Literal width isSign s) : shown s = s := by
  have hplain : ∀ c ∈ s, c ≠ '\t' ∧ isDropped c = false := by
    intro c hc
    rcases h.characters c hc with rfl | ⟨hprintable, -⟩
    · exact ⟨by decide, by decide⟩
    · have hn : 32 ≤ c.toNat := hprintable
      refine ⟨?_, ?_⟩
      · rintro rfl
        exact absurd hn (by decide)
      · simp [isDropped]
        omega
  have hkept : s.filter (fun c => !isDropped c) = s :=
    List.filter_eq_self.2 fun c hc => by rw [(hplain c hc).2]; rfl
  have hlines : (Text.splitLines s).map expandTabs = Text.splitLines s := by
    refine (List.map_congr_left fun line hline => ?_).trans (List.map_id _)
    have htab : '\t' ∉ line := fun hmem =>
      (hplain _ (Text.subset_of_mem_splitLines hline hmem)).1 rfl
    rw [expandTabs, Text.splitAt_of_not_mem htab, joinTabbed]
    rfl
  rw [shown, hkept, hlines, Text.joinWith_splitLines]

theorem documented (width : Nat) (isSign : List Char → Prop) :
    library.Documented width isSign where
  escapes := escapes
  shown_literal := by
    intro line h
    show shown (dropTags false 0 line.markup) ++ line.ending = _
    rw [dropTags_of_not_mem h.not_mem_bracket]
    exact congrArg (· ++ line.ending) (shown_of_literal h)
  shown_red := by
    intro s h hlast
    have hdropped : dropTags false 0 (Markup.coloured "red" s) = s := by
      have hopen : dropTags false 0 (Markup.coloured "red" s) =
          dropTags false 0 (s ++ '[' :: "/red]".toList) := by
        simp [Markup.coloured, dropTags, isTag, startsTag, backslashes]
      rw [hopen, dropTags_append_tag h.not_mem_bracket (by decide) 0 hlast]
      exact List.append_nil s
    show shown (dropTags false 0 (Markup.coloured "red" s)) ++ ['\n'] = _
    rw [hdropped, shown_of_literal h]

end Terminal

/-! ## A failure as it is seen -/

theorem Result.location_getLast? (r : Result) :
    ∃ c, r.location.toList.getLast? = some c ∧ c.isDigit = true := by
  have hnumber : ∃ front n, r.location = front ++ toString (n : Nat) := by
    rw [location]
    split <;> exact ⟨_, _, rfl⟩
  obtain ⟨front, n, hlocation⟩ := hnumber
  have htext : (toString n).toList = Number.natText n := String.toList_ofList
  obtain ⟨c, hc⟩ := Option.ne_none_iff_exists'.1 fun h =>
    Number.natText_ne_nil n (List.getLast?_eq_none_iff.1 h)
  refine ⟨c, ?_, Number.isDigit_of_mem_natText (List.mem_of_getLast? hc)⟩
  rw [hlocation, String.toList_append, htext, List.getLast?_append, hc]
  rfl

namespace Service

/-- A failure that is seen as it is, whether or not a backslash is added to its diagnostic. -/
structure FailureReport.IsLiteral (f : FailureReport) (width : Nat)
    (isSign : List Char → Prop) : Prop where
  location : Literal width isSign ("Failed - ".toList ++ f.location.toList)
  diagnostic : Literal width isSign f.diagnostic.toList
  doubled : Literal width isSign (f.diagnostic.toList ++ ['\\'])

section Seen

variable {l : TerminalLibrary} {width : Nat} {isSign : List Char → Prop}

theorem FailureReport.shown_locationLine (hl : l.Documented width isSign) (r : Result)
    (h : (ofResult r).IsLiteral width isSign) :
    l.shown (Report.locationLine l.escape r.location.toList) =
      "Failed - ".toList ++ r.location.toList ++ ['\n'] := by
  obtain ⟨c, hlast, hdigit⟩ := r.location_getLast?
  have hslash : c ≠ '\\' := by
    rintro rfl
    exact absurd hdigit (by decide)
  have hescape : l.escape r.location.toList = r.location.toList := by
    refine hl.escapes.eq_self _ (fun hmem => h.location.not_mem_bracket ?_) ?_
    · exact List.mem_append_right _ hmem
    · rintro ⟨t, ht, -⟩
      rw [ht, List.getLast?_concat] at hlast
      exact hslash (Option.some.inj hlast).symm
  rw [Report.locationLine, hescape]
  refine hl.shown_red _ h.location fun hend => hslash ?_
  rw [List.getLast?_append, hlast] at hend
  exact Option.some.inj hend

theorem FailureReport.shown_diagnosticLine (hl : l.Documented width isSign) {f : FailureReport}
    (h : f.IsLiteral width isSign) :
    (¬ EndsInLoneBackslash f.diagnostic.toList →
      l.shown (f.diagnosticLine l.escape) = f.diagnostic.toList ++ ['\n']) ∧
    (EndsInLoneBackslash f.diagnostic.toList →
      l.shown (f.diagnosticLine l.escape) = f.diagnostic.toList ++ ['\\', '\n']) := by
  have hmem := h.diagnostic.not_mem_bracket
  refine ⟨fun hend => ?_, fun hend => ?_⟩
  · rw [diagnosticLine, hl.escapes.eq_self _ hmem hend]
    exact hl.shown_literal _ h.diagnostic
  · rw [diagnosticLine, hl.escapes.doubled _ hmem hend, hl.shown_literal _ h.doubled,
      List.append_assoc]
    rfl

end Seen

/-! ## The verdict -/

/-- The exit code of a command, the result of its report and the answer of the service say the same
of a run, the counts leave out no result, and the lines that the terminal is handed are drawn from
the failures of the answer: those of the failed results, in their order. A failure that the terminal
shows as it is stands there as it stands in the answer, but for a lone backslash at the end of its
diagnostic. -/
theorem verdict_agrees {σ : Type} (l : TerminalLibrary) (o : Command.RunOptions)
    (records : List Log.Record) (results : List Result) (errors : List DocumentError)
    (run : Run σ) :
    let ending := (Command.completed l o records ⟨results, errors, run⟩).ending
    let answer := Response.ofRun results errors
    (Report.succeeded results errors = true ↔ Report.Clean results errors) ∧
      (ending.code = 0 ↔ Report.Clean results errors) ∧
      (answer.success = true ↔ Report.Clean results errors) ∧
      answer.passed + answer.failed + answer.skipped = results.length ∧
      answer.failures = (results.filter fun r => r.status == .fail).map
        (fun r => ⟨r.location, Report.detail r⟩) ∧
      ending.out =
        l.text (run.announced.flatMap Report.markers ++ answer.reportLines l.escape) ∧
      ∀ width isSign, l.Documented width isSign →
        ∀ f ∈ answer.failures, f.IsLiteral width isSign →
          l.shown (Report.locationLine l.escape f.location.toList) =
            "Failed - ".toList ++ f.location.toList ++ ['\n'] ∧
          (¬ EndsInLoneBackslash f.diagnostic.toList →
            l.shown (f.diagnosticLine l.escape) = f.diagnostic.toList ++ ['\n']) ∧
          (EndsInLoneBackslash f.diagnostic.toList →
            l.shown (f.diagnosticLine l.escape) = f.diagnostic.toList ++ ['\\', '\n']) := by
  intro ending answer
  refine ⟨Report.succeeded_iff results errors, Command.completed_code l o records _,
    Report.succeeded_iff results errors, Summary.total results,
    Response.ofRun_failures results errors, ?_, fun width isSign hl f hf hliteral => ⟨?_, ?_⟩⟩
  · rw [Response.reportLines_ofRun]
    rfl
  · obtain ⟨r, -, rfl⟩ := List.mem_map.1 hf
    exact FailureReport.shown_locationLine hl r hliteral
  · exact FailureReport.shown_diagnosticLine hl hliteral

/-- A run in which an example fails behind one that passes, and a plain terminal of eighty columns
without signs. -/
theorem verdict_agrees_on_one_failure :
    let results : List Result := [⟨.pass, { path := "doc.md", startLine := 1 }, "", none, none⟩,
      ⟨.fail, { path := "doc.md", startLine := 5 }, "boom\n    at eval", some 2, none⟩]
    let failure : FailureReport := ⟨"doc.md:7", "boom"⟩
    let l := Terminal.library
    ¬ Report.Clean results [] ∧ failure ∈ (Response.ofRun results []).failures ∧
      l.Documented 80 (fun _ => False) ∧ failure.IsLiteral 80 (fun _ => False) ∧
      l.shown (Report.locationLine l.escape failure.location.toList) =
        "Failed - doc.md:7\n".toList ∧
      l.shown (failure.diagnosticLine l.escape) = "boom\n".toList := by
  intro results failure l
  have hmem : failure ∈ (Response.ofRun results []).failures := by decide +kernel
  have hl := Terminal.documented 80 fun _ => False
  have hliteral : failure.IsLiteral 80 fun _ => False := by
    constructor <;> exact literal_of_line (by decide +kernel) (by decide +kernel) fun _ _ _ _ => id
  have hend : ¬ EndsInLoneBackslash failure.diagnostic.toList := by
    rintro ⟨t, ht, -⟩
    have hlast : failure.diagnostic.toList.getLast? = some '\\' := by
      rw [ht, List.getLast?_concat]
    exact absurd hlast (by decide +kernel)
  obtain ⟨hsucceeded, -, -, -, -, -, hseen⟩ :=
    verdict_agrees l {} [] results [] ({ engine := () } : Run Unit)
  obtain ⟨hlocation, hdiagnostic, -⟩ := hseen 80 _ hl failure hmem hliteral
  refine ⟨fun hclean => absurd (hsucceeded.2 hclean) (by decide +kernel), hmem, hl, hliteral,
    hlocation.trans ?_, (hdiagnostic hend).trans ?_⟩ <;> decide +kernel

/-- A diagnostic that ends with one backslash is seen with two by whatever library shows the
report. -/
theorem terminal_doubles_backslash :
    let results : List Result :=
      [⟨.fail, { path := "doc.md", startLine := 1 }, "ends with \\", none, none⟩]
    let failure : FailureReport := ⟨"doc.md:1", "ends with \\"⟩
    (Response.ofRun results []).failures = [failure] ∧
      (∀ (l : TerminalLibrary) (isSign : List Char → Prop), l.Documented 80 isSign →
        failure.diagnosticLine l.escape ∈ Report.lines l.escape results [] ∧
          l.shown (failure.diagnosticLine l.escape) = "ends with \\\\\n".toList) ∧
      Terminal.library.text (Report.lines Terminal.library.escape results []) =
        "\nFailed - doc.md:1\nends with \\\\\nPassed: 0\nFailed: 1\n" := by
  intro results failure
  have hanswer : (Response.ofRun results []).failures = [failure] := by decide +kernel
  refine ⟨hanswer, fun l isSign hl => ⟨?_, ?_⟩, by decide +kernel⟩
  · rw [← Response.reportLines_ofRun, Response.reportLines, hanswer]
    simp [FailureReport.lines]
  · have hend : EndsInLoneBackslash "ends with \\".toList :=
      ⟨"ends with ".toList, by decide, by decide⟩
    have hdoubled : Literal 80 isSign "ends with \\\\".toList := by
      refine literal_of_line (by decide +kernel) (by decide +kernel) fun before name after h => ?_
      have hmem : ':' ∈ "ends with \\\\".toList := by
        rw [h]
        exact List.mem_append_right _ List.mem_cons_self
      exact absurd hmem (by decide)
    rw [FailureReport.diagnosticLine, hl.escapes.doubled _ (by decide) hend]
    exact hl.shown_literal _ hdoubled

end Service

end DocExamples
