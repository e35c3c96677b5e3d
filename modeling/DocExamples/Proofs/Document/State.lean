import DocExamples.Proofs.Document.Concatenation
import DocExamples.Proofs.Document.Outline
import DocExamples.Proofs.Document.Standing

/-!
# The state between two lines

Between two lines a reader keeps the examples so far, whether a block comment is open in the open
one, whether an output block is open there, and how many of its lines have been checked. A step
relies on more than that: the end of a block of `//` lines puts its call behind the last line of
the code and does not look at it. In a comment the call would never run, and without a last line
it would take the place of code that is not there.

Neither happens. The last line of such code is the check that the block wrote last, or it is what
an annotation inside of the block has put there since. An annotation is a `//` line itself where it
leaves the block open, so it has no code in front of it, and all that it can put there is again a
comparison. `Draft.EndsCompared` says so and is kept by every line; the rest of
`Parse.Consistent` is put together from the invariants that earlier files carry.

Some of it holds by the shape of a `Parse` alone, in which a comment and a block are those of an
open example and code is ended lines. So the same reading is told once more of a `Reader`, where
each of these has a field of its own and a line changes the fields one by one. `Parse.reader_steps`
says that both take the same steps.
-/

namespace DocExamples

open Expectation

/-! ## Comparisons -/

namespace Assertion

/-- Holds of a line of code that compares two values and has nothing else on it. -/
def IsComparison (line : Line) : Prop :=
  ∃ indent actual expected, Text.isAllBlank indent = true ∧
    line = indent ++ equalCall actual expected

theorem isComparison_equalCall (actual expected : List Char) :
    IsComparison (equalCall actual expected) := ⟨[], actual, expected, rfl, rfl⟩

theorem IsComparison.expression?_ne_none {line : Line} (h : IsComparison line) :
    expression? line ≠ none := by
  obtain ⟨indent, actual, expected, hindent, rfl⟩ := h
  exact expression?_equalCall hindent actual expected

theorem IsComparison.not_blank {line : Line} (h : IsComparison line) :
    Text.isAllBlank line = false := by
  rw [← Bool.not_eq_true]
  exact fun hblank => h.expression?_ne_none (expression?_of_isAllBlank hblank)

theorem IsComparison.not_startsMarked {line : Line} (h : IsComparison line) :
    ¬ StartsMarked line :=
  fun hmarked => h.expression?_ne_none (expression?_eq_none_iff.2 (.inr hmarked))

end Assertion

open Assertion

theorem Code.text_eq_nil_or (code : Code) :
    code.text = [] ∨ ∃ front, code.text = front ++ ['\n'] := by
  cases code with
  | nil => exact .inl rfl
  | cons line older =>
      exact .inr ⟨text older ++ line, by rw [text_cons, List.append_assoc]⟩

theorem Code.text_ne_nil {code : Code} (h : code ≠ []) : code.text ≠ [] := by
  obtain ⟨line, older, rfl⟩ := List.exists_cons_of_ne_nil h
  rw [text_cons]
  simp

namespace Draft

/-! ## The last line of an open block -/

/-- Holds of an example whose code ends with a comparison while a block of `//` lines is open in
it of which a line has been checked. -/
def EndsCompared (d : Draft) : Prop :=
  d.hasChecked = true → ∃ last older, d.code = last :: older ∧ IsComparison last

variable {d e : Draft} {line : Line}

theorem endsCompared_of_append {last : Line} (hlast : '\n' ∉ last) (h : IsComparison last)
    (hcode : e.code = d.code.append last) : e.EndsCompared := fun _ =>
  ⟨last, d.code, hcode.trans (Code.append_of_not_mem hlast d.code), h⟩

theorem endsCompared_of_block (h : ∀ n, e.block = some (.ofLines n) → n = 0) :
    e.EndsCompared := by
  intro hchecked
  obtain ⟨n, hb, hn⟩ := hasChecked_eq_true_iff.1 hchecked
  exact absurd (h n hb) hn

/-- Whatever a line of a block does, it leaves a comparison as the last line of the code. -/
theorem Fed.endsCompared (h : Fed d line e) (hfits : d.BlockFits) (hlined : d.Lined)
    (hline : '\n' ∉ line)
    (hsettled : ∀ checked, d.block = some (.ofLines checked) → continuation? line ≠ none)
    (hd : d.EndsCompared) : e.EndsCompared := by
  have hnone : d.block = none → ∀ n, d.block = some (.ofLines n) → n = 0 := by
    intro hb n hsome
    rw [hb] at hsome
    cases hsome
  -- inside of a block an annotation has no code in front of it
  have halone : ∀ {words : List String} {a : Expectation} {n : Nat},
      withMarks? words line = some a → d.block = some (.ofLines n) →
      Text.isAllBlank a.code = true := by
    intro words a n ha hb
    rw [← Bool.not_eq_false]
    exact fun hcode => hsettled n hb (continuation?_of_code ha hcode)
  cases h with
  | compared a _ ha hcode =>
      refine endsCompared_of_block fun n hb => ?_
      rw [halone (eq_some_of_nonEmpty ha) hb] at hcode
      cases hcode
  | captured a _ ha _ code hcap =>
      obtain ⟨-, hexpected⟩ := not_mem_of_withMarks? hline (eq_some_of_nonEmpty ha)
      obtain ⟨last, older, stored, compared, -, hpair, rfl⟩ :=
        Code.captureLast?_eq_some hexpected hlined.lines hcap
      obtain ⟨x, -, heq⟩ := Option.map_eq_some_iff.1 hpair
      cases heq
      exact fun _ => ⟨_, _, rfl, Text.indentOf last, returnVariable, a.expected,
        Text.isAllBlank_indentOf last, rfl⟩
  | uncaptured a _ ha _ hcap =>
      -- a comparison would have been captured
      intro hchecked
      obtain ⟨last, older, hcode, hlast⟩ := hd hchecked
      rw [hcode, Code.captureLast?, captureLine?, Option.map_map, Option.map_eq_none_iff] at hcap
      exact absurd hcap hlast.expression?_ne_none
  | logged a _ ha =>
      intro hchecked
      obtain ⟨n, hb, -⟩ := hasChecked_eq_true_iff.1 hchecked
      have hmarks := eq_some_of_nonEmpty ha
      obtain ⟨hfront, hexpected⟩ := not_mem_of_withMarks? hline hmarks
      have hblank := halone hmarks hb
      have hout := hfits.ofLines n hb
      refine endsCompared_of_append
        (not_mem_afterCode hfront (not_mem_expectLogged hexpected d.inComment) d.inComment)
        ?_ rfl hchecked
      rw [afterCode_of_isAllBlank hblank, hout]
      exact ⟨a.code, _, _, hblank, rfl⟩
  | shown _ _ _ hb => exact endsCompared_of_block (hnone hb)
  | closed => exact endsCompared_of_block fun _ h => by cases h
  | checkedInComment => exact endsCompared_of_block fun _ h => by cases h
  | checkedLine =>
      exact endsCompared_of_append (not_mem_expectOutput _ false) (isComparison_equalCall _ _) rfl
  | openedLines => exact endsCompared_of_block fun _ h => by cases h; rfl
  | openedComment => exact endsCompared_of_block fun _ h => by cases h
  | plain _ _ hb => exact endsCompared_of_block (hnone hb)

theorem EndsCompared.settle (hd : d.EndsCompared) (line : Line) :
    (d.settle line).EndsCompared := by
  rcases d.settle_eq_or line with heq | heq
  · rw [heq]
    exact hd
  · rw [heq]
    exact endsCompared_of_block fun n hb => absurd hb (d.finishLines_block_ne n)

theorem endsCompared_feed (hfits : d.BlockFits) (hlined : d.Lined) (hline : '\n' ∉ line)
    (hd : d.EndsCompared) : (d.feed line).EndsCompared :=
  (d.fed_feed line).endsCompared (hfits.settle line) (settle_code hlined line).2.2 hline
    (fun _ h => continuation?_of_settle h) (hd.settle line)

/-- The end of a block puts its call behind the last line of the code, in front of the line feed
there, and that line is a comparison. -/
theorem EndsCompared.drained (hd : d.EndsCompared) (hlined : d.Lined)
    (hchecked : d.hasChecked = true) : ∃ above last,
      d.code.text = above ++ last ++ ['\n'] ∧
      (above = [] ∨ ∃ front, above = front ++ ['\n']) ∧ '\n' ∉ last ∧ IsComparison last ∧
      d.finishLines.code.text = above ++ last ++ ' ' :: (Assertion.drained ++ ['\n']) := by
  obtain ⟨last, older, hcode, hlast⟩ := hd hchecked
  have htext : d.code.text = Code.text older ++ last ++ ['\n'] := by
    rw [hcode, Code.text_cons, List.append_assoc]
  refine ⟨Code.text older, last, htext, Code.text_eq_nil_or older,
    hlined.lines last (by rw [hcode]; exact .head _), hlast, ?_⟩
  have hdrained := finishLines_drained hlined
  generalize d.finishLines.code.text = text at hdrained
  cases hdrained with
  | kept h => exact absurd hchecked (by rw [h]; exact Bool.false_ne_true)
  | called front _ hold => rw [List.append_cancel_right (htext.symm.trans hold)]

end Draft

/-! ## The state field by field -/

/-- The two forms of an output block. -/
inductive BlockForm where
  | lines
  | comment
  deriving DecidableEq, Repr

def OutputBlock.form : OutputBlock → BlockForm
  | ofLines _ => .lines
  | ofComment _ => .comment

/-- An example with its code as one text, and whether it was closed. -/
structure ReadExample where
  startLine : Nat
  language : Language
  skip : Bool
  code : List Char := []
  closed : Bool := false
  deriving DecidableEq, Repr

/-- What a reader keeps between two lines, each in a field of its own. Nothing of the shape of this
state relates one field to another. -/
structure Reader where
  /-- The examples, the newest first. -/
  examples : List ReadExample := []
  shares : Bool := false
  skipNext : Bool := false
  inComment : Bool := false
  block : Option BlockForm := none
  checked : Nat := 0
  deriving DecidableEq, Repr

namespace Reader

/-- Whether the newest example is open. -/
def isOpen (r : Reader) : Bool := r.examples.head?.any (!·.closed)

/-- The code of the newest example. -/
def code (r : Reader) : List Char := (r.examples.head?.map (·.code)).getD []

def withCode (r : Reader) (code : List Char) : Reader :=
  { r with examples := r.examples.modifyHead fun e => { e with code := code } }

def append (r : Reader) (line : Line) : Reader := r.withCode (r.code ++ line ++ ['\n'])

/-- Ends a block of `//` lines. -/
def finishLines (r : Reader) : Reader :=
  if r.block = some .lines then
    let drained := if r.checked = 0 then r
      else r.withCode (r.code.dropLast ++ ' ' :: (Assertion.drained ++ ['\n']))
    { drained with block := none, checked := 0 }
  else r

/-- Closes the open example, if there is one. -/
def close (r : Reader) : Reader :=
  if r.isOpen then
    { r.finishLines with
      examples := r.finishLines.examples.modifyHead fun e => { e with closed := true }
      inComment := false
      block := none
      checked := 0 }
  else r

/-- Takes an annotation of a value. -/
def feedReturned (r : Reader) (line : Line) (a : Expectation) : Reader :=
  if Text.isAllBlank a.code then
    match (Code.ofText? r.code).bind (Code.captureLast? a.expected) with
    | some code => r.withCode code.text
    | none => r.append line
  else r.append ((inlineReturn? a.code a.expected).getD line)

def expectLine (r : Reader) (text : List Char) (inComment : Bool) : Reader :=
  { r.append (expectOutput text inComment) with checked := r.checked + 1 }

/-- Takes the line that closes the comment around an output block. -/
def closeComment (r : Reader) (line : Line) : Reader :=
  let closes := Text.strip line = "*/".toList ∧ r.checked ≠ 0
  let closing := if closes then line ++ ' ' :: Assertion.drained else line
  { r.append closing with
    inComment := Comment.openAfter line true
    block := none
    checked := 0 }

/-- Takes a line without an annotation of its own. -/
def feedPlain (r : Reader) (line : Line) (output : Option Expectation) : Reader :=
  match r.block with
  | some .comment =>
    if Draft.closesComment line then r.closeComment line else r.expectLine (Text.strip line) true
  | some .lines => r.expectLine ((continuation? line).getD []) false
  | none =>
    if (output.any fun a => Text.isAllBlank a.code) && !r.inComment then
      { r.append line with block := some .lines, checked := 0 }
    else if r.inComment && isOutputSentinel line then
      { r.append line with block := some .comment, checked := 0 }
    else { r.append line with inComment := Comment.openAfter line r.inComment }

/-- Takes a line once it has ended the block that it ends. -/
def feedOpen (r : Reader) (line : Line) : Reader :=
  match (if r.inComment then none else returned? line) with
  | some a => r.feedReturned line a
  | none =>
    match logged? line with
    | some a => r.append (afterCode a.code (expectLogged a.expected r.inComment) r.inComment)
    | none =>
      let output := output? line
      match (if r.block.isNone then nonEmpty output else none) with
      | some a => r.append (afterCode a.code (expectOutput a.expected r.inComment) r.inComment)
      | none => r.feedPlain line output

/-- Takes one line of the body of the open example. -/
def feed (r : Reader) (line : Line) : Reader :=
  (if (continuation? line).isNone then r.finishLines else r).feedOpen line

/-- Takes a line, whose kind is known. -/
def stepKind (r : Reader) (line : Line) (number : Nat) : Fence.Kind → Reader
  | .opening language =>
    { r with
      examples := { startLine := number, language := language, skip := r.skipNext } :: r.examples
      skipNext := false
      inComment := false
      block := none
      checked := 0 }
  | .closing => r.close
  | .skipNext => { r with skipNext := true }
  | .share => { r with shares := true }
  | .body => if r.isOpen then r.feed line else r

/-- Takes one line with its number. -/
def step (r : Reader) (line : Line) (number : Nat) : Except UnknownTag Reader :=
  let line := Text.dropTrailing (· == '\r') line
  (Fence.kind line).map (r.stepKind line number)

/-- Takes lines in order. -/
def steps (r : Reader) (number : Nat) : List Line → Except UnknownTag Reader
  | [] => .ok r
  | line :: more =>
    match r.step line number with
    | .ok next => next.steps (number + 1) more
    | .error e => .error e

end Reader

namespace Parse

/-- Whether a block comment of the document is open. -/
def inComment (p : Parse) : Bool := p.current.any (·.inComment)

/-- The open output block. -/
def block? (p : Parse) : Option OutputBlock := p.current.bind (·.block)

/-- The number of lines of the open output block checked so far. -/
def checked (p : Parse) : Nat := (p.block?.map (·.checked)).getD 0

end Parse

/-- An example as it stands in the state with its fields. -/
def Draft.readExample (d : Draft) (closed : Bool) : ReadExample :=
  ⟨d.startLine, d.language, d.skip, d.code.text, closed⟩

/-- The state with its fields. -/
def Parse.reader (p : Parse) : Reader where
  examples := (p.current.map (·.readExample false)).toList ++
    p.older.map fun x => x.1.readExample x.2
  shares := p.shares
  skipNext := p.skipNext
  inComment := p.inComment
  block := p.block?.map (·.form)
  checked := p.checked

/-! ## Both states take the same steps -/

theorem Text.flatten_splitLines (s : List Char) :
    ((splitLines s).map (· ++ ['\n'])).flatten = s ++ ['\n'] := by
  induction s with
  | nil => rfl
  | cons c rest ih =>
      rw [splitLines]
      split
      · next hc => rw [List.map_cons, List.flatten_cons, ih, hc]; rfl
      · cases hlines : splitLines rest with
        | nil => exact absurd hlines (splitLines_ne_nil rest)
        | cons line more =>
            rw [hlines] at ih
            exact congrArg (c :: ·) ih

namespace Code

theorem text_append_line (code : Code) (line : Line) :
    (code.append line).text = code.text ++ line ++ ['\n'] := by
  rw [append, text, List.reverse_append, List.reverse_reverse, List.map_append,
    List.flatten_append, Text.flatten_splitLines, List.append_assoc]
  rfl

theorem splitLines_text {code : Code} (h : ∀ line ∈ code, '\n' ∉ line) {tail : List Char}
    (htail : '\n' ∉ tail) : Text.splitLines (code.text ++ tail) = code.reverse ++ [tail] := by
  induction code generalizing tail with
  | nil => exact Text.splitLines_of_not_mem htail
  | cons line older ih =>
      obtain ⟨hline, holder⟩ := List.forall_mem_cons.1 h
      have htext : text (line :: older) ++ tail = (text older ++ line) ++ '\n' :: tail := by
        rw [text_cons, List.append_assoc, List.append_assoc, List.append_assoc]
        rfl
      rw [htext, Text.splitLines_append_line, ih holder hline, Text.splitLines_of_not_mem htail,
        List.reverse_cons]

theorem ofText?_text {code : Code} (h : ∀ line ∈ code, '\n' ∉ line) :
    ofText? code.text = some code := by
  have hlines : Text.splitLines (code.text ++ []) = code.reverse ++ [[]] :=
    splitLines_text h List.not_mem_nil
  rw [List.append_nil] at hlines
  rw [ofText?, hlines, List.reverse_append, List.reverse_reverse]
  rfl

theorem text_extendLast {code : Code} (h : code ≠ []) (statement : List Char) :
    (code.extendLast statement).text = code.text.dropLast ++ ' ' :: (statement ++ ['\n']) := by
  obtain ⟨line, older, rfl⟩ := List.exists_cons_of_ne_nil h
  rw [extendLast, text_cons, text_cons, ← List.append_assoc (text older) line,
    List.dropLast_concat]
  simp only [List.append_assoc, List.cons_append]

end Code

namespace Draft

/-- The state with its fields where an example is open. -/
def reader (d : Draft) (p : Parse) : Reader := ({ p with current := some d } : Parse).reader

variable {d : Draft} {p : Parse} {line : Line}

@[simp] theorem reader_code : (d.reader p).code = d.code.text := rfl

@[simp] theorem reader_inComment : (d.reader p).inComment = d.inComment := rfl

@[simp] theorem reader_block : (d.reader p).block = d.block.map (·.form) := rfl

@[simp] theorem reader_checked : (d.reader p).checked = (d.block.map (·.checked)).getD 0 := rfl

@[simp] theorem reader_append : (d.append line).reader p = (d.reader p).append line := by
  show (d.reader p).withCode (d.code.append line).text = _
  rw [Code.text_append_line]
  rfl

theorem reader_finishLines (hd : d.Lined) : d.finishLines.reader p = (d.reader p).finishLines := by
  rw [Reader.finishLines, reader_block, reader_checked]
  cases hb : d.block with
  | none =>
      rw [finishLines, hb]
      rfl
  | some block =>
      cases block with
      | ofComment n =>
          rw [finishLines, hb]
          rfl
      | ofLines n =>
          have hcode : d.code ≠ [] := hd.block (by rw [hb]; exact Option.some_ne_none _)
          rw [finishLines, hb]
          cases n with
          | zero => rfl
          | succ n =>
              show ({ (d.reader p).withCode (d.code.extendLast Assertion.drained).text with
                block := none, checked := 0 } : Reader) = _
              rw [Code.text_extendLast hcode]
              rfl

theorem reader_feedReturned (hd : d.Lined) (a : Expectation) :
    (d.feedReturned line a).reader p = (d.reader p).feedReturned line a := by
  rw [feedReturned, Reader.feedReturned, reader_code, Code.ofText?_text hd.lines, Option.bind_some]
  split
  · cases d.code.captureLast? a.expected with
    | none => exact reader_append
    | some code => rfl
  · exact reader_append

theorem reader_closeCommentBlock {n : Nat} (hb : d.block = some (.ofComment n)) :
    (d.closeCommentBlock line n).reader p = (d.reader p).closeComment line := by
  rw [closeCommentBlock, Reader.closeComment, reader_checked, hb, ← reader_append]
  rfl

theorem reader_expectLine (next : OutputBlock) {block : OutputBlock} (hb : d.block = some block)
    (hform : next.form = block.form) (hchecked : next.checked = block.checked + 1)
    (text : List Char) (inComment : Bool) :
    ({ d.append (expectOutput text inComment) with block := some next } : Draft).reader p =
      (d.reader p).expectLine text inComment := by
  have hblock : ((d.append (expectOutput text inComment)).reader p).block = some next.form := by
    rw [hform]
    exact congrArg (Option.map (·.form)) hb
  rw [Reader.expectLine, ← reader_append, reader_checked, hb, hblock]
  show _ = ({ (d.append (expectOutput text inComment)).reader p with
    block := some next.form, checked := block.checked + 1 } : Reader)
  rw [← hchecked]
  rfl

theorem reader_feedPlain (output : Option Expectation) :
    (d.feedPlain line output).reader p = (d.reader p).feedPlain line output := by
  rw [feedPlain, Reader.feedPlain, reader_block]
  cases hb : d.block with
  | none =>
      rw [reader_inComment]
      dsimp only [Option.map_none]
      split
      · rw [← reader_append]
        rfl
      · split
        · rw [← reader_append]
          rfl
        · rw [← reader_append]
          rfl
  | some block =>
      cases block with
      | ofLines n => exact reader_expectLine (.ofLines (n + 1)) hb rfl rfl _ false
      | ofComment n =>
          dsimp only [Option.map_some, OutputBlock.form]
          by_cases hcloses : closesComment line = true
          · rw [if_pos hcloses, if_pos hcloses]
            exact reader_closeCommentBlock hb
          · rw [if_neg hcloses, if_neg hcloses]
            exact reader_expectLine (.ofComment (n + 1)) hb rfl rfl _ true

theorem reader_feedOpen (hd : d.Lined) :
    (d.feedOpen line).reader p = (d.reader p).feedOpen line := by
  rw [feedOpen, Reader.feedOpen, reader_inComment, reader_block, Option.isNone_map]
  generalize (if d.inComment then none else returned? line) = returned
  cases returned with
  | some a => exact reader_feedReturned hd a
  | none =>
      cases logged? line with
      | some a => exact reader_append
      | none =>
          dsimp only
          generalize (if d.block.isNone then nonEmpty (output? line) else none) = shown
          cases shown with
          | some a => exact reader_append
          | none => exact reader_feedPlain (output? line)

theorem reader_feed (hd : d.Lined) : (d.feed line).reader p = (d.reader p).feed line := by
  have hsettled : (d.settle line).reader p =
      if (continuation? line).isNone then (d.reader p).finishLines else d.reader p := by
    rw [settle]
    split
    · exact reader_finishLines hd
    · rfl
  rw [Reader.feed, ← hsettled]
  exact reader_feedOpen (settle_code hd line).2.2

end Draft

namespace Parse

variable {p : Parse}

/-- Where no example is open, the newest was closed. -/
theorem Reachable.closed (hp : Reachable p) :
    p.current = none → ∀ x ∈ p.older.head?, x.2 = true := by
  induction hp with
  | start => exact fun _ x hx => nomatch hx
  | @step p q line number hp hline h ih =>
      obtain ⟨kind, -, rfl⟩ := step_eq_ok h
      intro hnone
      cases kind with
      | opening language => cases hnone
      | closing =>
          intro x hx
          rw [stepKind, setAside] at hx
          cases hcurrent : p.current with
          | none =>
              rw [hcurrent] at hx
              exact ih hcurrent x hx
          | some d =>
              rw [hcurrent] at hx
              cases hx
              rfl
      | skipNext => exact ih hnone
      | share => exact ih hnone
      | body => exact ih (Option.map_eq_none_iff.1 hnone)

theorem reader_of_current {d : Draft} (hd : p.current = some d) : p.reader = d.reader p := by
  rw [Draft.reader, ← hd]

theorem reader_isOpen (hp : Reachable p) : p.reader.isOpen = p.current.isSome := by
  cases hd : p.current with
  | some d =>
      rw [reader_of_current hd]
      rfl
  | none =>
      have hclosed := hp.closed hd
      rw [Reader.isOpen, reader, hd]
      cases holder : p.older with
      | nil => rfl
      | cons x older =>
          rw [holder] at hclosed
          show (!x.2) = false
          rw [hclosed x rfl]
          rfl

theorem reader_stepKind (hp : Reachable p) (line : Line) (number : Nat) (kind : Fence.Kind) :
    (p.stepKind line number kind).reader = p.reader.stepKind line number kind := by
  have hopen := reader_isOpen hp
  cases kind with
  | opening language =>
      rw [stepKind, Reader.stepKind, setAside]
      cases hd : p.current with
      | none =>
          rw [reader, reader, hd]
          rfl
      | some d =>
          rw [reader, reader, hd]
          rfl
  | closing =>
      rw [stepKind, Reader.stepKind, Reader.close, setAside, hopen]
      cases hd : p.current with
      | none =>
          obtain ⟨older, current, shares, skipNext⟩ := p
          cases hd
          rfl
      | some d =>
          rw [Option.isSome_some, if_pos rfl, reader_of_current hd,
            ← Draft.reader_finishLines (hp.lined d hd)]
          rfl
  | skipNext => rfl
  | share => rfl
  | body =>
      rw [stepKind, Reader.stepKind, hopen]
      cases hd : p.current with
      | none =>
          rw [Option.isSome_none, if_neg Bool.false_ne_true, Option.map_none, ← hd]
      | some d =>
          rw [Option.isSome_some, if_pos rfl, reader_of_current hd]
          exact Draft.reader_feed (hp.lined d hd)

/-- Both states take the same steps, and are refused the same lines. -/
theorem reader_steps {lines : List Line} (hp : Reachable p) (hlines : ∀ line ∈ lines, '\n' ∉ line)
    (number : Nat) : p.reader.steps number lines = (p.steps number lines).map reader := by
  induction lines generalizing p number with
  | nil => rfl
  | cons line more ih =>
      obtain ⟨hline, hmore⟩ := List.forall_mem_cons.1 hlines
      have hstep : p.reader.step line number = (p.step line number).map reader := by
        rw [Reader.step, step]
        cases Fence.kind (Text.dropTrailing (· == '\r') line) with
        | error e => rfl
        | ok kind => exact congrArg Except.ok (reader_stepKind hp _ number kind).symm
      rw [Reader.steps, steps, hstep]
      cases hnext : p.step line number with
      | error e => rfl
      | ok next => exact ih (hp.step hline hnext) hmore (number + 1)

end Parse

/-! ## The whole state -/

namespace Parse

theorem Reachable.endsCompared {p : Parse} (hp : Reachable p) :
    ∀ d, p.current = some d → d.EndsCompared := by
  induction hp with
  | start => exact fun d h => nomatch h
  | @step p q line number hp hline h ih =>
      obtain ⟨kind, -, rfl⟩ := step_eq_ok h
      intro e he
      cases kind with
      | opening language =>
          cases he
          exact Draft.endsCompared_of_block fun _ h => by cases h
      | closing => cases he
      | skipNext => exact ih e he
      | share => exact ih e he
      | body =>
          obtain ⟨d, hd, rfl⟩ := Option.map_eq_some_iff.1 he
          exact Draft.endsCompared_feed (hp.blockFits d hd) (hp.lined d hd)
            (not_mem_content hline) (ih d hd)

/-- What holds of the state between any two lines. -/
structure Consistent (p : Parse) : Prop where
  /-- Without an open example nothing is remembered of a comment or a block. -/
  idle : p.current = none → p.inComment = false ∧ p.block? = none ∧ p.checked = 0
  inside : ∀ n, p.block? = some (.ofComment n) → p.inComment = true
  outside : ∀ n, p.block? = some (.ofLines n) → p.inComment = false
  unchecked : p.block? = none → p.checked = 0
  /-- All code is ended lines. -/
  ended : ∀ x ∈ p.drafts, x.1.code.text = [] ∨ ∃ front, x.1.code.text = front ++ ['\n']
  ordered : (p.drafts.map fun x => x.1.startLine).Pairwise (· < ·)
  /-- A block of `//` lines is open in an example with code. -/
  begun : ∀ n, p.block? = some (.ofLines n) → ∃ d, p.current = some d ∧ d.code.text ≠ []
  /-- Once a line of it is checked, the end of such a block takes nothing of the code but the last
  line feed. The last line is neither blank nor a comment: it is a comparison. -/
  drains : ∀ d n, p.current = some d → p.block? = some (.ofLines n) → 1 ≤ p.checked →
    ∃ above last,
      d.code.text = above ++ last ++ ['\n'] ∧
      (above = [] ∨ ∃ front, above = front ++ ['\n']) ∧ '\n' ∉ last ∧
      Text.isAllBlank last = false ∧ ¬ StartsMarked last ∧ IsComparison last ∧
      d.finishLines.code.text = above ++ last ++ ' ' :: (drained ++ ['\n'])

theorem block?_eq_some_iff {p : Parse} {block : OutputBlock} :
    p.block? = some block ↔ ∃ d, p.current = some d ∧ d.block = some block :=
  Option.bind_eq_some_iff

theorem inComment_of_current {p : Parse} {d : Draft} (hd : p.current = some d) :
    p.inComment = d.inComment := by
  rw [inComment, hd, Option.any_some]

theorem consistent_of_reachable {lines : List Line} {p : Parse} (hp : Reachable p)
    (h : ({} : Parse).steps 1 lines = .ok p) : p.Consistent := by
  constructor
  case idle =>
    intro hnone
    simp only [inComment, checked, block?, hnone]
    exact ⟨rfl, rfl, rfl⟩
  case inside =>
    intro n hb
    obtain ⟨d, hd, hblock⟩ := block?_eq_some_iff.1 hb
    rw [inComment_of_current hd]
    exact (hp.blockFits d hd).ofComment n hblock
  case outside =>
    intro n hb
    obtain ⟨d, hd, hblock⟩ := block?_eq_some_iff.1 hb
    rw [inComment_of_current hd]
    exact (hp.blockFits d hd).ofLines n hblock
  case unchecked =>
    intro hb
    rw [checked, hb]
    rfl
  case ended => exact fun x _ => Code.text_eq_nil_or x.1.code
  case ordered =>
    have hafter : after lines lines.length = .ok p := by
      rw [after, List.take_length]
      exact h
    have hopenings := (outlineAt_of_after (Nat.le_refl _) hafter).openings
    have hordered := openings_pairwise (lines.take lines.length)
    rw [← hopenings, List.pairwise_map] at hordered
    exact List.pairwise_map.2 hordered
  case begun =>
    intro n hb
    obtain ⟨d, hd, hblock⟩ := block?_eq_some_iff.1 hb
    exact ⟨d, hd, Code.text_ne_nil
      ((hp.lined d hd).block (by rw [hblock]; exact Option.some_ne_none _))⟩
  case drains =>
    intro d n hd hb hchecked
    obtain ⟨d', hd', hblock⟩ := block?_eq_some_iff.1 hb
    obtain rfl := Option.some.inj (hd.symm.trans hd')
    have hn : 1 ≤ n := by
      rw [checked, hb] at hchecked
      exact hchecked
    have hhas : d.hasChecked = true :=
      Draft.hasChecked_eq_true_iff.2 ⟨n, hblock, Nat.one_le_iff_ne_zero.1 hn⟩
    obtain ⟨above, last, htext, habove, hsingle, hlast, hdrained⟩ :=
      (hp.endsCompared d hd).drained (hp.lined d hd) hhas
    exact ⟨above, last, htext, habove, hsingle, hlast.not_blank, hlast.not_startsMarked, hlast,
      hdrained⟩

end Parse

/-- What holds of the fields between any two lines. -/
structure Reader.Consistent (r : Reader) : Prop where
  idle : r.isOpen = false → r.inComment = false ∧ r.block = none ∧ r.checked = 0
  inside : r.block = some .comment → r.inComment = true
  outside : r.block = some .lines → r.inComment = false
  unchecked : r.block = none → r.checked = 0
  ended : ∀ e ∈ r.examples, e.code = [] ∨ ∃ front, e.code = front ++ ['\n']
  ordered : (r.examples.map (·.startLine)).Pairwise (· > ·)
  begun : r.block = some .lines → r.code ≠ []
  drains : r.block = some .lines → 1 ≤ r.checked →
    ∃ above last,
      r.code = above ++ last ++ ['\n'] ∧
      (above = [] ∨ ∃ front, above = front ++ ['\n']) ∧ '\n' ∉ last ∧
      Text.isAllBlank last = false ∧ ¬ StartsMarked last ∧ IsComparison last ∧
      r.finishLines.code = above ++ last ++ ' ' :: (drained ++ ['\n'])

namespace Parse

theorem reader_examples (p : Parse) :
    p.reader.examples = (p.drafts.map fun x => x.1.readExample x.2).reverse := by
  rw [reader, drafts, List.map_append, List.reverse_append, List.map_reverse, List.reverse_reverse]
  cases p.current <;> rfl

theorem block?_of_reader {p : Parse} {form : BlockForm} (h : p.reader.block = some form) :
    ∃ block, p.block? = some block ∧ block.form = form := Option.map_eq_some_iff.1 h

theorem Consistent.reader {p : Parse} (hp : Reachable p) (h : p.Consistent) :
    p.reader.Consistent where
  idle := by
    intro hclosed
    rw [reader_isOpen hp, ← Bool.not_eq_true, Option.not_isSome_iff_eq_none] at hclosed
    obtain ⟨hcomment, hblock, hchecked⟩ := h.idle hclosed
    exact ⟨hcomment, Option.map_eq_none_iff.2 hblock, hchecked⟩
  inside := by
    intro hform
    obtain ⟨block, hblock, hform⟩ := block?_of_reader hform
    cases block with
    | ofLines n => cases hform
    | ofComment n => exact h.inside n hblock
  outside := by
    intro hform
    obtain ⟨block, hblock, hform⟩ := block?_of_reader hform
    cases block with
    | ofLines n => exact h.outside n hblock
    | ofComment n => cases hform
  unchecked hnone := h.unchecked (Option.map_eq_none_iff.1 hnone)
  ended := by
    intro e he
    rw [reader_examples, List.mem_reverse, List.mem_map] at he
    obtain ⟨x, hx, rfl⟩ := he
    exact h.ended x hx
  ordered := by
    rw [reader_examples, List.map_reverse, List.pairwise_reverse, List.map_map]
    exact h.ordered
  begun := by
    intro hform
    obtain ⟨block, hblock, hform⟩ := block?_of_reader hform
    cases block with
    | ofComment n => cases hform
    | ofLines n =>
        obtain ⟨d, hd, hcode⟩ := h.begun n hblock
        rw [reader_of_current hd]
        exact hcode
  drains := by
    intro hform hchecked
    obtain ⟨block, hblock, hform⟩ := block?_of_reader hform
    cases block with
    | ofComment n => cases hform
    | ofLines n =>
        obtain ⟨d, hd, -⟩ := h.begun n hblock
        obtain ⟨above, last, hcode, habove, hsingle, hnot, hmarked, hcompared, hdrained⟩ :=
          h.drains d n hd hblock hchecked
        rw [reader_of_current hd, ← Draft.reader_finishLines (hp.lined d hd)]
        exact ⟨above, last, hcode, habove, hsingle, hnot, hmarked, hcompared, hdrained⟩

/-- Every list of lines leaves a consistent state, if it can be read at all. The same lines lead to
the same fields where each is kept and changed on its own, and these are consistent. -/
theorem consistent_of_steps {lines : List Line} (hlines : ∀ line ∈ lines, '\n' ∉ line)
    {p : Parse} (h : ({} : Parse).steps 1 lines = .ok p) :
    p.Consistent ∧ ({} : Reader).steps 1 lines = .ok p.reader ∧ p.reader.Consistent := by
  have hp : Reachable p := Reachable.start.steps hlines h
  have hconsistent := consistent_of_reachable hp h
  have hsteps : ({} : Parse).reader.steps 1 lines = .ok p.reader := by
    rw [reader_steps Reachable.start hlines, h]
    rfl
  exact ⟨hconsistent, hsteps, hconsistent.reader hp⟩

/-- A block with one checked line and an annotation of a value below it. -/
theorem consistent_of_annotated_block :
    ∃ p, ({} : Parse).steps 1
        ["```js".toList, "// output:".toList, "// a".toList, "// => 2".toList] = .ok p ∧
      p.block? = some (.ofLines 1) ∧ p.Consistent ∧ p.reader.block = some .lines ∧
      p.reader.checked = 1 ∧ p.reader.Consistent := by
  have hsteps : ({} : Parse).steps 1
      ["```js".toList, "// output:".toList, "// a".toList, "// => 2".toList] = .ok _ := rfl
  obtain ⟨hconsistent, -, hfields⟩ := consistent_of_steps (by decide) hsteps
  exact ⟨_, hsteps, rfl, hconsistent, rfl, rfl, hfields⟩

end Parse

end DocExamples
