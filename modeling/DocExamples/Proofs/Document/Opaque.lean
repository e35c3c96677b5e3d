import DocExamples.Document.Assertion
import DocExamples.Proofs.Document.Walk
import DocExamples.Proofs.Json.Literal

/-!
# Literals are opaque

What stands between the marks of a string, a template or a regular expression says nothing
about comments, so a line may have any other text there and is scanned the same way. Two
lines that differ in one literal are walked in three parts. Up to the literal they are the
same. Over the literal, `Quoted.reaches` and `RegexBody.reaches` lead from the opening mark
to the closing one, whatever the text. Behind it the two walks look back at different
texts, and there it matters that a look back never gets past the closing mark: the mark is
no blank, is no part of a word, and opens no regular expression itself.
-/

namespace DocExamples

namespace Comment

/-! ## Looking back -/

/-- The marks that literals end with. -/
def closingMarks : List Char := ['\'', '"', '\x60', '/']

theorem prefix_of_prefix_append_cons {word front rest : List Char} {mark : Char}
    (hmark : mark ∉ word) (h : word <+: front ++ mark :: rest) : word <+: front := by
  induction front generalizing word with
  | nil =>
      cases word with
      | nil => exact List.nil_prefix
      | cons c more =>
          exact absurd (List.mem_cons.2 (.inl (List.cons_prefix_cons.1 h).1.symm)) hmark
  | cons d front ih =>
      cases word with
      | nil => exact List.nil_prefix
      | cons c more =>
          obtain ⟨hc, hmore⟩ := List.cons_prefix_cons.1 h
          exact List.cons_prefix_cons.2 ⟨hc, ih (fun hm => hmark (.tail _ hm)) hmore⟩

theorem forall_mem_eq_false {p : Char → Bool} {s : List Char} (h : s.any p = false) :
    ∀ c ∈ s, p c = false := fun c hc => Bool.eq_false_iff.2 (List.any_eq_false.1 h c hc)

theorem not_mem_keyword : ∀ word ∈ regexKeywords, ∀ mark ∈ closingMarks, mark ∉ word := by
  have hall : (regexKeywords.all fun word => closingMarks.all (· ∉ word)) = true := rfl
  simpa only [List.all_eq_true, decide_eq_true_eq] using hall

/-- A word at the end of a text does not reach back over a mark. -/
theorem endsWithKeyword_of_mark {mark : Char} (hmark : mark ∈ closingMarks)
    {front rest : List Char} (rest' : List Char)
    (h : endsWithKeyword (front ++ mark :: rest) = true) :
    endsWithKeyword (front ++ mark :: rest') = true := by
  simp only [endsWithKeyword, List.any_eq_true, Bool.and_eq_true,
    List.isPrefixOf_iff_prefix] at h ⊢
  obtain ⟨word, hword, hprefix, hbehind⟩ := h
  have hfront := prefix_of_prefix_append_cons (not_mem_keyword word hword mark hmark) hprefix
  refine ⟨word, hword, hfront.trans (List.prefix_append _ _), ?_⟩
  rw [List.drop_append_of_le_length hfront.length_le] at hbehind ⊢
  cases hdrop : front.drop word.length <;> rw [hdrop] at hbehind <;> exact hbehind

/-- What stands in front of the closing mark of a literal is out of view behind it. -/
theorem sameView_of_mark {mark : Char} (hmark : mark ∈ closingMarks) (before before' : List Char) :
    SameView (mark :: before) (mark :: before') := by
  have hsolid : Text.isBlank mark = false :=
    forall_mem_eq_false (by decide : closingMarks.any Text.isBlank = false) mark hmark
  have hkeyword : ∀ front, endsWithKeyword (front ++ mark :: before) =
      endsWithKeyword (front ++ mark :: before') := fun front =>
    Bool.eq_iff_iff.2 ⟨endsWithKeyword_of_mark hmark _, endsWithKeyword_of_mark hmark _⟩
  intro between
  induction between with
  | nil =>
      have hnot : ¬ Text.isBlank mark = true := by
        rw [hsolid]
        exact Bool.false_ne_true
      rw [List.nil_append, List.nil_append, startsRegex, startsRegex,
        List.dropWhile_cons_of_neg hnot, List.dropWhile_cons_of_neg hnot]
      exact congrArg (_ || ·) (hkeyword [])
  | cons c between ih =>
      rw [List.cons_append, List.cons_append, startsRegex, startsRegex]
      cases hc : Text.isBlank c with
      | true =>
          rw [List.dropWhile_cons_of_pos hc, List.dropWhile_cons_of_pos hc]
          exact ih
      | false =>
          have hnot : ¬ Text.isBlank c = true := by rw [hc]; exact Bool.false_ne_true
          rw [List.dropWhile_cons_of_neg hnot, List.dropWhile_cons_of_neg hnot]
          exact congrArg (_ || ·) (hkeyword (c :: between))

/-! ## Over a literal -/

/-- A text that may stand between two marks of a string or template: none of its characters
is the mark, unless a backslash escapes it, and its last backslash escapes a character. -/
inductive Quoted (mark : Char) : List Char → Prop where
  | nil : Quoted mark []
  | escaped (c : Char) {rest : List Char} (h : Quoted mark rest) : Quoted mark ('\\' :: c :: rest)
  | plain {c : Char} {rest : List Char} (hescape : c ≠ '\\') (hmark : c ≠ mark)
      (h : Quoted mark rest) : Quoted mark (c :: rest)

/-- The rest of a regular expression, where a character class is open or not: no slash ends
it outside a class, and neither a class nor an escape is open at its end. -/
inductive RegexBody : Bool → List Char → Prop where
  | nil : RegexBody false []
  | escaped {inClass : Bool} (c : Char) {rest : List Char} (h : RegexBody inClass rest) :
      RegexBody inClass ('\\' :: c :: rest)
  | classOpens {inClass : Bool} {rest : List Char} (h : RegexBody true rest) :
      RegexBody inClass ('[' :: rest)
  | classCloses {inClass : Bool} {rest : List Char} (h : RegexBody false rest) :
      RegexBody inClass (']' :: rest)
  | plain {inClass : Bool} {c : Char} {rest : List Char} (hspecial : c ∉ ['\\', '[', ']'])
      (hslash : c = '/' → inClass = true) (h : RegexBody inClass rest) :
      RegexBody inClass (c :: rest)

theorem Quoted.append {mark : Char} {s t : List Char} (hs : Quoted mark s) (ht : Quoted mark t) :
    Quoted mark (s ++ t) := by
  induction hs with
  | nil => exact ht
  | escaped c _ ih => exact .escaped c ih
  | plain hescape hmark _ ih => exact .plain hescape hmark ih

theorem afterLiteralChar_of_quote {mark c : Char} (hslash : mark ≠ '/') :
    afterLiteralChar mark false c = if c = mark then .code else .literal mark false := by
  rw [afterLiteralChar, if_neg hslash]

/-- From inside a string a scan goes on to its end. -/
theorem Quoted.reaches {mark : Char} {content : List Char} (h : Quoted mark content)
    (hquote : isQuote mark = true) (before rest : List Char) :
    Reaches ⟨.literal mark false, before, content ++ mark :: rest⟩
      ⟨.code, mark :: (content.reverse ++ before), rest⟩ := by
  have hslash : mark ≠ '/' := by rintro rfl; cases hquote
  have hback : mark ≠ '\\' := by rintro rfl; cases hquote
  induction h generalizing before with
  | nil =>
      have hend : afterLiteralChar mark false mark = .code := by
        rw [afterLiteralChar_of_quote hslash, if_pos rfl]
      exact .single (hend ▸ .continues hback)
  | @escaped c content _ ih =>
      rw [List.reverse_cons, List.reverse_cons, List.append_assoc, List.append_assoc]
      exact .head (.escapes mark false before c _) (ih _)
  | @plain c content hescape hmark _ ih =>
      have hinside : afterLiteralChar mark false c = .literal mark false := by
        rw [afterLiteralChar_of_quote hslash, if_neg hmark]
      rw [List.reverse_cons, List.append_assoc]
      exact .head (.continues hescape) (hinside ▸ ih _)

/-- From inside a regular expression a scan goes on to its end. -/
theorem RegexBody.reaches {inClass : Bool} {content : List Char} (h : RegexBody inClass content)
    (before rest : List Char) :
    Reaches ⟨.literal '/' inClass, before, content ++ '/' :: rest⟩
      ⟨.code, '/' :: (content.reverse ++ before), rest⟩ := by
  induction h generalizing before with
  | nil => exact .single (.continues (by decide))
  | @escaped inClass c content _ ih =>
      rw [List.reverse_cons, List.reverse_cons, List.append_assoc, List.append_assoc]
      exact .head (.escapes '/' inClass before c _) (ih _)
  | @classOpens inClass content _ ih =>
      rw [List.reverse_cons, List.append_assoc]
      exact .head (.continues (by decide)) (ih _)
  | @classCloses inClass content _ ih =>
      rw [List.reverse_cons, List.append_assoc]
      exact .head (.continues (by decide)) (ih _)
  | @plain inClass c content hspecial hslash _ ih =>
      simp only [List.mem_cons, List.not_mem_nil, or_false, not_or] at hspecial
      obtain ⟨hescape, hopen, hclose⟩ := hspecial
      have hinside : afterLiteralChar '/' inClass c = .literal '/' inClass := by
        rw [afterLiteralChar, if_pos rfl, if_neg hopen, if_neg hclose, if_neg]
        rintro ⟨rfl, hclass⟩
        rw [hslash rfl] at hclass
        cases hclass
      rw [List.reverse_cons, List.append_assoc]
      exact .head (.continues hescape) (hinside ▸ ih _)

/-- Holds of a character that starts neither a comment nor a literal. -/
def isPlain (c : Char) : Bool := !isQuote c && c != '/'

/-- Over such characters a scan goes on in code. -/
theorem reaches_plain (piece before rest : List Char) (h : piece.all isPlain = true) :
    Reaches ⟨.code, before, piece ++ rest⟩ ⟨.code, piece.reverse ++ before, rest⟩ := by
  induction piece generalizing before with
  | nil => exact .refl
  | cons c piece ih =>
      rw [List.all_cons, isPlain, Bool.and_eq_true, Bool.and_eq_true, Bool.not_eq_true',
        bne_iff_ne] at h
      obtain ⟨⟨hquote, hslash⟩, hpiece⟩ := h
      have hpair : ∀ second, ¬ ['/', second] <+: c :: (piece ++ rest) :=
        fun second hpair => hslash (List.cons_prefix_cons.1 hpair).1.symm
      have hstep : Advances ⟨.code, before, c :: (piece ++ rest)⟩ _ :=
        .passes (hpair '/') (hpair '*')
      have hcode : ¬ opensLiteral before c = true := by
        rw [opensLiteral, hquote, beq_eq_false_iff_ne.2 hslash]
        exact Bool.false_ne_true
      rw [if_neg hcode] at hstep
      rw [List.reverse_cons, List.append_assoc]
      exact .head hstep (ih _ hpiece)

/-! ## One literal for another -/

/-- Holds of a text that may stand between two marks behind the front of a line: between
quotes, or between slashes where the first of them opens a regular expression. -/
inductive Literal (front : Line) : Char → List Char → Prop where
  | quoted {mark : Char} {content : List Char} (hmark : mark ∈ ['\'', '"', '\x60'])
      (h : Quoted mark content) : Literal front mark content
  | regex {content : List Char} (hposition : startsRegex front.reverse = true)
      (hne : content ≠ []) (hstart : content.head? ∉ [some '/', some '*'])
      (h : RegexBody false content) : Literal front '/' content

/-- A line with a literal in it. -/
def lineWith (front : Line) (mark : Char) (content rest : List Char) : Line :=
  front ++ mark :: (content ++ mark :: rest)

theorem Literal.mark_mem {front : Line} {mark : Char} {content : List Char}
    (h : Literal front mark content) : mark ∈ closingMarks := by
  cases h with
  | quoted hmark => exact List.mem_append_left ['/'] hmark
  | regex => decide

theorem isQuote_of_mem {mark : Char} (h : mark ∈ ['\'', '"', '\x60']) : isQuote mark = true :=
  List.all_eq_true.1 (by decide : ['\'', '"', '\x60'].all isQuote = true) mark h

/-- A mark that neither starts a comment nor stands in front of the other mark of one. -/
theorem advances_mark {mark : Char} {before rest : List Char}
    (hopens : opensLiteral before mark = true)
    (hcomment : mark = '/' → rest.head? ∉ [some '/', some '*']) :
    Advances ⟨.code, before, mark :: rest⟩ ⟨.literal mark false, mark :: before, rest⟩ := by
  have hpair : ∀ second ∈ ['/', '*'], ¬ ['/', second] <+: mark :: rest := by
    rintro second hsecond ⟨more, hmore⟩
    obtain ⟨hmark, hrest⟩ := List.cons.inj hmore
    refine hcomment hmark.symm ?_
    rw [← hrest]
    exact List.mem_map_of_mem hsecond
  have hstep : Advances ⟨.code, before, mark :: rest⟩ _ :=
    .passes (hpair '/' (by decide)) (hpair '*' (by decide))
  rwa [if_pos hopens] at hstep

/-- A scan goes over a string from its opening mark to the point behind its closing one. -/
theorem Quoted.reaches_over {mark : Char} {content : List Char} (h : Quoted mark content)
    (hquote : isQuote mark = true) (before rest : List Char) :
    Reaches ⟨.code, before, mark :: (content ++ mark :: rest)⟩
      ⟨.code, mark :: (content.reverse ++ mark :: before), rest⟩ := by
  have hslash : mark ≠ '/' := by rintro rfl; cases hquote
  have hopens : opensLiteral before mark = true := by
    rw [opensLiteral, hquote]
    rfl
  exact .head (advances_mark hopens fun h => absurd h hslash) (h.reaches hquote _ rest)

/-- From the opening mark of a literal a scan comes to the point behind its closing mark. -/
theorem Literal.reaches {front : Line} {mark : Char} {content : List Char}
    (h : Literal front mark content) (rest : List Char) :
    Reaches ⟨.code, front.reverse, mark :: (content ++ mark :: rest)⟩
      ⟨.code, mark :: (content.reverse ++ mark :: front.reverse), rest⟩ := by
  cases h with
  | quoted hmark h => exact h.reaches_over (isQuote_of_mem hmark) _ rest
  | regex hposition hne hstart h =>
      have hhead : (content ++ '/' :: rest).head? = content.head? :=
        List.head?_append_of_ne_nil content hne
      exact .head (advances_mark hposition fun _ => hhead ▸ hstart) (h.reaches _ rest)

/-- A literal that a scan comes to may be exchanged for any other with the same marks: the
line ends in the same comment state, and it either has no line comment with both or has one
as far behind the one as behind the other. -/
theorem literals_opaque {front content content' rest : Line} {mark : Char}
    (hreach : Reaches (.start (lineWith front mark content rest))
      ⟨.code, front.reverse, mark :: (content ++ mark :: rest)⟩)
    (h : Literal front mark content) (h' : Literal front mark content') :
    openAfter (lineWith front mark content' rest) false =
        openAfter (lineWith front mark content rest) false ∧
      (lineCommentStart (lineWith front mark content' rest)).map (· + content.length) =
        (lineCommentStart (lineWith front mark content rest)).map (· + content'.length) := by
  have hfront : Reaches (.start (lineWith front mark content' rest))
      ⟨.code, front.reverse, mark :: (content' ++ mark :: rest)⟩ := by
    obtain ⟨passed, hrest, hbefore, hwalk⟩ := hreach.carry
    obtain rfl : front = passed := List.append_cancel_right hrest
    have htail := hwalk [] _ (.refl []) (.cons mark (content' ++ mark :: rest) _)
    rwa [List.append_nil] at htail
  have hscan : scan (lineWith front mark content rest) false = scanFrom .code
      (mark :: (content.reverse ++ mark :: front.reverse)) rest :=
    Reaches.scan_eq (hreach.trans (h.reaches rest))
  have hscan' : scan (lineWith front mark content' rest) false = scanFrom .code
      (mark :: (content'.reverse ++ mark :: front.reverse)) rest :=
    Reaches.scan_eq (hfront.trans (h'.reaches rest))
  obtain ⟨hopen, hstart⟩ := (sameView_of_mark h.mark_mem
    (content.reverse ++ mark :: front.reverse)
    (content'.reverse ++ mark :: front.reverse)).scanFrom .code rest
  rw [openAfter, openAfter, lineCommentStart, lineCommentStart, hscan, hscan']
  refine ⟨hopen, map_add_cancel (front.length + 2) ?_⟩
  have hlength : ∀ s : List Char, (mark :: (s.reverse ++ mark :: front.reverse)).length =
      front.length + 2 + s.length := by
    intro s
    simp only [List.length_cons, List.length_append, List.length_reverse]
    omega
  rw [← hlength content, ← hlength content']
  exact hstart

/-- Two regular expressions with comment marks, in front of a division and a comment. -/
theorem literals_opaque_of_regex :
    Reaches (.start (lineWith "var re = ".toList '/' "[/*]".toList "; 4 / 2 // two".toList))
        ⟨.code, "var re = ".toList.reverse,
          '/' :: ("[/*]".toList ++ '/' :: "; 4 / 2 // two".toList)⟩ ∧
      Literal "var re = ".toList '/' "[/*]".toList ∧
      Literal "var re = ".toList '/' "a\\/\\/".toList ∧
      lineCommentStart (lineWith "var re = ".toList '/' "[/*]".toList "; 4 / 2 // two".toList) =
        some 23 ∧
      openAfter (lineWith "var re = ".toList '/' "a\\/\\/".toList "; 4 / 2 // two".toList) false =
        openAfter (lineWith "var re = ".toList '/' "[/*]".toList "; 4 / 2 // two".toList) false ∧
      (lineCommentStart (lineWith "var re = ".toList '/' "a\\/\\/".toList
          "; 4 / 2 // two".toList)).map (· + 4) =
        (lineCommentStart (lineWith "var re = ".toList '/' "[/*]".toList
          "; 4 / 2 // two".toList)).map (· + 5) := by
  have hreach : Reaches
      (.start (lineWith "var re = ".toList '/' "[/*]".toList "; 4 / 2 // two".toList))
      ⟨.code, "var re = ".toList.reverse,
        '/' :: ("[/*]".toList ++ '/' :: "; 4 / 2 // two".toList)⟩ :=
    reaches_plain _ [] _ (by decide)
  have hclass : Literal "var re = ".toList '/' "[/*]".toList :=
    .regex rfl (by decide) (by decide)
      (.classOpens (.plain (by decide) (fun _ => rfl)
        (.plain (by decide) (fun h => absurd h (by decide)) (.classCloses .nil))))
  have hescapes : Literal "var re = ".toList '/' "a\\/\\/".toList :=
    .regex rfl (by decide) (by decide)
      (.plain (by decide) (fun h => absurd h (by decide))
        (.escaped '/' (.escaped '/' .nil)))
  exact ⟨hreach, hclass, hescapes, rfl, literals_opaque hreach hclass hescapes⟩

end Comment

/-! ## The literal of a check -/

namespace Json

open Comment (Quoted)

theorem quoted_unitEscape (n : Nat) : Quoted '"' (unitEscape n) := by
  have hplain : ∀ s : List Char, (∀ c ∈ s, ∃ k, c = hexChar k) → Quoted '"' s := by
    intro s hs
    induction s with
    | nil => exact .nil
    | cons c s ih =>
        obtain ⟨⟨k, rfl⟩, hrest⟩ := List.forall_mem_cons.1 hs
        exact .plain (hexChar_ne k rfl) (hexChar_ne k rfl) (ih hrest)
  rw [unitEscape_eq]
  exact .escaped 'u' (hplain _ fun c hc => exists_of_mem_unitDigits hc)

/-- The escape of a character stands between quotes, whatever the character. -/
theorem quoted_escapeChar (c : Char) : Quoted '"' (escapeChar plainAscii c) := by
  rw [escapeChar]
  split_ifs with hquote hback hplain
  case pos => exact .escaped '"' .nil
  case pos => exact .escaped '\\' .nil
  case pos => exact .plain hback hquote .nil
  case neg =>
    rw [numericEscape]
    split
    · exact quoted_unitEscape _
    · exact (quoted_unitEscape _).append (quoted_unitEscape _)
  all_goals exact .escaped _ .nil

theorem quoted_escape (s : List Char) : Quoted '"' (escape plainAscii s) := by
  induction s with
  | nil => exact .nil
  | cons c s ih =>
      rw [escape, List.flatMap_cons]
      exact (quoted_escapeChar c).append ih

end Json

namespace Assertion

open Comment

/-- The characters that end a line of a script. -/
def lineTerminators : List Char := ['\n', '\r', '\u2028', '\u2029']

/-- What stands in a check in front of its literal. -/
def callFront : List Char := "__deepStrictEqual(".toList ++ nextOutput ++ ", ".toList

theorem expectOutput_false (text : Line) :
    expectOutput text false =
      callFront ++ '"' :: (Json.escape Json.plainAscii text ++ ['"']) ++ ");".toList := rfl

theorem expectOutput_true (text : Line) :
    expectOutput text true = "*/ ".toList ++ expectOutput text false ++ " /*".toList := rfl

theorem plainAscii_of_mem_expectOutput {text : Line} {inComment : Bool} {c : Char}
    (h : c ∈ expectOutput text inComment) : Json.plainAscii c = true := by
  have hcode : ∀ d ∈ expectOutput text false, Json.plainAscii d = true := by
    intro d hd
    rw [expectOutput_false, List.mem_append, List.mem_append] at hd
    rcases hd with (hfront | hliteral) | hback
    · exact List.all_eq_true.1 (by decide : callFront.all Json.plainAscii = true) d hfront
    · exact Json.plainAscii_of_mem_quoteAscii hliteral
    · exact List.all_eq_true.1 (by decide : ");".toList.all Json.plainAscii = true) d hback
  cases inComment with
  | false => exact hcode c h
  | true =>
      rw [expectOutput_true, List.mem_append, List.mem_append] at h
      rcases h with (hclose | hcheck) | hopen
      · exact List.all_eq_true.1 (by decide : "*/ ".toList.all Json.plainAscii = true) c hclose
      · exact hcode c hcheck
      · exact List.all_eq_true.1 (by decide : " /*".toList.all Json.plainAscii = true) c hopen

/-- A scan goes over a check from any point of code. -/
theorem exists_reaches_expectOutput (text : Line) (before rest : List Char) :
    ∃ after, Reaches ⟨.code, before, expectOutput text false ++ rest⟩ ⟨.code, after, rest⟩ := by
  have hfront := reaches_plain callFront before
    ('"' :: (Json.escape Json.plainAscii text ++ '"' :: (");".toList ++ rest))) (by decide)
  have hliteral := (Json.quoted_escape text).reaches_over (by decide)
    (callFront.reverse ++ before) (");".toList ++ rest)
  have hback := reaches_plain ");".toList
    ('"' :: ((Json.escape Json.plainAscii text).reverse ++
      '"' :: (callFront.reverse ++ before))) rest (by decide)
  have hpieces : expectOutput text false ++ rest = callFront ++
      '"' :: (Json.escape Json.plainAscii text ++ '"' :: (");".toList ++ rest)) := by
    rw [expectOutput_false]
    simp only [List.append_assoc, List.cons_append, List.nil_append]
  exact ⟨_, hpieces ▸ hfront.trans (hliteral.trans hback)⟩

theorem scan_expectOutput (text : Line) (inComment : Bool) :
    scan (expectOutput text inComment) inComment = ⟨inComment, none⟩ := by
  cases inComment with
  | false =>
      obtain ⟨after, hreach⟩ := exists_reaches_expectOutput text [] []
      rw [List.append_nil] at hreach
      exact Reaches.scan_eq hreach
  | true =>
      have hclose := Advances.closes [] (' ' :: (expectOutput text false ++ " /*".toList))
      have hblank := reaches_plain [' '] ['/', '*'] (expectOutput text false ++ " /*".toList)
        (by decide)
      obtain ⟨after, hreach⟩ := exists_reaches_expectOutput text [' ', '/', '*'] " /*".toList
      have hend := reaches_plain [' '] after "/*".toList (by decide)
      have hopen := Advances.opens (' ' :: after) []
      exact Reaches.scan_eq
        (.head hclose ((hblank.trans (hreach.trans hend)).tail hopen))

/-- A check of console output stands on one line and holds one literal, which is JSON for the
text that is expected. A scan of the check finds no line comment and ends as it starts, in
code or inside a comment. -/
theorem expectOutput_inert (text : Line) (inComment : Bool) :
    (∀ c ∈ lineTerminators, c ∉ expectOutput text inComment) ∧
      (∃ front inside back,
        expectOutput text inComment = front ++ '"' :: (inside ++ ['"']) ++ back ∧
        (∀ c ∈ front ++ back, isQuote c = false) ∧
        Json.read ('"' :: (inside ++ ['"'])) = .ok (.str (String.ofList text))) ∧
      scan (expectOutput text inComment) inComment = ⟨inComment, none⟩ := by
  have hbreaks : ∀ c ∈ lineTerminators, Json.plainAscii c = false :=
    forall_mem_eq_false (by decide)
  refine ⟨fun c hc hmem => ?_, ?_, scan_expectOutput text inComment⟩
  · have hplain := plainAscii_of_mem_expectOutput hmem
    rw [hbreaks c hc] at hplain
    cases hplain
  · cases inComment with
    | false =>
        exact ⟨callFront, Json.escape Json.plainAscii text, ");".toList, expectOutput_false text,
          forall_mem_eq_false (by decide), Json.read_quoteAscii text⟩
    | true =>
        refine ⟨"*/ ".toList ++ callFront, Json.escape Json.plainAscii text, ");".toList ++ " /*".toList,
          ?_, forall_mem_eq_false (by decide), Json.read_quoteAscii text⟩
        rw [expectOutput_true, expectOutput_false]
        simp only [List.append_assoc]

end Assertion

end DocExamples
