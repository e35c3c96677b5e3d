import DocExamples.Document.Comment
import Mathlib.Data.List.Infix
import Mathlib.Logic.Relation

/-!
# The scan of a line as a walk

`Comment.scanFrom` reads a line in one recursion and gives what it has found at the end. To
compare the scans of two lines, one wants to stand at a point of a line and say how the
scan came there. Here the scan is a walk over points: `Advances` is one step, `Reaches` any
number of them, and `Halts` says where a walk ends and with what result. Every walk ends,
and the result of the scan is the one where it ends.

A step looks at few things: the characters that it passes, the one behind them, and of the
text in front only whether a slash there would open a regular expression. So does a walk,
and `Reaches.carry` says it once for everything that may be exchanged: the text in front,
as long as slashes are taken the same way (`SameView`), and the text behind, as long as it
starts with the same character or is gone.
-/

namespace DocExamples.Comment

/-- A point that the scan of a line comes to. -/
structure Point where
  mode : Mode
  /-- The text in front of the point, in reverse. -/
  before : List Char
  rest : List Char

/-- The point where the scan of a line starts that is no comment yet. -/
def Point.start (line : Line) : Point := ⟨.code, [], line⟩

/-- What the scan finds from a point on. -/
def Point.scan (a : Point) : Scan := scanFrom a.mode a.before a.rest

/-- One step of a scan. -/
inductive Advances : Point → Point → Prop where
  | closes (before rest : List Char) :
      Advances ⟨.comment, before, '*' :: '/' :: rest⟩ ⟨.code, '/' :: '*' :: before, rest⟩
  | remains {before rest : List Char} {c : Char} (hclose : ¬ ['*', '/'] <+: c :: rest) :
      Advances ⟨.comment, before, c :: rest⟩ ⟨.comment, c :: before, rest⟩
  | opens (before rest : List Char) :
      Advances ⟨.code, before, '/' :: '*' :: rest⟩ ⟨.comment, '*' :: '/' :: before, rest⟩
  /-- A character of code, which may be the delimiter of a literal. -/
  | passes {before rest : List Char} {c : Char} (hline : ¬ ['/', '/'] <+: c :: rest)
      (hblock : ¬ ['/', '*'] <+: c :: rest) :
      Advances ⟨.code, before, c :: rest⟩
        ⟨if opensLiteral before c then .literal c false else .code, c :: before, rest⟩
  | escapes (delimiter : Char) (inClass : Bool) (before : List Char) (c : Char)
      (rest : List Char) :
      Advances ⟨.literal delimiter inClass, before, '\\' :: c :: rest⟩
        ⟨.literal delimiter inClass, c :: '\\' :: before, rest⟩
  /-- A character of a literal, which may end it. -/
  | continues {delimiter : Char} {inClass : Bool} {before rest : List Char} {c : Char}
      (hescape : c ≠ '\\') :
      Advances ⟨.literal delimiter inClass, before, c :: rest⟩
        ⟨afterLiteralChar delimiter inClass c, c :: before, rest⟩

/-- Any number of steps of a scan. -/
abbrev Reaches : Point → Point → Prop := Relation.ReflTransGen Advances

/-- The points from which a scan does not go on, and what it has found there. -/
inductive Halts : Point → Scan → Prop where
  | inComment (before : List Char) : Halts ⟨.comment, before, []⟩ ⟨true, none⟩
  | inCode (before : List Char) : Halts ⟨.code, before, []⟩ ⟨false, none⟩
  /-- A comment that runs to the end of the line. -/
  | atComment (before more : List Char) :
      Halts ⟨.code, before, '/' :: '/' :: more⟩ ⟨false, some before.length⟩
  | inLiteral (delimiter : Char) (inClass : Bool) (before : List Char) :
      Halts ⟨.literal delimiter inClass, before, []⟩ ⟨false, none⟩
  | inEscape (delimiter : Char) (inClass : Bool) (before : List Char) :
      Halts ⟨.literal delimiter inClass, before, ['\\']⟩ ⟨false, none⟩

/-! ## Walks and results -/

/-- A text does not start with a mark of two characters, said as the scan says it. -/
theorem not_pair_iff {x y c : Char} {rest : List Char} :
    ¬ [x, y] <+: c :: rest ↔ ∀ more, c = x → rest = y :: more → False := by
  constructor
  · rintro h more rfl rfl
    exact h ⟨more, rfl⟩
  · rintro h ⟨more, hmore⟩
    obtain ⟨hc, hrest⟩ := List.cons.inj hmore
    exact h more hc.symm hrest.symm

theorem Halts.scan_eq {a : Point} {s : Scan} (h : Halts a s) : a.scan = s := by
  cases h <;> rfl

theorem Advances.scan_eq {a b : Point} (h : Advances a b) : a.scan = b.scan := by
  cases h with
  | closes => rfl
  | remains hclose =>
      rw [Point.scan, scanFrom]
      · rfl
      · exact not_pair_iff.1 hclose
  | opens => rfl
  | passes hline hblock =>
      rw [Point.scan, scanFrom]
      · rfl
      · exact not_pair_iff.1 hline
      · exact not_pair_iff.1 hblock
  | escapes => rfl
  | continues hescape =>
      rw [Point.scan, scanFrom]
      · rfl
      · exact fun hslash _ => hescape hslash
      · exact fun _ _ hslash _ => hescape hslash

theorem Reaches.scan_eq {a b : Point} (h : Reaches a b) : a.scan = b.scan := by
  induction h with
  | refl => rfl
  | tail _ hstep ih => exact ih.trans hstep.scan_eq

/-- Every walk ends, with the result of the scan. -/
theorem exists_halts (a : Point) : ∃ b, Reaches a b ∧ Halts b a.scan := by
  obtain ⟨mode, before, rest⟩ := a
  have hnext : ∀ {a b : Point}, Advances a b → (∃ e, Reaches b e ∧ Halts e b.scan) →
      ∃ e, Reaches a e ∧ Halts e a.scan := by
    rintro a b hstep ⟨e, hreach, hhalts⟩
    exact ⟨e, .head hstep hreach, hstep.scan_eq ▸ hhalts⟩
  -- by the recursion of the scan: it halts, or it has made one step
  fun_induction scanFrom mode before rest with
  | case1 before => exact ⟨_, .refl, .inComment before⟩
  | case2 before rest ih => exact hnext (.closes before rest) ih
  | case3 before c rest hclose ih => exact hnext (.remains (not_pair_iff.2 hclose)) ih
  | case4 before => exact ⟨_, .refl, .inCode before⟩
  | case5 before more => exact ⟨_, .refl, .atComment before more⟩
  | case6 before rest ih => exact hnext (.opens before rest) ih
  | case7 before c rest hline hblock ih =>
      exact hnext (.passes (not_pair_iff.2 hline) (not_pair_iff.2 hblock)) ih
  | case8 delimiter inClass before => exact ⟨_, .refl, .inLiteral delimiter inClass before⟩
  | case9 delimiter inClass before => exact ⟨_, .refl, .inEscape delimiter inClass before⟩
  | case10 delimiter inClass before c rest ih =>
      exact hnext (.escapes delimiter inClass before c rest) ih
  | case11 delimiter inClass before c rest hlast hescape ih =>
      refine hnext (.continues ?_) ih
      rintro rfl
      cases rest with
      | nil => exact hlast rfl rfl
      | cons d more => exact hescape d more rfl rfl

/-! ## What a walk depends on -/

/-- Holds of two texts, given in reverse, behind which slashes are taken the same way,
whatever comes in between. -/
def SameView (before before' : List Char) : Prop :=
  ∀ between, startsRegex (between ++ before) = startsRegex (between ++ before')

theorem SameView.refl (before : List Char) : SameView before before := fun _ => rfl

theorem SameView.append {before before' : List Char} (h : SameView before before')
    (between : List Char) : SameView (between ++ before) (between ++ before') := by
  intro more
  rw [← List.append_assoc, ← List.append_assoc]
  exact h (more ++ between)

theorem SameView.opensLiteral_eq {before before' : List Char} (h : SameView before before')
    (c : Char) : opensLiteral before c = opensLiteral before' c := by
  rw [opensLiteral, opensLiteral, show startsRegex before = startsRegex before' from h []]

/-- Holds of a text that starts with the first character of another, or is empty. -/
def StartsLike (tail rest : List Char) : Prop := tail.take 1 <+: rest

theorem StartsLike.refl (rest : List Char) : StartsLike rest rest := List.take_prefix 1 rest

theorem StartsLike.nil (rest : List Char) : StartsLike [] rest := List.nil_prefix

theorem StartsLike.cons (c : Char) (tail rest : List Char) :
    StartsLike (c :: tail) (c :: rest) :=
  List.cons_prefix_cons.2 ⟨rfl, List.nil_prefix⟩

theorem StartsLike.append {tail rest : List Char} (h : StartsLike tail rest)
    (front : List Char) : StartsLike (front ++ tail) (front ++ rest) := by
  cases front with
  | nil => exact h
  | cons c more => exact .cons c (more ++ tail) (more ++ rest)

/-- A text that starts like another brings up no pair of characters behind a third that the
other does not. -/
theorem StartsLike.not_pair {tail rest : List Char} (h : StartsLike tail rest) {x y c : Char}
    (hrest : ¬ [x, y] <+: c :: rest) : ¬ [x, y] <+: c :: tail := by
  intro hpair
  obtain ⟨hx, hy⟩ := List.cons_prefix_cons.1 hpair
  refine hrest (List.cons_prefix_cons.2 ⟨hx, ?_⟩)
  cases tail with
  | nil => exact absurd (List.prefix_nil.1 hy) (List.cons_ne_nil _ _)
  | cons d more =>
      rw [(List.cons_prefix_cons.1 hy).1]
      exact h

/-- A step passes a piece of the line, and it is made wherever this piece stands. -/
theorem Advances.carry {a b : Point} (h : Advances a b) :
    ∃ front, a.rest = front ++ b.rest ∧ b.before = front.reverse ++ a.before ∧
      ∀ before tail, SameView a.before before → StartsLike tail b.rest →
        Advances ⟨a.mode, before, front ++ tail⟩ ⟨b.mode, front.reverse ++ before, tail⟩ := by
  cases h with
  | closes => exact ⟨['*', '/'], rfl, rfl, fun before tail _ _ => .closes before tail⟩
  | @remains before rest c hclose =>
      exact ⟨[c], rfl, rfl, fun _ _ _ htail => .remains (htail.not_pair hclose)⟩
  | opens => exact ⟨['/', '*'], rfl, rfl, fun before tail _ _ => .opens before tail⟩
  | @passes before rest c hline hblock =>
      refine ⟨[c], rfl, rfl, fun before' tail hview htail => ?_⟩
      dsimp only
      rw [hview.opensLiteral_eq c]
      exact .passes (htail.not_pair hline) (htail.not_pair hblock)
  | escapes delimiter inClass before c rest =>
      exact ⟨['\\', c], rfl, rfl,
        fun before' tail _ _ => .escapes delimiter inClass before' c tail⟩
  | @continues delimiter inClass before rest c hescape =>
      exact ⟨[c], rfl, rfl, fun _ _ _ _ => .continues hescape⟩

/-- A walk passes a piece of the line, and it leads over this piece wherever it stands: in
front another text may stand behind which slashes are taken the same way, and behind it
another that starts with the same character or is empty. -/
theorem Reaches.carry {a b : Point} (h : Reaches a b) :
    ∃ front, a.rest = front ++ b.rest ∧ b.before = front.reverse ++ a.before ∧
      ∀ before tail, SameView a.before before → StartsLike tail b.rest →
        Reaches ⟨a.mode, before, front ++ tail⟩ ⟨b.mode, front.reverse ++ before, tail⟩ := by
  induction h with
  | refl => exact ⟨[], rfl, rfl, fun _ _ _ _ => .refl⟩
  | @tail b c _ hstep ih =>
      obtain ⟨first, hrest, hbefore, hwalk⟩ := ih
      obtain ⟨next, hrest', hbefore', hnext⟩ := hstep.carry
      refine ⟨first ++ next, ?_, ?_, fun before tail hview htail => ?_⟩
      · rw [hrest, hrest', List.append_assoc]
      · rw [hbefore', hbefore, List.reverse_append, List.append_assoc]
      have hfirst : StartsLike (next ++ tail) b.rest := hrest' ▸ htail.append next
      have hview' : SameView b.before (first.reverse ++ before) :=
        hbefore ▸ hview.append first.reverse
      rw [List.append_assoc, List.reverse_append, List.append_assoc]
      exact (hwalk before (next ++ tail) hview hfirst).tail (hnext _ tail hview' htail)

theorem Halts.carry {a : Point} {s : Scan} (h : Halts a s) (before : List Char) :
    ∃ s', Halts ⟨a.mode, before, a.rest⟩ s' ∧ s'.openAfter = s.openAfter ∧
      s'.start.map (· + a.before.length) = s.start.map (· + before.length) := by
  cases h with
  | inComment => exact ⟨_, .inComment before, rfl, rfl⟩
  | inCode => exact ⟨_, .inCode before, rfl, rfl⟩
  | atComment _ more =>
      exact ⟨_, .atComment before more, rfl, congrArg some (Nat.add_comm _ _)⟩
  | inLiteral delimiter inClass => exact ⟨_, .inLiteral delimiter inClass before, rfl, rfl⟩
  | inEscape delimiter inClass => exact ⟨_, .inEscape delimiter inClass before, rfl, rfl⟩

/-- A distance that is added on both sides does not matter for where comments start. -/
theorem map_add_cancel {i j : Option Nat} (k : Nat) {m n : Nat}
    (h : i.map (· + (k + m)) = j.map (· + (k + n))) : i.map (· + m) = j.map (· + n) := by
  cases i with
  | none => cases j <;> first | rfl | cases h
  | some i =>
      cases j with
      | none => cases h
      | some j =>
          have hsum : i + (k + m) = j + (k + n) := Option.some.inj h
          exact congrArg some (show i + m = j + n by omega)

/-- Behind texts with the same view the scan of a rest finds the same, and a comment as far
behind the one as behind the other. -/
theorem SameView.scanFrom {before before' : List Char} (h : SameView before before')
    (mode : Mode) (rest : List Char) :
    (scanFrom mode before' rest).openAfter = (scanFrom mode before rest).openAfter ∧
      (scanFrom mode before' rest).start.map (· + before.length) =
        (scanFrom mode before rest).start.map (· + before'.length) := by
  obtain ⟨b, hreach, hhalts⟩ := exists_halts ⟨mode, before, rest⟩
  obtain ⟨front, hrest, hbefore, hwalk⟩ := hreach.carry
  obtain ⟨s, hhalts', hopen, hstart⟩ := hhalts.carry (front.reverse ++ before')
  have hscan : Comment.scanFrom mode before' rest = s := by
    rw [show rest = front ++ b.rest from hrest]
    exact (hwalk before' b.rest h (.refl b.rest)).scan_eq.trans hhalts'.scan_eq
  rw [hbefore, List.length_append, List.length_append] at hstart
  rw [hscan]
  exact ⟨hopen, map_add_cancel _ hstart⟩

/-- Where a scan finds a line comment, it has come to the comment in code, and it comes there
as well if the comment is exchanged for another or taken away. -/
theorem exists_front_of_start {a : Point} {i : Nat} (h : a.scan.start = some i) :
    ∃ front more, a.rest = front ++ '/' :: '/' :: more ∧ i = a.before.length + front.length ∧
      ∀ tail, StartsLike tail ('/' :: '/' :: more) →
        Reaches ⟨a.mode, a.before, front ++ tail⟩ ⟨.code, front.reverse ++ a.before, tail⟩ := by
  obtain ⟨b, hreach, hhalts⟩ := exists_halts a
  obtain ⟨front, hrest, hbefore, hwalk⟩ := hreach.carry
  generalize a.scan = s at h hhalts
  cases hhalts with
  | atComment before more =>
      refine ⟨front, more, hrest, ?_, fun tail htail => hwalk _ tail (.refl a.before) htail⟩
      rw [← Option.some.inj h, show before = front.reverse ++ a.before from hbefore,
        List.length_append, List.length_reverse, Nat.add_comm]
  | _ => cases h

end DocExamples.Comment
