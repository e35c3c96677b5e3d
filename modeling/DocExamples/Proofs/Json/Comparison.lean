import DocExamples.Proofs.Json.Reading

/-!
# Values that are written in two styles

Scripts and the host write compact JSON alike, all but the numbers. So the text of a value
is the same on both sides if each of its numbers is, and this file says that it is the same
in no other way: the characters of numbers occur next to a number in no text, so two texts
that agree agree number by number.
-/

namespace DocExamples.Json

/-! ## Items and members -/

theorem itemsNumbers_eq_flatMap (items : List Json) :
    itemsNumbers items = items.flatMap numbers := by
  induction items with
  | nil => rfl
  | cons item items ih => rw [itemsNumbers, ih, List.flatMap_cons]

theorem membersNumbers_eq_flatMap (members : List (String × Json)) :
    membersNumbers members = members.flatMap fun m => m.2.numbers := by
  induction members with
  | nil => rfl
  | cons member members ih => rw [membersNumbers, ih, List.flatMap_cons]

theorem writeItems_eq_map (style : Style) (items : List Json) :
    writeItems style items = items.map (write style) := by
  induction items with
  | nil => rfl
  | cons item items ih => rw [writeItems, ih, List.map_cons]

/-- The text of one member of an object. -/
def memberText (style : Style) (member : String × Json) : List Char :=
  quote style.plain member.1.toList ++ style.nameSeparator ++ write style member.2

theorem writeMembers_eq_map (style : Style) (members : List (String × Json)) :
    writeMembers style members = members.map (memberText style) := by
  induction members with
  | nil => rfl
  | cons member members ih => rw [writeMembers, ih, List.map_cons, memberText]

/-- What holds of a value if it holds of its items or of the values of its members holds of every
value. -/
@[elab_as_elim]
theorem byParts {motive : Json → Prop} (null : motive .null) (bool : ∀ b, motive (.bool b))
    (int : ∀ n, motive (.int n)) (float : ∀ x, motive (.float x)) (str : ∀ s, motive (.str s))
    (arr : ∀ items, (∀ item ∈ items, motive item) → motive (.arr items))
    (obj : ∀ members, (∀ member ∈ members, motive member.2) → motive (.obj members)) (j : Json) :
    motive j := by
  cases j with
  | null => exact null
  | bool b => exact bool b
  | int n => exact int n
  | float x => exact float x
  | str s => exact str s
  | arr items => exact arr items fun item hitem => byParts null bool int float str arr obj item
  | obj members =>
      exact obj members fun member hmember => byParts null bool int float str arr obj member.2
termination_by sizeOf j
decreasing_by
  · have hsize := List.sizeOf_lt_of_mem hitem
    subst_vars
    rw [Json.arr.sizeOf_spec]
    omega
  · have hsize := List.sizeOf_lt_of_mem hmember
    have hpair : sizeOf member = 1 + sizeOf member.1 + sizeOf member.2 := rfl
    subst_vars
    rw [Json.obj.sizeOf_spec]
    omega

/-! ## Characters -/

theorem mem_joinWith {separator : List Char} {parts : List (List Char)} {c : Char}
    (h : c ∈ Text.joinWith separator parts) : c ∈ separator ∨ ∃ part ∈ parts, c ∈ part := by
  induction parts with
  | nil => exact absurd h List.not_mem_nil
  | cons part parts ih =>
      cases parts with
      | nil => exact .inr ⟨part, List.mem_cons_self, h⟩
      | cons next parts =>
          rw [Text.joinWith_cons_of_ne_nil _ _ (List.cons_ne_nil next parts), List.mem_append,
            List.mem_append] at h
          rcases h with (hpart | hmark) | hmore
          · exact .inr ⟨part, List.mem_cons_self, hpart⟩
          · exact .inl hmark
          · refine (ih hmore).imp_right ?_
            rintro ⟨other, hother, hc⟩
            exact ⟨other, List.mem_cons_of_mem _ hother, hc⟩

theorem plainAll_of_plainAscii {c : Char} (h : plainAscii c = true) : plainAll c = true :=
  decide_eq_true (le_of_plainAscii h)

theorem plainAll_enclosed {first last : Char} (hfirst : plainAscii first = true)
    (hlast : plainAscii last = true) {s : List Char} (hs : ∀ c ∈ s, plainAll c = true) :
    ∀ c ∈ first :: (s ++ [last]), plainAll c = true := by
  intro c hc
  rcases List.mem_cons.1 hc with rfl | hmem
  · exact plainAll_of_plainAscii hfirst
  · rcases List.mem_append.1 hmem with hin | hend
    · exact hs c hin
    · rw [List.mem_singleton.1 hend]
      exact plainAll_of_plainAscii hlast

theorem plainAll_joinWith {parts : List (List Char)}
    (hparts : ∀ part ∈ parts, ∀ c ∈ part, plainAll c = true) :
    ∀ c ∈ Text.joinWith [','] parts, plainAll c = true := by
  intro c hc
  rcases mem_joinWith hc with hmark | ⟨part, hpart, hin⟩
  · rw [List.mem_singleton.1 hmark]
    rfl
  · exact hparts part hpart c hin

/-- The text that a script writes has no control in it, if those of its numbers have none. -/
theorem plainAll_write {j : Json}
    (hnumbers : ∀ n ∈ j.numbers, ∀ c ∈ write Style.script n, plainAll c = true) :
    ∀ c ∈ write Style.script j, plainAll c = true := by
  induction j using byParts with
  | null => exact List.all_eq_true.1 (by decide)
  | bool b => cases b <;> exact List.all_eq_true.1 (by decide)
  | int n => exact hnumbers _ (List.mem_singleton_self _)
  | float x => exact hnumbers _ (List.mem_singleton_self _)
  | str s => exact fun c hc => plain_of_mem_quote (fun _ => plainAll_of_plainAscii) hc
  | arr items ih =>
      rw [numbers, itemsNumbers_eq_flatMap] at hnumbers
      rw [write, writeItems_eq_map]
      refine plainAll_enclosed rfl rfl (plainAll_joinWith ?_)
      intro part hpart
      obtain ⟨item, hitem, rfl⟩ := List.mem_map.1 hpart
      exact ih item hitem fun n hn => hnumbers n (List.mem_flatMap_of_mem hitem hn)
  | obj members ih =>
      rw [numbers, membersNumbers_eq_flatMap] at hnumbers
      rw [write, writeMembers_eq_map]
      refine plainAll_enclosed rfl rfl (plainAll_joinWith ?_)
      intro part hpart c hc
      obtain ⟨member, hmember, rfl⟩ := List.mem_map.1 hpart
      rw [memberText, List.mem_append, List.mem_append] at hc
      rcases hc with (hname | hmark) | hvalue
      · exact plain_of_mem_quote (fun _ => plainAll_of_plainAscii) hname
      · rw [List.mem_singleton.1 hmark]
        rfl
      · exact ih member hmember (fun n hn => hnumbers n (List.mem_flatMap_of_mem hmember hn)) c
          hvalue

/-! ## The marks of numbers -/

/-- Holds of the characters that numbers are written with. -/
def isNumberMark (c : Char) : Bool := isDigit c || "-+.e".toList.contains c

/-- Holds of a text of such characters. -/
def IsNumberText (s : List Char) : Prop := ∀ c ∈ s, isNumberMark c = true

/-- Holds of a text that does not go on with them. -/
def EndsMarks (rest : List Char) : Prop := ∀ c, rest.head? = some c → isNumberMark c = false

theorem endsMarks_nil : EndsMarks [] := fun _ h => absurd h (Option.some_ne_none _).symm

theorem endsMarks_cons {c : Char} (h : isNumberMark c = false) (rest : List Char) :
    EndsMarks (c :: rest) := by
  intro d hd
  rwa [← Option.some.inj hd]

theorem takeWhile_isNumberMark {s rest : List Char} (hs : IsNumberText s) (hrest : EndsMarks rest) :
    (s ++ rest).takeWhile isNumberMark = s := by
  rw [List.takeWhile_append_of_pos hs]
  cases rest with
  | nil => exact List.append_nil s
  | cons c rest =>
      rw [List.takeWhile_cons_of_neg (by rw [hrest c rfl]; exact Bool.false_ne_true),
        List.append_nil]

theorem append_inj_of_isNumberText {s t rest rest' : List Char} (hs : IsNumberText s)
    (ht : IsNumberText t) (hrest : EndsMarks rest) (hrest' : EndsMarks rest')
    (h : s ++ rest = t ++ rest') : s = t ∧ rest = rest' := by
  have hfront := congrArg (List.takeWhile isNumberMark) h
  rw [takeWhile_isNumberMark hs hrest, takeWhile_isNumberMark ht hrest'] at hfront
  subst hfront
  exact ⟨rfl, List.append_cancel_left h⟩

section

variable {f : Json → Json}

/-- Holds of a number that the host, taking another for it, writes as the script does. -/
def SameText (f : Json → Json) (n : Json) : Prop :=
  write Style.compact (f n) = write Style.script n

/-- Holds of a number that both sides write with the characters of numbers. -/
structure IsNumeral (f : Json → Json) (n : Json) : Prop where
  host : IsNumberText (write Style.compact (f n))
  script : IsNumberText (write Style.script n)

/-! ## Texts in front of others -/

/-- Holds of two texts that make equal texts, with others behind them, only as said and only if
those others are equal. -/
def AgreeOnly (agree : Prop) (s t : List Char) : Prop :=
  ∀ rest rest', EndsMarks rest → EndsMarks rest' → s ++ rest = t ++ rest' →
    agree ∧ rest = rest'

theorem AgreeOnly.of_agree {agree : Prop} (h : agree) (s : List Char) : AgreeOnly agree s s :=
  fun _ _ _ _ heq => ⟨h, List.append_cancel_left heq⟩

theorem AgreeOnly.imp {agree agree' : Prop} {s t : List Char} (h : AgreeOnly agree s t)
    (himp : agree → agree') : AgreeOnly agree' s t := by
  intro rest rest' hrest hrest' heq
  obtain ⟨hagree, hends⟩ := h rest rest' hrest hrest' heq
  exact ⟨himp hagree, hends⟩

theorem AgreeOnly.append_left {agree : Prop} {s t : List Char} (h : AgreeOnly agree s t)
    (front : List Char) : AgreeOnly agree (front ++ s) (front ++ t) := by
  intro rest rest' hrest hrest' heq
  rw [List.append_assoc, List.append_assoc] at heq
  exact h rest rest' hrest hrest' (List.append_cancel_left heq)

theorem AgreeOnly.separated {agree agree' : Prop} {s t s' t' : List Char}
    (h : AgreeOnly agree s t) (h' : AgreeOnly agree' s' t') {c : Char}
    (hc : isNumberMark c = false) (gap : List Char) :
    AgreeOnly (agree ∧ agree') (s ++ c :: gap ++ s') (t ++ c :: gap ++ t') := by
  intro rest rest' hrest hrest' heq
  rw [List.append_assoc, List.append_assoc, List.append_assoc, List.append_assoc,
    List.cons_append, List.cons_append] at heq
  obtain ⟨hagree, hmore⟩ := h _ _ (endsMarks_cons hc _) (endsMarks_cons hc _) heq
  have htails := List.append_cancel_left (List.cons.inj hmore).2
  obtain ⟨hagree', hends⟩ := h' rest rest' hrest hrest' htails
  exact ⟨⟨hagree, hagree'⟩, hends⟩

theorem AgreeOnly.enclosed {agree : Prop} {s t : List Char} (h : AgreeOnly agree s t)
    (first : Char) {last : Char} (hlast : isNumberMark last = false) :
    AgreeOnly agree (first :: (s ++ [last])) (first :: (t ++ [last])) := by
  intro rest rest' hrest hrest' heq
  rw [List.cons_append, List.cons_append, List.append_assoc, List.append_assoc] at heq
  obtain ⟨hagree, hends⟩ := h _ _ (endsMarks_cons hlast _) (endsMarks_cons hlast _)
    (List.cons.inj heq).2
  exact ⟨hagree, (List.cons.inj hends).2⟩

/-- Joined texts agree only part by part. -/
theorem AgreeOnly.joinWith {α : Type} {agree : α → Prop} {s t : α → List Char} {parts : List α}
    (h : ∀ part ∈ parts, AgreeOnly (agree part) (s part) (t part)) {c : Char}
    (hc : isNumberMark c = false) (gap : List Char) :
    AgreeOnly (∀ part ∈ parts, agree part) (Text.joinWith (c :: gap) (parts.map s))
      (Text.joinWith (c :: gap) (parts.map t)) := by
  induction parts with
  | nil => exact .of_agree (fun _ hmem => absurd hmem List.not_mem_nil) _
  | cons part parts ih =>
      obtain ⟨hpart, hparts⟩ := List.forall_mem_cons.1 h
      cases parts with
      | nil => exact hpart.imp fun hagree => List.forall_mem_singleton.2 hagree
      | cons next parts =>
          have hjoined := hpart.separated (ih hparts) hc gap
          have hsplit : ∀ text : α → List Char,
              Text.joinWith (c :: gap) ((part :: next :: parts).map text) =
                text part ++ c :: gap ++ Text.joinWith (c :: gap) ((next :: parts).map text) :=
            fun text => Text.joinWith_cons_of_ne_nil _ _ (List.cons_ne_nil _ _)
          rw [hsplit, hsplit]
          exact hjoined.imp List.forall_mem_cons.2

/-! ## Values -/

theorem renumberMembers_eq_map (members : List (String × Json)) :
    renumberMembers f members = members.map fun m => (m.1, m.2.renumber f) := by
  induction members with
  | nil => rfl
  | cons member members ih => rw [renumberMembers, ih, List.map_cons]

theorem write_arr_renumber (items : List Json) :
    write Style.compact ((arr items).renumber f) =
      '[' :: (Text.joinWith [','] (items.map fun item => write Style.compact (item.renumber f)) ++
        [']']) := by
  rw [renumber, write, writeItems_eq_map, renumberItems_eq_map, List.map_map]
  rfl

theorem write_obj_renumber (members : List (String × Json)) :
    write Style.compact ((obj members).renumber f) =
      '\x7b' :: (Text.joinWith [',']
        (members.map fun m => memberText Style.compact (m.1, m.2.renumber f)) ++ ['\x7d']) := by
  rw [renumber, write, writeMembers_eq_map, renumberMembers_eq_map, List.map_map]
  rfl

/-- Both sides write a value alike if they write each of its numbers alike. -/
theorem write_congr {j : Json} (h : ∀ n ∈ j.numbers, SameText f n) :
    write Style.compact (j.renumber f) = write Style.script j := by
  induction j using byParts with
  | int n => exact h _ (List.mem_singleton_self _)
  | float x => exact h _ (List.mem_singleton_self _)
  | null => rfl
  | bool b => cases b <;> rfl
  | str s => rfl
  | arr items ih =>
      rw [numbers, itemsNumbers_eq_flatMap] at h
      have hitems : items.map (fun item => write Style.compact (item.renumber f)) =
          items.map (write Style.script) :=
        List.map_congr_left fun item hitem => ih item hitem fun n hn =>
          h n (List.mem_flatMap_of_mem hitem hn)
      rw [write_arr_renumber, write, writeItems_eq_map, hitems]
      rfl
  | obj members ih =>
      rw [numbers, membersNumbers_eq_flatMap] at h
      have hmembers : members.map (fun m => memberText Style.compact (m.1, m.2.renumber f)) =
          members.map (memberText Style.script) := by
        refine List.map_congr_left fun member hmember => ?_
        have hvalue := ih member hmember fun n hn => h n (List.mem_flatMap_of_mem hmember hn)
        rw [memberText, memberText, hvalue]
        rfl
      rw [write_obj_renumber, write, writeMembers_eq_map, hmembers]
      rfl

/-- Both sides write a value alike only if they write each of its numbers alike. -/
theorem agreeOnly_write {j : Json} (hnumerals : ∀ n ∈ j.numbers, IsNumeral f n) :
    AgreeOnly (∀ n ∈ j.numbers, SameText f n) (write Style.compact (j.renumber f))
      (write Style.script j) := by
  have hnumber : ∀ n, IsNumeral f n → AgreeOnly (∀ k ∈ [n], SameText f k)
      (write Style.compact (f n)) (write Style.script n) := by
    intro n hnumeral rest rest' hrest hrest' heq
    exact (append_inj_of_isNumberText hnumeral.host hnumeral.script hrest hrest' heq).imp_left
      List.forall_mem_singleton.2
  -- without numbers there is nothing to say but that the rest is the same
  have hplain : ∀ s, AgreeOnly (∀ k ∈ [], SameText f k) s s :=
    AgreeOnly.of_agree fun n hn => absurd hn List.not_mem_nil
  induction j using byParts with
  | int n => exact hnumber _ (hnumerals _ (List.mem_singleton_self _))
  | float x => exact hnumber _ (hnumerals _ (List.mem_singleton_self _))
  | null => exact hplain _
  | bool b => cases b <;> exact hplain _
  | str s => exact hplain _
  | arr items ih =>
      have hnumbers : (arr items).numbers = items.flatMap numbers := itemsNumbers_eq_flatMap items
      have hitems := fun item hitem => ih item hitem fun n hn =>
        hnumerals n (hnumbers ▸ List.mem_flatMap_of_mem hitem hn)
      rw [write_arr_renumber, write, writeItems_eq_map, hnumbers]
      refine ((AgreeOnly.joinWith hitems rfl []).enclosed '[' rfl).imp ?_
      intro hagree n hn
      obtain ⟨item, hitem, hin⟩ := List.mem_flatMap.1 hn
      exact hagree item hitem n hin
  | obj members ih =>
      have hnumbers : (obj members).numbers = members.flatMap fun m => m.2.numbers :=
        membersNumbers_eq_flatMap members
      have hmembers : ∀ member ∈ members, AgreeOnly (∀ n ∈ member.2.numbers, SameText f n)
          (memberText Style.compact (member.1, member.2.renumber f))
          (memberText Style.script member) :=
        fun member hmember => (ih member hmember fun n hn =>
          hnumerals n (hnumbers ▸ List.mem_flatMap_of_mem hmember hn)).append_left _
      rw [write_obj_renumber, write, writeMembers_eq_map, hnumbers]
      refine ((AgreeOnly.joinWith hmembers rfl []).enclosed '\x7b' rfl).imp ?_
      intro hagree n hn
      obtain ⟨member, hmember, hin⟩ := List.mem_flatMap.1 hn
      exact hagree member hmember n hin

end

end DocExamples.Json
