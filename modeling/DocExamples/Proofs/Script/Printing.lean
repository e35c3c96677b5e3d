import DocExamples.Proofs.Console.Line
import DocExamples.Proofs.Run.Account
import DocExamples.Proofs.Script.Output
import DocExamples.Proofs.Script.Quiet

/-!
# What a call of the console prints

A call of the console shows its values in one of two ways: as the host shows their JSON,
with texts as they are, or by their texts. Which one it is is settled for the whole call,
and one value without JSON among the others is enough for the second. So the line for
two lists of values is not always the lines for each of them, one behind the other: it is
if both lists are shown in the same way, and if they are not, exactly when the list
that has JSON looks the same by its texts.
-/

namespace DocExamples.Script

open Console Json

namespace Value

/-! ## JSON that the host reads -/

mutual

/-- Holds of a value with numbers as scripts have them, in which no object has two members of one
name. -/
def IsSound : Value → Prop
  | number x => ∀ negative m e, x = .finite negative m e → Number.Double.IsProper m e
  | array _ items => ItemsSound items
  | object _ _ members | error _ _ _ members =>
    (members.map Prod.fst).Nodup ∧ MembersSound members
  | boxed _ inner => inner.IsSound
  | _ => True

/-- Holds of items that are sound. -/
def ItemsSound : List (Option Value) → Prop
  | [] => True
  | none :: more => ItemsSound more
  | some v :: more => v.IsSound ∧ ItemsSound more

/-- Holds of members with sound values. -/
def MembersSound : List (String × Option Value) → Prop
  | [] => True
  | (_, none) :: more => MembersSound more
  | (_, some v) :: more => v.IsSound ∧ MembersSound more

end

/-- Holds of JSON that the host reads where a script has written it. -/
structure IsReadBack (j : Json) : Prop where
  numbers : ∀ n ∈ j.numbers, IsScriptNumber n
  apart : j.NamesApart

theorem isReadBack_of_no_numbers {j : Json} (hnumbers : j.numbers = []) (hapart : j.NamesApart) :
    IsReadBack j :=
  ⟨fun _ hn => absurd (hnumbers ▸ hn) List.not_mem_nil, hapart⟩

theorem isReadBack_number {x : Number.Double} (hx : (number x).IsSound) {j : Json}
    (h : plainJson (number x) = some j) : IsReadBack j := by
  rw [plainJson] at h
  split at h
  · next hfinite =>
      cases h
      cases x with
      | finite negative m e =>
          refine ⟨fun n hn => ?_, trivial⟩
          rw [List.mem_singleton.1 hn]
          exact ⟨negative, m, e, rfl, hx negative m e rfl⟩
      | _ => exact nomatch hfinite
  · cases h
    exact isReadBack_of_no_numbers rfl trivial

theorem isReadBack_of_plainJson {v : Value} (hv : v.IsSound) {j : Json}
    (h : v.plainJson = some j) : IsReadBack j := by
  cases v with
  | number x => exact isReadBack_number hv h
  | undefined => exact nomatch h
  | symbol id description => exact nomatch h
  | function id source scope => exact nomatch h
  | native name => exact nomatch h
  | date id time =>
      cases time <;>
        · cases h
          exact isReadBack_of_no_numbers rfl trivial
  | null =>
      cases h
      exact isReadBack_of_no_numbers rfl trivial
  | bool b =>
      cases h
      exact isReadBack_of_no_numbers rfl trivial
  | text s =>
      cases h
      exact isReadBack_of_no_numbers rfl trivial
  | _ =>
      cases h
      exact isReadBack_of_no_numbers rfl ⟨List.nodup_nil, trivial⟩

mutual

/-- The JSON of a sound value is read by the host. -/
theorem isReadBack_of_toJson {v : Value} (hv : v.IsSound) {j : Json}
    (h : v.toJson = .ok (some j)) : IsReadBack j := by
  cases v with
  | bigint n => exact nomatch h
  | array id items =>
      obtain ⟨js, hitems, heq⟩ := Except.map_eq_ok h
      cases heq
      exact isReadBack_of_itemsJson hv hitems
  | object id ancestry members =>
      obtain ⟨js, hmembers, heq⟩ := Except.map_eq_ok h
      cases heq
      exact (isReadBack_of_membersJson hv.1 hv.2 hmembers).1
  | error id maker message members =>
      obtain ⟨js, hmembers, heq⟩ := Except.map_eq_ok h
      cases heq
      exact (isReadBack_of_membersJson hv.1 hv.2 hmembers).1
  | boxed id inner =>
      cases inner with
      | number x => exact isReadBack_number hv (Except.ok.inj h)
      | bigint n => exact nomatch h
      | bool b =>
          cases h
          exact isReadBack_of_no_numbers rfl trivial
      | text s =>
          cases h
          exact isReadBack_of_no_numbers rfl trivial
      | _ =>
          cases h
          exact isReadBack_of_no_numbers rfl ⟨List.nodup_nil, trivial⟩
  | _ => exact isReadBack_of_plainJson hv (Except.ok.inj h)

theorem isReadBack_of_itemsJson {items : List (Option Value)} (hitems : ItemsSound items)
    {js : List Json} (h : itemsJson items = .ok js) : IsReadBack (.arr js) := by
  cases items with
  | nil =>
      cases h
      exact isReadBack_of_no_numbers rfl trivial
  | cons item more =>
      cases item with
      | none =>
          obtain ⟨js, hmore, rfl⟩ := Except.map_eq_ok h
          obtain ⟨hnumbers, hapart⟩ := @isReadBack_of_itemsJson more hitems js hmore
          exact ⟨hnumbers, trivial, hapart⟩
      | some v =>
          obtain ⟨item, hitem, hrest⟩ := Except.bind_eq_ok h
          obtain ⟨js, hmore, heq⟩ := Except.bind_eq_ok hrest
          cases heq
          obtain ⟨hnumbers, hapart⟩ := isReadBack_of_itemsJson hitems.2 hmore
          cases item with
          | none => exact ⟨hnumbers, trivial, hapart⟩
          | some j =>
              have hj := isReadBack_of_toJson hitems.1 hitem
              exact ⟨List.forall_mem_append.2 ⟨hj.numbers, hnumbers⟩, hj.apart, hapart⟩

theorem isReadBack_of_membersJson {members : List (String × Option Value)}
    (hnames : (members.map Prod.fst).Nodup) (hmembers : MembersSound members)
    {js : List (String × Json)} (h : membersJson members = .ok js) :
    IsReadBack (.obj js) ∧ (js.map Prod.fst).Sublist (members.map Prod.fst) := by
  cases members with
  | nil =>
      cases h
      exact ⟨isReadBack_of_no_numbers rfl ⟨List.nodup_nil, trivial⟩, List.Sublist.refl _⟩
  | cons member more =>
      obtain ⟨name, _ | v⟩ := member
      · exact nomatch h
      · obtain ⟨member, hmember, hrest⟩ := Except.bind_eq_ok h
        obtain ⟨js, hmore, heq⟩ := Except.bind_eq_ok hrest
        cases heq
        obtain ⟨hread, hsub⟩ :=
          isReadBack_of_membersJson (List.nodup_cons.1 hnames).2 hmembers.2 hmore
        cases member with
        | none => exact ⟨hread, hsub.cons name⟩
        | some j =>
            have hj := isReadBack_of_toJson hmembers.1 hmember
            have hsub' : (((name, j) :: js).map Prod.fst).Sublist
                (((name, some v) :: more).map Prod.fst) := hsub.cons_cons name
            exact ⟨⟨List.forall_mem_append.2 ⟨hj.numbers, hread.numbers⟩,
              hsub'.nodup hnames, hj.apart, hread.apart.2⟩, hsub'⟩

end

theorem IsSound.taken {v : Value} (h : v.IsSound) : v.taken.IsSound := by
  cases v with
  | number x =>
      rw [Value.taken]
      split
      · exact h
      · trivial
  | undefined => trivial
  | symbol id description => trivial
  | function id source scope => trivial
  | native name => trivial
  | bigint n => trivial
  | _ => exact h

/-! ## The two ways to show values -/

/-- The JSON of a value as the console takes it. -/
def jsonOf (v : Value) : Except Thrown Json := v.taken.toJson.map fun j => j.getD .null

/-- Holds of a value that has JSON. -/
def hasJson (v : Value) : Bool := v.jsonOf.toOption.isSome

/-- What is shown of a value: by its text, or by its JSON, which the host reads. -/
def printed (byText : Bool) (v : Value) : Except Thrown (List Char) :=
  if byText then v.taken.toText
  else do
    let j ← v.jsonOf
    if j.height < deepest then .ok (shown (j.renumber hostNumber)) else .error .host

/-- The line for values that are all shown in one way. -/
def lineIn (byText : Bool) (values : List Value) : Except Thrown String :=
  (values.mapM (printed byText)).map fun parts => String.ofList (Text.joinWith [' '] parts)

/-- Holds of values that are shown by their texts, for one of them has no JSON. -/
def inTexts (values : List Value) : Bool := values.any fun v => !v.hasJson

theorem itemsJson_map_some (values : List Value) :
    itemsJson ((values.map taken).map some) = values.mapM jsonOf := by
  induction values with
  | nil => rfl
  | cons v values ih =>
      rw [List.map_cons, List.map_cons, itemsJson, ih, List.mapM_cons, jsonOf]
      cases v.taken.toJson with
      | error t => rfl
      | ok j => rfl

theorem exists_mapM_jsonOf_iff (values : List Value) :
    (∃ js, values.mapM jsonOf = .ok js) ↔ inTexts values = false := by
  induction values with
  | nil => exact iff_of_true ⟨[], rfl⟩ rfl
  | cons v values ih =>
      rw [inTexts, List.any_cons, Bool.or_eq_false_iff, ← inTexts, ← ih, List.mapM_cons, hasJson]
      cases v.jsonOf with
      | error t => exact iff_of_false (fun ⟨_, h⟩ => nomatch h) fun h => nomatch h.1
      | ok j =>
          cases values.mapM jsonOf with
          | error t => exact iff_of_false (fun ⟨_, h⟩ => nomatch h) fun ⟨_, _, h⟩ => nomatch h
          | ok js => exact iff_of_true ⟨_, rfl⟩ ⟨rfl, js, rfl⟩

theorem inTexts_append (vs ws : List Value) : inTexts (vs ++ ws) = (inTexts vs || inTexts ws) :=
  List.any_append

theorem exists_of_mapM_cons {ε α β : Type} {f : α → Except ε β} {a : α} {l : List α} {bs : List β}
    (h : (a :: l).mapM f = .ok bs) :
    ∃ b more, f a = .ok b ∧ l.mapM f = .ok more ∧ bs = b :: more := by
  rw [List.mapM_cons] at h
  obtain ⟨b, hb, hrest⟩ := Except.bind_eq_ok h
  obtain ⟨more, hmore, heq⟩ := Except.bind_eq_ok hrest
  cases heq
  exact ⟨b, more, hb, hmore, rfl⟩

theorem itemsSound_taken {values : List Value} (hvalues : ∀ v ∈ values, v.IsSound) :
    ItemsSound ((values.map taken).map some) := by
  induction values with
  | nil => trivial
  | cons v values ih =>
      obtain ⟨hv, hmore⟩ := List.forall_mem_cons.1 hvalues
      exact ⟨hv.taken, ih hmore⟩

theorem isReadBack_of_mapM_jsonOf {values : List Value} (hvalues : ∀ v ∈ values, v.IsSound)
    {js : List Json} (h : values.mapM jsonOf = .ok js) : IsReadBack (.arr js) :=
  isReadBack_of_itemsJson (itemsSound_taken hvalues) ((itemsJson_map_some values).trans h)

/-- Values that all have JSON are shown unless the host cannot read one of them. -/
theorem mapM_printed_of_json {values : List Value} {js : List Json}
    (h : values.mapM jsonOf = .ok js) :
    values.mapM (printed false) =
      if itemsHeight js < deepest then .ok (js.map fun j => shown (j.renumber hostNumber))
      else .error .host := by
  induction values generalizing js with
  | nil =>
      cases h
      rfl
  | cons v values ih =>
      obtain ⟨j, js, hj, hjs, rfl⟩ := exists_of_mapM_cons h
      have hprinted : printed false v =
          if j.height < deepest then .ok (shown (j.renumber hostNumber)) else .error .host := by
        rw [printed, hj]
        rfl
      rw [List.mapM_cons, hprinted, ih hjs, itemsHeight]
      by_cases hhead : j.height < deepest
      · by_cases hrest : itemsHeight js < deepest
        · rw [if_pos hhead, if_pos hrest, if_pos (Nat.max_lt.2 ⟨hhead, hrest⟩)]
          rfl
        · rw [if_pos hhead, if_neg hrest, if_neg fun hmax => hrest (Nat.max_lt.1 hmax).2]
          rfl
      · rw [if_neg hhead, if_neg fun hmax => hhead (Nat.max_lt.1 hmax).1]
        rfl

/-- What is no object is shown in the same way by its text and by its JSON, but for numbers that the
host writes in a way of its own. -/
theorem printed_eq_of_plain {v : Value} (hquiet : v.IsQuiet) (hkind : v.kind? = none)
    (hnumber : ∀ x, v = number x → x.isFinite = true → SameText hostNumber (.float x)) :
    printed true v = printed false v := by
  have htext : ∀ s, v.taken = text s → printed true v = printed false v := by
    intro s hs
    rw [printed, printed, jsonOf, hs]
    rfl
  cases v with
  | null => rfl
  | bool b => cases b <;> rfl
  | text s => exact htext s rfl
  | undefined => exact htext _ rfl
  | symbol id description => exact htext _ rfl
  | function id source scope => exact htext _ rfl
  | native name => exact htext _ rfl
  | bigint n => exact htext _ rfl
  | computed f => exact nomatch hquiet.calls
  | number x =>
      by_cases hfinite : x.isFinite = true
      · have htaken : (number x).taken = number x := if_pos hfinite
        have hplain : (number x).plainJson = some (.float x) := congrArg some (if_pos hfinite)
        have hjson : (number x).jsonOf = .ok (.float x) := by
          rw [jsonOf, htaken]
          exact congrArg (fun j => Except.ok (j.getD .null)) hplain
        have hshown : shown (hostNumber (.float x)) = Number.Layout.script.text x :=
          (@shown_hostNumber (.float x) nofun).trans (hnumber x rfl hfinite)
        rw [printed, printed, if_pos rfl, if_neg Bool.false_ne_true, htaken, hjson]
        exact congrArg Except.ok hshown.symm
      · exact htext _ (if_neg hfinite)
  | boxed id inner => cases inner <;> exact nomatch hkind
  | object id ancestry members => cases ancestry <;> exact nomatch hkind
  | _ => exact nomatch hkind

/-! ## Payloads -/

theorem stringify_array (values : List Value) :
    Conversions.standard.stringify (.array 0 ((values.map taken).map some)) =
      (values.mapM jsonOf).map fun js => .text (Console.payload js) := by
  have hjson : (Value.array 0 ((values.map taken).map some)).toJson =
      (values.mapM jsonOf).map fun js => some (.arr js) := by
    rw [toJson, itemsJson_map_some]
  show ((Value.jsonText _).map fun t => (t.map Value.text).getD .undefined) = _
  rw [jsonText, hjson]
  cases values.mapM jsonOf <;> rfl

theorem mapM_jsonOf_texts (texts : List (List Char)) :
    (texts.map fun s => text (String.ofList s)).mapM jsonOf =
      .ok (texts.map fun s => .str (String.ofList s)) := by
  rw [List.mapM_map]
  exact List.mapM_pure

/-- The payload of values that have JSON is that of their JSON. -/
theorem payload_of_json {values : List Value} {js : List Json}
    (h : values.mapM jsonOf = .ok js) :
    Value.payload values = .ok (.text (Console.payload js)) := by
  show (values.mapM Conversions.standard.forConsole >>= fun converted => _) = _
  rw [mapM_forConsole]
  show tryCatchThe Thrown (Conversions.standard.stringify _) _ = _
  rw [stringify_array, h]
  rfl

/-- Where a value has no JSON, the payload is that of the texts of all. -/
theorem payload_of_texts {values : List Value} {t : Thrown}
    (h : values.mapM jsonOf = .error t) :
    Value.payload values = ((values.map taken).mapM toText).map fun texts =>
      .text (Console.payload (texts.map fun s => .str (String.ofList s))) := by
  have htaken : ∀ texts : List (List Char), (texts.map fun s => text (String.ofList s)).map taken =
      texts.map fun s => text (String.ofList s) := by
    intro texts
    rw [List.map_map]
    rfl
  show (values.mapM Conversions.standard.forConsole >>= fun converted => _) = _
  rw [mapM_forConsole]
  show tryCatchThe Thrown (Conversions.standard.stringify _) _ = _
  rw [stringify_array, h]
  show ((values.map taken).mapM Conversions.standard.text >>= fun texts =>
    Conversions.standard.stringify (.array 0 (texts.map some))) = _
  rw [mapM_text]
  cases (values.map taken).mapM toText with
  | error t => rfl
  | ok texts =>
      show Conversions.standard.stringify (.array 0 ((texts.map fun s => _).map some)) = _
      rw [← htaken, stringify_array, mapM_jsonOf_texts]
      rfl

theorem lineIn_false {values : List Value} {js : List Json} (h : values.mapM jsonOf = .ok js) :
    lineIn false values =
      if itemsHeight js < deepest then .ok (line (js.map (renumber hostNumber)))
      else .error .host := by
  rw [lineIn, mapM_printed_of_json h]
  split
  · rw [line, List.map_map]
    rfl
  · rfl

theorem lineIn_true (values : List Value) :
    lineIn true values = ((values.map taken).mapM toText).map fun texts =>
      String.ofList (Text.joinWith [' '] texts) := by
  rw [lineIn, List.mapM_map]
  rfl

theorem mapM_ne_nil {ε α β : Type} {f : α → Except ε β} {l : List α} (hl : l ≠ []) {bs : List β}
    (h : l.mapM f = .ok bs) : bs ≠ [] := by
  obtain ⟨a, l, rfl⟩ := List.exists_cons_of_ne_nil hl
  obtain ⟨b, more, -, -, rfl⟩ := exists_of_mapM_cons h
  exact List.cons_ne_nil b more

/-- In one way, two lists of values are shown one behind the other. -/
theorem lineIn_append (byText : Bool) {vs ws : List Value} (hvs : vs ≠ []) (hws : ws ≠ [])
    (line : String) :
    lineIn byText (vs ++ ws) = .ok line ↔
      ∃ a b, lineIn byText vs = .ok a ∧ lineIn byText ws = .ok b ∧ line = a ++ " " ++ b := by
  rw [lineIn, lineIn, lineIn, List.mapM_append]
  cases hfront : vs.mapM (printed byText) with
  | error t => exact iff_of_false (fun h => nomatch h) fun ⟨_, _, h, _⟩ => nomatch h
  | ok front =>
      cases hmore : ws.mapM (printed byText) with
      | error t => exact iff_of_false (fun h => nomatch h) fun ⟨_, _, _, h, _⟩ => nomatch h
      | ok more =>
          have hjoined : String.ofList (Text.joinWith [' '] (front ++ more)) =
              String.ofList (Text.joinWith [' '] front) ++ " " ++
                String.ofList (Text.joinWith [' '] more) := by
            rw [Text.joinWith_append _ (mapM_ne_nil hvs hfront) (mapM_ne_nil hws hmore),
              String.ofList_append, String.ofList_append]
          constructor
          · rintro ⟨⟩
            exact ⟨_, _, rfl, rfl, hjoined⟩
          · rintro ⟨_, _, ⟨⟩, ⟨⟩, rfl⟩
            exact congrArg Except.ok hjoined

/-- Texts are read back as they are. -/
theorem readBack_texts (texts : List (List Char)) :
    IsReadBack (.arr (texts.map fun s => .str (String.ofList s))) ∧
      itemsHeight (texts.map fun s => .str (String.ofList s)) < deepest ∧
      line ((texts.map fun s => .str (String.ofList s)).map (renumber hostNumber)) =
        String.ofList (Text.joinWith [' '] texts) := by
  have hflat : IsReadBack (.arr (texts.map fun s => .str (String.ofList s))) ∧
      itemsHeight (texts.map fun s => .str (String.ofList s)) = 0 := by
    induction texts with
    | nil => exact ⟨isReadBack_of_no_numbers rfl trivial, rfl⟩
    | cons s texts ih =>
        obtain ⟨⟨hnumbers, hapart⟩, hheight⟩ := ih
        exact ⟨⟨hnumbers, trivial, hapart⟩, (Nat.zero_max _).trans hheight⟩
  have hshown :
      texts.map (shown ∘ renumber hostNumber ∘ fun s => .str (String.ofList s)) = texts := by
    refine (List.map_congr_left fun s _ => ?_).trans (List.map_id texts)
    exact String.toList_ofList
  refine ⟨hflat.1, hflat.2 ▸ (by decide), ?_⟩
  rw [line, List.map_map, List.map_map]
  exact congrArg (fun parts => String.ofList (Text.joinWith [' '] parts)) hshown

end Value

/-! ## Lines of the host -/

theorem plainAll_of_isNumberMark {c : Char} (h : isNumberMark c = true) : plainAll c = true := by
  rw [isNumberMark, Bool.or_eq_true] at h
  rcases h with hdigit | hmark
  · rw [isDigit, Bool.and_eq_true, decide_eq_true_iff] at hdigit
    have hle : 48 ≤ c.toNat := Char.le_def.1 hdigit.1
    exact decide_eq_true (by omega)
  · have hall : "-+.e".toList.all plainAll = true := by decide
    exact List.all_eq_true.1 hall c (List.contains_iff_mem.1 hmark)

/-- A payload crosses the border to the host as it is. -/
theorem crossing_payload {js : List Json} (hnumbers : ∀ n ∈ itemsNumbers js, IsScriptNumber n) :
    Thrown.crossing (Console.payload js) = Console.payload js := by
  have hplain : ∀ c ∈ write Style.script (.arr js), plainAll c = true :=
    @plainAll_write (.arr js) fun n hn c hc =>
      plainAll_of_isNumberMark ((isNumeral_hostNumber (hnumbers n hn)).script c hc)
  rw [Thrown.crossing, Console.payload, String.toList_ofList, List.takeWhile_eq_self_iff.2]
  intro c hc
  rw [decide_eq_true_iff]
  rintro rfl
  exact absurd (hplain _ hc) (by decide)

namespace Session

/-- A session in which the functions that the console relies on are those of its start. -/
structure KeepsConsole (s : Session) : Prop extends s.Converts where
  arrays : s.globals.find? "Array" = none
  host : s.globals.find? "__hostLog" = none

/-- A session with one more line in its console. -/
def withLine (s : Session) (line : String) : Session :=
  s.withLines (s.sandbox.console.lines ++ [line])

theorem run_callHost_log (payload : String) (s : Session) :
    (callHost (.log payload)).run.run s =
      match Sandbox.lineOf payload with
      | .ok line => (.ok "", s.withLine line)
      | .error _ => (.error .host, s) := by
  cases h : Sandbox.lineOf payload with
  | ok line => exact gives_callHost (Sandbox.call_log_of_ok h)
  | error e =>
      have hcall : Gives
          (modifyGet fun s : Session => ((s.sandbox.call (.log payload)).1,
            { s with sandbox := (s.sandbox.call (.log payload)).2 })) s (.error e) s := by
        show (Except.ok (s.sandbox.call (.log payload)).1, { s with
          sandbox := (s.sandbox.call (.log payload)).2 }) = _
        rw [Sandbox.call_log_of_error h]
      exact hcall.run_next

section

variable {s : Session} (hs : s.KeepsConsole) (call : Caller)

include hs

theorem run_askHost_log {js : List Json} (hread : Value.IsReadBack (.arr js)) :
    (askHost call "__hostLog" .log [.text (Console.payload js)]).run.run s =
      if itemsHeight js < deepest then
        (.ok (.text ""), s.withLine (line (js.map (renumber hostNumber))))
      else (.error .host, s) := by
  have hargument : Gives (hostArgument [.text (Console.payload js)]) s (Console.payload js) s :=
    congrArg (fun payload => (Except.ok payload, s)) (crossing_payload hread.numbers)
  have hask : (askHost call "__hostLog" .log [.text (Console.payload js)]).run.run s =
      (callHost (.log (Console.payload js)) >>= fun reply =>
        pure (Value.text reply)).run.run s := by
    refine (gives_replaced? "__hostLog" s).run_next.trans ?_
    rw [hs.host]
    exact hargument.run_next
  rw [hask, run_bind, run_callHost_log]
  by_cases hshallow : itemsHeight js < deepest
  · rw [if_pos hshallow, lineOf_payload hread.numbers hread.apart hshallow]
    rfl
  · obtain ⟨nest, herror⟩ :=
      lineOf_payload_of_deep hread.numbers hread.apart (Nat.le_of_not_lt hshallow)
    rw [if_neg hshallow, herror]

/-- A call of the console adds the line for its values, or it throws and adds none. -/
theorem run_log {values : List Value} (hquiet : ∀ v ∈ values, v.IsQuiet)
    (hsound : ∀ v ∈ values, v.IsSound) :
    (log call values).run.run s =
      match Value.lineIn (Value.inTexts values) values with
      | .ok line => (.ok (), s.withLine line)
      | .error t => (.error t, s) := by
  have harrays : Gives (needsArrays call) s () s := by
    rw [needsArrays]
    refine (gives_replaced? "Array" s).bind ?_
    rw [hs.arrays]
    exact .pure () s
  have hpayload := settles_payload hs.toConverts call hquiet
  rw [log, harrays.run_next, run_bind, hpayload]
  cases hjson : values.mapM Value.jsonOf with
  | ok js =>
      have hread := Value.isReadBack_of_mapM_jsonOf hsound hjson
      rw [(Value.exists_mapM_jsonOf_iff values).1 ⟨js, hjson⟩, Value.payload_of_json hjson,
        Value.lineIn_false hjson]
      show (askHost call "__hostLog" .log [.text (Console.payload js)] >>= fun _ => _).run.run s = _
      rw [run_bind, run_askHost_log hs call hread]
      by_cases hshallow : itemsHeight js < deepest
      · rw [if_pos hshallow, if_pos hshallow]
        rfl
      · rw [if_neg hshallow, if_neg hshallow]
  | error t =>
      have htexts : Value.inTexts values = true := by
        rw [← Bool.not_eq_false, ← Value.exists_mapM_jsonOf_iff, hjson]
        exact fun ⟨_, h⟩ => nomatch h
      rw [htexts, Value.payload_of_texts hjson, Value.lineIn_true]
      cases (values.map Value.taken).mapM Value.toText with
      | error t => rfl
      | ok texts =>
          obtain ⟨hread, hshallow, hline⟩ := Value.readBack_texts texts
          show (askHost call "__hostLog" .log [.text (Console.payload _)] >>=
            fun _ => _).run.run s = _
          rw [run_bind, run_askHost_log hs call hread, if_pos hshallow, hline]
          rfl

end

/-! ## Calls of the console -/

/-- The function of the console adds a line and does nothing else. -/
def Prints (s : Session) (values : List Value) (line : String) : Prop :=
  Gives (machine.call (.native "log") Standard.console values) s .undefined (s.withLine line)

theorem withLine_inj {s : Session} {a b : String} (h : s.withLine a = s.withLine b) : a = b := by
  have hlines := congrArg (fun s : Session => s.sandbox.console.lines) h
  exact List.singleton_inj.1 (List.append_cancel_left hlines)

theorem prints_iff {s : Session} (hs : s.KeepsConsole) {values : List Value}
    (hquiet : ∀ v ∈ values, v.IsQuiet) (hsound : ∀ v ∈ values, v.IsSound) (line : String) :
    Prints s values line ↔ Value.lineIn (Value.inTexts values) values = .ok line := by
  have hcall : (machine.call (.native "log") Standard.console values).run.run s =
      (log (machineWithin 499).call values >>= fun _ => pure .undefined).run.run s := rfl
  rw [Prints, Gives, hcall, run_bind, run_log hs _ hquiet hsound]
  cases Value.lineIn (Value.inTexts values) values with
  | error t =>
      constructor
      · intro h
        cases (Prod.mk.inj h).1
      · rintro ⟨⟩
  | ok shown =>
      constructor
      · intro h
        rw [withLine_inj (Prod.mk.inj h).2]
      · rintro ⟨⟩
        rfl

theorem keepsConsole_start (sandbox : Sandbox) : (start sandbox).KeepsConsole :=
  ⟨⟨rfl, rfl, rfl⟩, rfl, rfl⟩

/-- An array of the number one. -/
def arrayOfOne : Value := .array 200 [some (.number (.finite false 4503599627370496 (-52)))]

/-- An object with a whole number of unbounded size, which has no JSON. -/
def holderOfBigint : Value := .object 201 .common [("a", some (.bigint 1))]

theorem isQuiet_of_mem_samples : ∀ v ∈ [arrayOfOne] ++ [holderOfBigint], v.IsQuiet :=
  List.forall_mem_cons.2 ⟨⟨rfl, rfl⟩, List.forall_mem_singleton.2 ⟨rfl, by decide⟩⟩

theorem isSound_of_mem_samples : ∀ v ∈ [arrayOfOne] ++ [holderOfBigint], v.IsSound := by
  refine List.forall_mem_cons.2 ⟨⟨?_, trivial⟩, List.forall_mem_singleton.2
    ⟨by decide, trivial, trivial⟩⟩
  rintro _ _ _ ⟨⟩
  exact ⟨by decide, by decide, by decide, .inl (by decide)⟩

/-- Two lists of values are printed one behind the other if both have JSON or neither has. If only
one has, the other makes it show its texts, and the line is the same only if these look like its
JSON. A value that is no object always looks the same, but for small numbers. -/
theorem printed_together {s : Session} (hs : s.KeepsConsole) {vs ws : List Value} (hvs : vs ≠ [])
    (hws : ws ≠ []) (hquiet : ∀ v ∈ vs ++ ws, v.IsQuiet) (hsound : ∀ v ∈ vs ++ ws, v.IsSound) :
    (∀ line, Prints s (vs ++ ws) line ↔
      ∃ a b, Value.lineIn (Value.inTexts (vs ++ ws)) vs = .ok a ∧
        Value.lineIn (Value.inTexts (vs ++ ws)) ws = .ok b ∧ line = a ++ " " ++ b) ∧
      (Value.inTexts vs = Value.inTexts ws →
        ∀ line, Prints s (vs ++ ws) line ↔
          ∃ a b, Prints s vs a ∧ Prints s ws b ∧ line = a ++ " " ++ b) ∧
      (Value.inTexts vs ≠ Value.inTexts ws →
        ∀ a b, Prints s vs a → Prints s ws b →
          (Prints s (vs ++ ws) (a ++ " " ++ b) ↔
            Value.lineIn true vs = .ok a ∧ Value.lineIn true ws = .ok b)) ∧
      ∀ v ∈ vs ++ ws, v.kind? = none →
        (∀ x, v = .number x → x.isFinite = true → SameText hostNumber (.float x)) →
          Value.printed true v = Value.printed false v := by
  have hprints := prints_iff hs hquiet hsound
  have hfront := prints_iff hs (fun v hv => hquiet v (List.mem_append_left ws hv))
    fun v hv => hsound v (List.mem_append_left ws hv)
  have hmore := prints_iff hs (fun v hv => hquiet v (List.mem_append_right vs hv))
    fun v hv => hsound v (List.mem_append_right vs hv)
  have hboth := fun byText => Value.lineIn_append byText hvs hws
  refine ⟨fun line => (hprints line).trans (hboth _ line), fun hsame line => ?_,
    fun hother a b ha hb => ?_, fun v hv => Value.printed_eq_of_plain (hquiet v hv)⟩
  · have hway : Value.inTexts (vs ++ ws) = Value.inTexts ws := by
      rw [Value.inTexts_append, hsame, Bool.or_self]
    rw [hprints, hway, hboth]
    simp only [hfront, hmore, hsame]
  · have hway : Value.inTexts (vs ++ ws) = true := by
      rw [Value.inTexts_append]
      revert hother
      cases Value.inTexts vs <;> cases Value.inTexts ws <;> decide
    rw [hprints, hway, hboth]
    constructor
    · rintro ⟨a', b', ha', hb', heq⟩
      rw [hfront] at ha
      rw [hmore] at hb
      -- the list without JSON has the line that it has by itself
      cases hvs : Value.inTexts vs with
      | true =>
          rw [hvs, ha'] at ha
          cases ha
          rw [(String.append_right_inj _).1 heq]
          exact ⟨ha', hb'⟩
      | false =>
          have hws : Value.inTexts ws = true := by
            rw [hvs] at hother
            exact Bool.eq_true_of_not_eq_false hother.symm
          rw [hws, hb'] at hb
          cases hb
          rw [(String.append_left_inj _).1 ((String.append_left_inj _).1 heq)]
          exact ⟨ha', hb'⟩
    · rintro ⟨ha', hb'⟩
      exact ⟨a, b, ha', hb', rfl⟩

theorem printed_together_of_array_and_bigint :
    Prints (start ⟨{}, [], {}⟩) ([arrayOfOne] ++ [holderOfBigint]) "1 [object Object]" :=
  ((printed_together (keepsConsole_start ⟨{}, [], {}⟩) (List.cons_ne_nil _ _)
    (List.cons_ne_nil _ _) isQuiet_of_mem_samples isSound_of_mem_samples).1 _).2
      ⟨"1", "[object Object]", by decide +kernel, by decide +kernel, rfl⟩

theorem array_changed_by_bigint :
    Prints (start ⟨{}, [], {}⟩) [arrayOfOne] "[1]" ∧
      Prints (start ⟨{}, [], {}⟩) [holderOfBigint] "[object Object]" ∧
        ¬ Prints (start ⟨{}, [], {}⟩) ([arrayOfOne] ++ [holderOfBigint])
          ("[1]" ++ " " ++ "[object Object]") := by
  have hs := keepsConsole_start ⟨{}, [], {}⟩
  have hprints : ∀ values, (∀ v ∈ values, v ∈ [arrayOfOne] ++ [holderOfBigint]) → ∀ line,
      Prints (start ⟨{}, [], {}⟩) values line ↔
        Value.lineIn (Value.inTexts values) values = .ok line :=
    fun values h => prints_iff hs (fun v hv => isQuiet_of_mem_samples v (h v hv))
      fun v hv => isSound_of_mem_samples v (h v hv)
  refine ⟨(hprints _ (List.subset_append_left _ _) _).2 (by decide +kernel),
    (hprints _ (List.subset_append_right _ _) _).2 (by decide +kernel), fun h => ?_⟩
  exact absurd ((hprints _ (fun _ hv => hv) _).1 h) (by decide +kernel)

end Session

end DocExamples.Script
