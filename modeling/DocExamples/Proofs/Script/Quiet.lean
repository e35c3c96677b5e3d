import DocExamples.Proofs.Script.Acts
import DocExamples.Script.Coercion

/-!
# Values that call nothing of their own

What a value becomes as a text or as JSON can depend on functions that it has itself, and
they can do anything to a session. A value without such functions becomes the same at any
time: its conversions leave the session as it is, and they give or throw what
`Conversions.standard` says. So for quiet values all that is shown of them is settled
without a session, up to the payload of a call of the console.
-/

namespace DocExamples.Script

theorem mapM_map {ε α β γ : Type} (f : α → Except ε β) (g : β → γ) (l : List α) :
    l.mapM (fun a => (f a).map g) = (l.mapM f).map (List.map g) := by
  induction l with
  | nil => rfl
  | cons a l ih =>
      rw [List.mapM_cons, List.mapM_cons, ih]
      cases f a with
      | error e => rfl
      | ok b => cases l.mapM f <;> rfl

namespace Value

mutual

/-- Holds of a value that may call a function to become a text. -/
def speaks : Value → Bool
  | array _ items => itemsSpeak items
  | object id _ members =>
    (Standard.makerOf? id).isSome || members.any fun m => m.1 == "toString" || m.1 == "valueOf"
  | _ => false

/-- Holds of items one of which may call a function to become a text. -/
def itemsSpeak : List (Option Value) → Bool
  | [] => false
  | none :: more => itemsSpeak more
  | some v :: more => v.speaks || itemsSpeak more

end

/-- A value that calls no function, neither for JSON nor for its text. -/
structure IsQuiet (v : Value) : Prop where
  calls : v.calls = false
  speaks : v.speaks = false

theorem isQuiet_text (s : String) : (text s).IsQuiet := ⟨rfl, rfl⟩

theorem calls_array (id : Nat) {values : List Value} (h : ∀ v ∈ values, v.calls = false) :
    (array id (values.map some)).calls = false := by
  rw [calls]
  induction values with
  | nil => rfl
  | cons v values ih =>
      obtain ⟨hv, hvalues⟩ := List.forall_mem_cons.1 h
      rw [List.map_cons, itemsCall, hv, ih hvalues]
      rfl

/-- A value as the console takes it: a text in place of what JSON has no form for by itself. -/
def taken (v : Value) : Value :=
  match v with
  | undefined => text "undefined"
  | symbol _ description => text (String.ofList ("Symbol(".toList ++ description.toList ++ [')']))
  | function _ source _ => text (String.ofList source.toList)
  | native name => text (String.ofList (Standard.functionText name))
  | bigint n => text (String.ofList (Number.intText n))
  | number x => if x.isFinite then number x else text (String.ofList (Number.Layout.script.text x))
  | v => v

theorem forConsole_eq (v : Value) : Conversions.standard.forConsole v = .ok v.taken := by
  cases v with
  | number x =>
      have hforConsole : Conversions.standard.forConsole (number x) =
          if x.isFinite then .ok (number x)
          else .ok (text (String.ofList (Number.Layout.script.text x))) := rfl
      rw [hforConsole, taken]
      split <;> rfl
  | _ => rfl

theorem IsQuiet.taken {v : Value} (h : v.IsQuiet) : v.taken.IsQuiet := by
  cases v with
  | number x =>
      rw [Value.taken]
      split
      · exact h
      · exact isQuiet_text _
  | undefined => exact isQuiet_text _
  | symbol id description => exact isQuiet_text _
  | function id source scope => exact isQuiet_text _
  | native name => exact isQuiet_text _
  | bigint n => exact isQuiet_text _
  | _ => exact h

theorem mapM_text (values : List Value) :
    values.mapM Conversions.standard.text =
      (values.mapM toText).map (List.map fun s => text (String.ofList s)) :=
  mapM_map toText (fun s => text (String.ofList s)) values

theorem mapM_forConsole (values : List Value) :
    values.mapM Conversions.standard.forConsole = .ok (values.map taken) := by
  have heq : Conversions.standard.forConsole = fun v => pure v.taken := funext forConsole_eq
  rw [heq, List.mapM_pure]
  rfl

end Value

namespace Session

/-! ## Acts that leave the session as it is -/

/-- The act leaves the session as it is, and gives or throws what a result says. -/
def Settles {α : Type} (act : Act α) (s : Session) (r : Except Thrown α) : Prop :=
  act.run.run s = (r, s)

section

variable {α β : Type} {act : Act α} {next : α → Act β} {s : Session} {r : Except Thrown α}
  {k : α → Except Thrown β}

theorem Settles.pure (a : α) (s : Session) : Settles (pure a) s (.ok a) := rfl

theorem Settles.throw (t : Thrown) (s : Session) : Settles (α := α) (throw t) s (.error t) := rfl

theorem Settles.bind (h : Settles act s r) (hnext : ∀ a, r = .ok a → Settles (next a) s (k a)) :
    Settles (act >>= next) s (r >>= k) := by
  rw [Settles, run_bind, h]
  cases r with
  | ok a => exact hnext a rfl
  | error t => rfl

theorem Settles.map (h : Settles act s r) (f : α → β) :
    Settles (act >>= fun a => Pure.pure (f a)) s (r.map f) := by
  rw [Settles, run_bind, h]
  cases r <;> rfl

theorem Settles.tryCatch {handler : Thrown → Act α} {other : Thrown → Except Thrown α}
    (h : Settles act s r) (hother : ∀ t, r = .error t → Settles (handler t) s (other t)) :
    Settles (tryCatchThe Thrown act handler) s (tryCatchThe Thrown r other) := by
  rw [Settles, run_tryCatch, h]
  cases r with
  | ok a => rfl
  | error t => exact hother t rfl

theorem settles_take (r : Except Thrown α) (s : Session) : Settles (take r) s r := by
  cases r <;> rfl

theorem settles_liftExcept (r : Except Thrown α) (s : Session) :
    Settles (Value.liftExcept r) s (Value.liftExcept r) := by
  cases r <;> rfl

theorem Settles.mapM {f : α → Act β} {g : α → Except Thrown β} {l : List α}
    (h : ∀ a ∈ l, Settles (f a) s (g a)) : Settles (l.mapM f) s (l.mapM g) := by
  induction l with
  | nil => rfl
  | cons a l ih =>
      obtain ⟨ha, hl⟩ := List.forall_mem_cons.1 h
      rw [List.mapM_cons, List.mapM_cons]
      exact ha.bind fun b _ => (ih hl).bind fun bs _ => .pure (b :: bs) s

end

/-! ## Texts of objects -/

theorem memberOf?_holder {owner : String} (howner : owner ∈ Standard.holders) {name : String}
    (hname : name = "toString" ∨ name = "valueOf") : Standard.memberOf? owner name = none := by
  have hall : ∀ o ∈ Standard.holders, Standard.memberOf? o "toString" = none ∧
      Standard.memberOf? o "valueOf" = none := by decide +kernel
  rcases hname with rfl | rfl
  · exact (hall owner howner).1
  · exact (hall owner howner).2

section

variable {id : Nat} {ancestry : Ancestry} {members : List (String × Option Value)}
  (hquiet : (Value.object id ancestry members).speaks = false) {name : String}
  (hname : name = "toString" ∨ name = "valueOf")

include hquiet hname

/-- A quiet object has no function of its own for its text. -/
theorem ownMember?_of_quiet : (Value.object id ancestry members).ownMember? name = none := by
  rw [Value.speaks, Bool.or_eq_false_iff, Option.isSome_eq_false_iff, List.any_eq_false] at hquiet
  obtain ⟨hmaker, hmembers⟩ := hquiet
  have hlookup : members.lookup name = none := by
    rw [List.lookup_eq_none_iff]
    intro m hm
    have hno := hmembers m hm
    rw [Bool.or_eq_true, beq_iff_eq, beq_iff_eq, not_or] at hno
    rw [bne_iff_ne]
    rintro rfl
    exact hname.elim hno.1 hno.2
  rw [Option.isNone_iff_eq_none] at hmaker
  rw [Value.ownMember?, hlookup, hmaker]
  cases hholder : Standard.holderName? id with
  | none => rfl
  | some owner =>
      refine memberOf?_holder ?_ hname
      rw [Standard.holderName?] at hholder
      split at hholder
      · exact nomatch hholder
      · exact List.mem_of_getElem? hholder

/-- What a quiet object has of functions for its text is what all objects have. -/
theorem gives_storedMember?_of_quiet (hancestry : ∀ heir, ancestry ≠ .other heir) (s : Session) :
    Gives (storedMember? (.object id ancestry members) name) s
      (Value.sharedMember? (Value.object id ancestry members).owners name) s := by
  have hown := ownMember?_of_quiet hquiet hname
  have hmember : (Value.object id ancestry members).member? name =
      Value.sharedMember? (Value.object id ancestry members).owners name := by
    rw [Value.member?, hown, Option.none_or]
    exact fun _ _ _ _ h => nomatch h
  -- such an object inherits from no other one, so the search ends where it starts
  have hinherited : inherited? s.ancestors (s.ancestors.length + 1)
      (.object id ancestry members) name =
        Value.sharedMember? (Value.object id ancestry members).owners name := by
    cases ancestry with
    | other heir => exact absurd rfl (hancestry heir)
    | _ =>
        rw [inherited?.eq_def]
        simp only [hown]
        exact hmember
  exact hinherited ▸ Gives.pure _ s

/-- A quiet object becomes by a function for its text what such objects become. -/
theorem gives_attempt_of_quiet (call : Caller) (hancestry : ∀ heir, ancestry ≠ .other heir)
    (s : Session) :
    Gives (attempt call (.object id ancestry members) name) s
      ((Value.object id ancestry members).shared? name) s := by
  have hstored := gives_storedMember?_of_quiet hquiet hname hancestry s
  have hgiven : Gives (given? call (.object id ancestry members) name) s none s := by
    rw [given?]
    refine hstored.bind ?_
    cases ancestry with
    | other heir => exact absurd rfl (hancestry heir)
    | nothing => exact .pure none s
    | common => rcases hname with rfl | rfl <;> exact .pure none s
    | topmost => rcases hname with rfl | rfl <;> exact .pure none s
  exact hgiven.bind (.pure _ s)

end

/-- A quiet object has the text that objects have which call nothing. -/
theorem settles_objectText (call : Caller) {id : Nat} {ancestry : Ancestry}
    {members : List (String × Option Value)}
    (hquiet : (Value.object id ancestry members).speaks = false)
    (hancestry : ∀ heir, ancestry ≠ .other heir) (s : Session) :
    Settles (objectText call (.object id ancestry members)) s
      (Value.objectText (.object id ancestry members)) := by
  have htext := gives_attempt_of_quiet hquiet (.inl rfl) call hancestry s
  have hvalue := gives_attempt_of_quiet hquiet (.inr rfl) call hancestry s
  have hno : (members.any fun m => m.1 == "toString") = false := by
    rw [Value.speaks, Bool.or_eq_false_iff, List.any_eq_false] at hquiet
    rw [List.any_eq_false]
    exact fun m hm hname => hquiet.2 m hm (Bool.or_eq_true_iff.2 (.inl hname))
  have hkind : ∀ v : Value, v.shared? "toString" = some (.text v.kindText) →
      Gives (attempt call v "toString") s (v.shared? "toString") s →
        Settles (objectText call v) s (.ok v.kindText.toList) := by
    intro v hshared hattempt
    have hreduced : Gives (reduced call v ["toString", "valueOf"]) s (.text v.kindText) s :=
      hattempt.bind (hshared ▸ Gives.pure _ s)
    exact hreduced.bind (.pure _ s)
  rw [Value.objectText, hno]
  cases ancestry with
  | other heir => exact absurd rfl (hancestry heir)
  | nothing =>
      have hreduced : Settles
          (reduced call (.object id .nothing members) ["toString", "valueOf"]) s
          (.error .noPrimitive) := htext.run_next.trans hvalue.run_next
      exact hreduced.bind (k := fun v => v.plainText) fun _ h => nomatch h
  | common => exact hkind _ rfl htext
  | topmost => exact hkind _ rfl htext

/-! ## Texts of values -/

mutual

theorem settles_innerTextWith (call : Caller) {v : Value} (hcalls : v.calls = false)
    (hspeaks : v.speaks = false) (s : Session) :
    Settles (v.innerTextWith (objectText call)) s (v.innerTextWith Value.objectText) := by
  cases v with
  | array id items =>
      rw [Value.innerTextWith, Value.innerTextWith]
      exact (settles_itemTextsWith call hcalls hspeaks s).bind fun texts _ => .pure _ s
  | object id ancestry members =>
      rw [Value.innerTextWith, Value.innerTextWith]
      refine settles_objectText call hspeaks ?_ s
      rintro heir rfl
      exact nomatch hcalls
  | boxed id inner =>
      rw [Value.innerTextWith, Value.innerTextWith]
      exact settles_liftExcept _ s
  | _ =>
      rw [Value.innerTextWith, Value.innerTextWith]
      · exact settles_liftExcept _ s
      all_goals nofun

theorem settles_itemTextsWith (call : Caller) {items : List (Option Value)}
    (hcalls : Value.itemsCall items = false) (hspeaks : Value.itemsSpeak items = false)
    (s : Session) :
    Settles (Value.itemTextsWith (objectText call) items) s
      (Value.itemTextsWith Value.objectText items) := by
  cases items with
  | nil => rfl
  | cons item more =>
      cases item with
      | none =>
          rw [Value.itemTextsWith, Value.itemTextsWith]
          exact (@settles_itemTextsWith call more hcalls hspeaks s).bind fun texts _ => .pure _ s
      | some v =>
          rw [Value.itemsCall, Bool.or_eq_false_iff] at hcalls
          rw [Value.itemsSpeak, Bool.or_eq_false_iff] at hspeaks
          have hmore := settles_itemTextsWith call hcalls.2 hspeaks.2 s
          have hv := settles_innerTextWith call hcalls.1 hspeaks.1 s
          have hshown : Settles (v.innerTextWith (objectText call) >>= fun text =>
              Value.itemTextsWith (objectText call) more >>= fun texts => pure (text :: texts)) s
              (v.innerTextWith Value.objectText >>= fun text =>
                Value.itemTextsWith Value.objectText more >>= fun texts => pure (text :: texts)) :=
            hv.bind fun text _ => hmore.bind fun texts _ => .pure _ s
          have hblank : Settles (Value.itemTextsWith (objectText call) more >>= fun texts =>
              pure ([] :: texts)) s (Value.itemTextsWith Value.objectText more >>= fun texts =>
                pure ([] :: texts)) := hmore.bind fun texts _ => .pure _ s
          cases v with
          | undefined => exact hblank
          | null => exact hblank
          | _ => exact hshown

end

theorem settles_textOf (call : Caller) {v : Value} (hv : v.IsQuiet) (s : Session) :
    Settles (textOf call v) s v.toText := by
  cases v with
  | symbol id description => rfl
  | _ =>
      rw [textOf, Value.toText, Value.toTextWith, Value.toTextWith]
      · exact settles_innerTextWith call hv.calls hv.speaks s
      all_goals nofun

/-! ## Conversions -/

/-- A session in which the conversions are those of its start. -/
structure Converts (s : Session) : Prop where
  text : s.globals.find? "String" = none
  isFinite : s.globals.find? "isFinite" = none
  json : s.globals.find? "JSON" = none

section

variable {s : Session} (hs : s.Converts) (call : Caller)

include hs

theorem settles_text {v : Value} (hv : v.IsQuiet) :
    Settles ((conversions call).text v) s (Conversions.standard.text v) := by
  refine (gives_replaced? "String" s).run_next.trans ?_
  rw [hs.text]
  exact (settles_textOf call hv s).map fun text => Value.text (String.ofList text)

theorem settles_isFinite (x : Number.Double) :
    Settles ((conversions call).isFinite x) s (Conversions.standard.isFinite x) := by
  refine (gives_replaced? "isFinite" s).run_next.trans ?_
  rw [hs.isFinite]
  rfl

theorem settles_stringify {v : Value} (hv : v.calls = false) :
    Settles ((conversions call).stringify v) s (Conversions.standard.stringify v) := by
  refine (gives_replaced? "JSON" s).run_next.trans ?_
  rw [hs.json]
  have hsettled : Gives (settledForJson call v) s v s := by
    rw [settledForJson, hv]
    exact .pure v s
  exact hsettled.run_next.trans
    ((settles_take v.jsonText s).map fun text => (text.map Value.text).getD .undefined)

theorem settles_forConsole {v : Value} (hv : v.IsQuiet) :
    Settles ((conversions call).forConsole v) s (Conversions.standard.forConsole v) := by
  cases v with
  | number x =>
      refine (settles_isFinite hs call x).bind fun finite hfinite => ?_
      cases finite with
      | true => exact .pure _ s
      | false => exact settles_text hs call hv
  | undefined => exact settles_text hs call hv
  | symbol id description => exact settles_text hs call hv
  | function id source scope => exact settles_text hs call hv
  | native name => exact settles_text hs call hv
  | bigint n => exact settles_text hs call hv
  | _ => exact .pure _ s

/-- The payload of a call of the console does not depend on the session. -/
theorem settles_payload {values : List Value} (hvalues : ∀ v ∈ values, v.IsQuiet) :
    Settles ((conversions call).payload values) s (Value.payload values) := by
  refine (Settles.mapM fun v hv => settles_forConsole hs call (hvalues v hv)).bind ?_
  intro converted hconverted
  rw [Value.mapM_forConsole] at hconverted
  cases hconverted
  have hquiet : ∀ v ∈ values.map Value.taken, v.IsQuiet := by
    intro v hv
    obtain ⟨w, hw, rfl⟩ := List.mem_map.1 hv
    exact (hvalues w hw).taken
  have hjson := settles_stringify hs call
    (Value.calls_array 0 fun v hv => (hquiet v hv).calls)
  refine hjson.tryCatch fun _ _ => ?_
  refine (Settles.mapM fun v hv => settles_text hs call (hquiet v hv)).bind fun texts htexts => ?_
  rw [Value.mapM_text] at htexts
  cases hshown : (values.map Value.taken).mapM Value.toText with
  | error t =>
      rw [hshown] at htexts
      exact nomatch htexts
  | ok shown =>
      rw [hshown] at htexts
      cases htexts
      refine settles_stringify hs call (Value.calls_array 0 fun v hv => ?_)
      obtain ⟨text, -, rfl⟩ := List.mem_map.1 hv
      rfl

end

end Session

end DocExamples.Script
