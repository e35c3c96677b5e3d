import DocExamples.Proofs.Script.Retention.Provided
import DocExamples.Script.Native

/-!
# What stays while the functions of the start run

The functions of the start are found by name, and a name that is not covered gives none.
So each family of them is shown to retain what stays for every act that it may give, and
`retains_apply` puts the families together. Where a family is too wide to be taken at once,
its names are split first.
-/

namespace DocExamples.Script.Native

open Session

/-- The act leaves what stays while scripts run, if there is one. -/
def RetainsAny {α : Type} (act? : Option (Act α)) : Prop := ∀ act ∈ act?, Retains act

section

variable {α β : Type}

@[grind ←]
theorem retainsAny_none : RetainsAny (none : Option (Act α)) := fun _ h => nomatch h

@[grind ←]
theorem retainsAny_some {act : Act α} (h : Retains act) : RetainsAny (some act) :=
  fun _ hact => Option.some.inj hact ▸ h

@[grind ←]
theorem retainsAny_or {a? b? : Option (Act α)} (ha : RetainsAny a?) (hb : RetainsAny b?) :
    RetainsAny (a?.or b?) := by
  cases a? with
  | none => exact hb
  | some a => exact ha

@[grind ←]
theorem retainsAny_map {act : β → Act α} (h : ∀ b, Retains (act b)) (b? : Option β) :
    RetainsAny (b?.map act) := by
  cases b? with
  | none => exact retainsAny_none
  | some b => exact retainsAny_some (h b)

@[grind ←]
theorem retains_getD {act? : Option (Act α)} {act : Act α} (h? : RetainsAny act?)
    (h : Retains act) : Retains (act?.getD act) := by
  cases act? with
  | none => exact h
  | some act => exact h? act rfl

end

/-! ## Arguments -/

@[grind ←]
theorem retains_needsFunction (f : Value) : Retains (needsFunction f) := by
  unfold needsFunction; grind

@[grind ←]
theorem retains_itemsOf (v : Value) : Retains (itemsOf v) := by
  unfold itemsOf; grind

@[grind ←]
theorem retains_itemsOrNone (v : Value) : Retains (itemsOrNone v) := by
  unfold itemsOrNone; grind

section

variable {call : Caller} (hcall : RetainsCalls call)
include hcall

@[grind ←]
theorem retains_wholeArg (arguments : List Value) (n : Nat) (default : Int) :
    Retains (wholeArg call arguments n default) := by
  unfold wholeArg; grind

@[grind ←]
theorem retains_part {α : Type} (items : List α) (arguments : List Value) :
    Retains (part call items arguments) := by
  unfold part; grind

@[grind ←]
theorem retains_listOf (v : Value) : Retains (listOf call v) := by
  unfold listOf; grind

@[grind ←]
theorem retains_entryOf (v : Value) : Retains (entryOf call v) := by
  unfold entryOf; grind

@[grind ←]
theorem retains_optionalText (v : Value) : Retains (optionalText call v) := by
  unfold optionalText; grind

end

/-! ## Arrays -/

@[grind ←]
theorem retains_setItems (self : Value) (items : List (Option Value)) :
    Retains (setItems self items) := retains_update _

@[grind ←]
theorem retains_withItems (self : Value) (items : List (Option Value)) :
    Retains (withItems self items) := by
  unfold withItems; grind

@[grind ←]
theorem retains_insertBy {α : Type} {before : α → α → Act Bool} (h : ∀ a b, Retains (before a b))
    (a : α) (as : List α) : Retains (insertBy before a as) := by
  induction as <;> (unfold insertBy; grind)

@[grind ←]
theorem retains_sortBy {α : Type} {before : α → α → Act Bool} (h : ∀ a b, Retains (before a b))
    (as : List α) : Retains (sortBy before as) :=
  retains_foldlM (fun as a => retains_insertBy h a as) as []

section

variable {call : Caller} (hcall : RetainsCalls call)
include hcall

@[grind ←]
theorem retains_sorted (f : Value) (items : List (Option Value)) :
    Retains (sorted call f items) := by
  unfold sorted; grind

@[grind ←]
theorem retains_passes (f on self : Value) (item : Value × Value) :
    Retains (passes call f on self item) := by
  unfold passes; grind

@[grind ←]
theorem retains_reduced (self : Value) (items : List (Value × Value)) (arguments : List Value) :
    Retains (reduced call self items arguments) := by
  unfold reduced; grind

@[grind ←]
theorem retains_visiting? (name : String) (self : Value) (items : List (Option Value))
    (arguments : List Value) : RetainsAny (visiting? call name self items arguments) := by
  unfold visiting?
  split
  · refine retainsAny_some (retains_bind (retains_needsFunction _) fun _ =>
      retains_bind (retains_mapIdxM (fun n item => ?_) items) fun _ => ?_) <;> grind
  all_goals grind

@[grind ←]
theorem retains_changingItems? (name : String) (self : Value) (items : List (Option Value))
    (arguments : List Value) : RetainsAny (changingItems? call name self items arguments) := by
  unfold changingItems?
  split
  case h_8 =>
    refine retainsAny_some (retains_bind ?_ fun first => ?_) <;> grind
  all_goals grind

@[grind ←]
theorem retains_telling? (name : String) (items : List (Option Value)) (arguments : List Value) :
    RetainsAny (telling? call name items arguments) := by
  unfold telling?; grind

@[grind ←]
theorem retains_sharedByArrays? (name : String) (self : Value) (items : List (Option Value))
    (arguments : List Value) : RetainsAny (sharedByArrays? call name self items arguments) := by
  unfold sharedByArrays?; grind

@[grind ←]
theorem retains_sourceItems (v : Value) : Retains (sourceItems call v) := by
  unfold sourceItems; grind

@[grind ←]
theorem retains_arrays? (path : String) (arguments : List Value) :
    RetainsAny (arrays? call path arguments) := by
  unfold arrays?; grind

end

/-! ## Objects -/

@[grind ←]
theorem retains_present (v : Value) : Retains (present v) := by
  unfold present; grind

@[grind ←]
theorem retains_needsMembers (v : Value) : Retains (needsMembers v) := by
  unfold needsMembers; grind

@[grind ←]
theorem retains_hasOwn (v : Value) (name : String) : Retains (hasOwn v name) := by
  unfold hasOwn; grind

@[grind ←]
theorem retains_boxed (v : Value) : Retains (boxed v) := by
  unfold boxed; grind

@[grind ←]
theorem retains_ancestryOf (v : Value) : Retains (ancestryOf v) := by
  unfold ancestryOf; grind

@[grind ←]
theorem retains_ancestorValue (v : Value) : Retains (ancestorValue v) := by
  unfold ancestorValue; grind

@[grind ←]
theorem retains_withAncestor (v ancestor : Value) : Retains (withAncestor v ancestor) := by
  unfold withAncestor; grind

@[grind ←]
theorem retains_hasAncestor (v ancestor : Value) : Retains (hasAncestor v ancestor) := by
  unfold hasAncestor; grind

@[grind ←]
theorem retains_description (v : Value) (name : String) : Retains (description v name) := by
  unfold description; grind

section

variable {call : Caller} (hcall : RetainsCalls call)
include hcall

@[grind ←]
theorem retains_membersOf (v : Value) : Retains (membersOf call v) := by
  unfold membersOf; grind

@[grind ←]
theorem retains_describe (v : Value) (name : String) (described : Value) :
    Retains (describe call v name described) := by
  unfold describe; grind

@[grind ←]
theorem retains_listing? (path : String) (v : Value) : RetainsAny (listing? call path v) := by
  unfold listing?; grind

@[grind ←]
theorem retains_shaping? (path : String) (arguments : List Value) :
    RetainsAny (shaping? call path arguments) := by
  unfold shaping?
  split <;> grind

@[grind ←]
theorem retains_sharedByObjects? (name : String) (self : Value) (arguments : List Value) :
    RetainsAny (sharedByObjects? call name self arguments) := by
  unfold sharedByObjects?; grind

@[grind ←]
theorem retains_sharedByFunctions? (name : String) (self : Value) (arguments : List Value) :
    RetainsAny (sharedByFunctions? call name self arguments) := by
  unfold sharedByFunctions?; grind

omit hcall in
@[grind ←]
theorem retains_objects? {m : Machine} (hm : RetainsAll m) (path : String)
    (arguments : List Value) : RetainsAny (objects? m path arguments) := by
  unfold objects?
  split <;> grind

/-! ## Collections -/

@[grind ←]
theorem retains_visitAll (self : Value) (entries : List (Value × Value)) (arguments : List Value) :
    Retains (visitAll call self entries arguments) := by
  unfold visitAll; grind

@[grind ←]
theorem retains_sharedBySets? (name : String) (self : Value) (items arguments : List Value) :
    RetainsAny (sharedBySets? call name self items arguments) := by
  unfold sharedBySets?; grind

@[grind ←]
theorem retains_sharedByMaps? (name : String) (self : Value) (entries : List (Value × Value))
    (arguments : List Value) : RetainsAny (sharedByMaps? call name self entries arguments) := by
  unfold sharedByMaps?; grind

/-! ## Numbers, moments and texts -/

@[grind ←]
theorem retains_escapes? (path : String) (arguments : List Value) :
    RetainsAny (escapes? call path arguments) := by
  unfold escapes?; grind

@[grind ←]
theorem retains_baseOf (arguments : List Value) : Retains (baseOf call arguments) := by
  unfold baseOf; grind

@[grind ←]
theorem retains_digitsOf (arguments : List Value) (least : Int) :
    Retains (digitsOf call arguments least) := by
  unfold digitsOf; grind

@[grind ←]
theorem retains_sharedByNumbers? (name : String) (x : Number.Double) (arguments : List Value) :
    RetainsAny (sharedByNumbers? call name x arguments) := by
  unfold sharedByNumbers?; grind

@[grind ←]
theorem retains_sharedByWholes? (name : String) (n : Int) (arguments : List Value) :
    RetainsAny (sharedByWholes? call name n arguments) := by
  unfold sharedByWholes?; grind

@[grind ←]
theorem retains_aboutArgument (path : String) (test : Number.Double → Bool) (v : Value) :
    Retains (aboutArgument call path test v) := by
  unfold aboutArgument; grind

@[grind ←]
theorem retains_toNumber (v : Value) : Retains (toNumber call v) := by
  unfold toNumber; grind

@[grind ←]
theorem retains_wholes? (path : String) (arguments : List Value) :
    RetainsAny (wholes? call path arguments) := by
  unfold wholes?
  split <;> grind

@[grind ←]
theorem retains_numbers? (path : String) (arguments : List Value) :
    RetainsAny (numbers? call path arguments) := by
  unfold numbers?; grind

@[grind ←]
theorem retains_momentOf (arguments : List Value) : Retains (momentOf call arguments) := by
  unfold momentOf; grind

omit hcall in
@[grind ←]
theorem retains_setMoment (v : Value) (time : Option Int) : Retains (setMoment v time) := by
  unfold setMoment; grind

@[grind ←]
theorem retains_setting? (name : String) (self : Value) (time : Option Int)
    (arguments : List Value) : RetainsAny (setting? call name self time arguments) := by
  unfold setting?; grind

@[grind ←]
theorem retains_sharedByMoments? (name : String) (self : Value) (time : Option Int)
    (arguments : List Value) : RetainsAny (sharedByMoments? call name self time arguments) := by
  unfold sharedByMoments?
  split
  · exact retainsAny_some (retains_pure _)
  · exact retainsAny_some (retains_refuse _)
  · exact retainsAny_some (retains_pure _)
  · split
    · exact retainsAny_some (retains_pure _)
    · exact retains_setting? hcall _ _ _ _

@[grind ←]
theorem retains_moments? (path : String) (arguments : List Value) :
    RetainsAny (moments? call path arguments) := by
  unfold moments?; grind

@[grind ←]
theorem retains_withReplaced (s found : List Char) (f : Value) (passed : Nat) (places : List Nat) :
    Retains (withReplaced call s found f passed places) := by
  induction places generalizing passed <;> (unfold withReplaced; grind)

@[grind ←]
theorem retains_replaceText (everywhere : Bool) (s found : List Char) (f : Value) :
    Retains (replaceText call everywhere s found f) := by
  unfold replaceText; grind

omit hcall in
@[grind ←]
theorem retains_repeated (s : List Char) (count : Int) : Retains (repeated s count) := by
  unfold repeated; grind

@[grind ←]
theorem retains_tagged (s : List Char) (tag taken : String) (v : Value) :
    Retains (tagged call s tag taken v) := by
  unfold tagged
  split
  · exact retains_bind (retains_pure _) fun _ => retains_pure _
  · exact retains_bind (retains_spelling hcall v) fun _ =>
      retains_bind (retains_pure _) fun _ => retains_pure _

@[grind ←]
theorem retains_finding? (name : String) (s : List Char) (arguments : List Value) :
    RetainsAny (finding? call name s arguments) := by
  unfold finding?; grind

@[grind ←]
theorem retains_cutting? (name : String) (s : List Char) (arguments : List Value) :
    RetainsAny (cutting? call name s arguments) := by
  unfold cutting?; grind

@[grind ←]
theorem retains_changing? (name : String) (s : List Char) (arguments : List Value) :
    RetainsAny (changing? call name s arguments) := by
  unfold changing?; grind

@[grind ←]
theorem retains_sharedByTexts? (name : String) (s : List Char) (arguments : List Value) :
    RetainsAny (sharedByTexts? call name s arguments) := by
  unfold sharedByTexts?; grind

omit hcall in
@[grind ←]
theorem retains_characterOf (x : Number.Double) : Retains (characterOf x) := by
  unfold characterOf; grind

@[grind ←]
theorem retains_texts? (path : String) (arguments : List Value) :
    RetainsAny (texts? call path arguments) := by
  unfold texts?; grind

/-! ## Making -/

omit hcall in
@[grind ←]
theorem retains_newPattern (source flags : String) : Retains (newPattern source flags) := by
  unfold newPattern; grind

@[grind ←]
theorem retains_patternOf (arguments : List Value) : Retains (patternOf call arguments) := by
  unfold patternOf; grind

omit hcall in
@[grind ←]
theorem retains_arrayOf (arguments : List Value) : Retains (arrayOf arguments) := by
  unfold arrayOf; grind

omit hcall in
@[grind ←]
theorem retains_standIn (target handler : Value) : Retains (standIn target handler) := by
  unfold standIn; grind

end

section

variable {m : Machine} (hm : RetainsAll m)
include hm

@[grind ←]
theorem retains_functionOf (arguments : List Value) : Retains (functionOf m arguments) := by
  unfold functionOf; grind

@[grind ←]
theorem retains_make (name : String) (arguments : List Value) :
    Retains (make m name arguments) := by
  unfold make; grind

end

/-! ## Calls -/

section

variable {call : Caller} (hcall : RetainsCalls call)
include hcall

@[grind ←]
theorem retains_onText (name : String) (self : Value) (arguments : List Value) :
    Retains (onText call name self arguments) := by
  unfold onText; grind

@[grind ←]
theorem retains_onList (name : String) (self : Value) (arguments : List Value) :
    Retains (onList call name self arguments) := by
  unfold onList; grind

@[grind ←]
theorem retains_errorText (v : Value) : Retains (errorText call v) := by
  unfold errorText; grind

@[grind ←]
theorem retains_inner? (name : String) (v : Value) : RetainsAny (inner? call name v) := by
  unfold inner?; grind

@[grind ←]
theorem retains_shared? (owner name : String) (self : Value) (arguments : List Value) :
    RetainsAny (shared? call owner name self arguments) := by
  unfold shared?
  split <;> grind

@[grind ←]
theorem retains_jsonOf (v indent : Value) : Retains (jsonOf call v indent) := by
  unfold jsonOf; grind

end

@[grind ←]
theorem retains_hosted? (name : String) (arguments : List Value) :
    RetainsAny (hosted? name arguments) := by
  unfold hosted?; grind

section

variable {m : Machine} (hm : RetainsAll m)
include hm

@[grind ←]
theorem retains_provided? (name : String) (arguments : List Value) :
    RetainsAny (provided? m name arguments) := by
  unfold provided?; grind

@[grind ←]
theorem retains_named? (name : String) (arguments : List Value) :
    RetainsAny (named? m name arguments) := by
  unfold named?
  split <;> grind

theorem retains_single? (path : String) (arguments : List Value) :
    RetainsAny (single? m path arguments) := by
  have hfirst : ∀ acts : List (Option (Act Value)), (∀ act? ∈ acts, RetainsAny act?) →
      RetainsAny (acts.firstM id) := by
    intro acts
    induction acts with
    | nil => exact fun _ => retainsAny_none
    | cons act? more ih =>
        intro h
        obtain ⟨hact, hmore⟩ := List.forall_mem_cons.1 h
        cases act? with
        | none => exact ih hmore
        | some act => exact hact
  refine hfirst _ ?_
  have hcall := hm.call
  simp only [List.forall_mem_cons]
  grind

/-- What a function of the start does leaves what stays. -/
theorem retains_apply (path : String) (self : Value) (arguments : List Value) :
    Retains (apply m path self arguments) := by
  unfold apply
  refine retains_getD ?_ (retains_pure _)
  split
  · exact retains_shared? hm.call _ _ _ _
  · exact retains_single? hm _ _

end

end DocExamples.Script.Native
