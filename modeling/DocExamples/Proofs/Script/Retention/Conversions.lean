import DocExamples.Proofs.Script.Retention.Acts
import DocExamples.Script.Provided

/-!
# What stays while values become others

Turning an object into a text or a number calls its own functions, and so do the operators.
Nothing here writes to the session itself. The recursions are over the items and members
of values, with a bound where functions give the values.
-/

namespace DocExamples.Script.Session

section

variable {call : Caller} (hcall : RetainsCalls call)
include hcall

/-! ## Coercion -/

@[grind ←]
theorem retains_given? (v : Value) (name : String) : Retains (given? call v name) := by
  unfold given?; grind

@[grind ←]
theorem retains_attempt (v : Value) (name : String) : Retains (attempt call v name) := by
  unfold attempt; grind

@[grind ←]
theorem retains_reduced (v : Value) (names : List String) : Retains (reduced call v names) := by
  induction names <;> (unfold reduced; grind)

@[grind ←]
theorem retains_objectText (v : Value) : Retains (objectText call v) := by
  unfold objectText; grind

end

@[grind ←]
theorem retains_liftExcept {α : Type} (r : Except Thrown α) :
    Retains (Value.liftExcept r : Act α) := by
  unfold Value.liftExcept; grind

mutual

theorem retains_innerTextWith {object : Value → Act (List Char)}
    (hobject : ∀ v, Retains (object v)) (v : Value) : Retains (v.innerTextWith object) := by
  cases v with
  | array id items =>
      have hitems := retains_itemTextsWith hobject items
      unfold Value.innerTextWith; grind
  | _ => unfold Value.innerTextWith; grind

theorem retains_itemTextsWith {object : Value → Act (List Char)}
    (hobject : ∀ v, Retains (object v)) (items : List (Option Value)) :
    Retains (Value.itemTextsWith object items) := by
  cases items with
  | nil => exact retains_pure _
  | cons item more =>
      have hmore := retains_itemTextsWith hobject more
      cases item with
      | none => unfold Value.itemTextsWith; grind
      | some v =>
          have hv := retains_innerTextWith hobject v
          unfold Value.itemTextsWith; grind

end

attribute [grind ←] retains_innerTextWith retains_itemTextsWith

@[grind ←]
theorem retains_toTextWith {object : Value → Act (List Char)} (hobject : ∀ v, Retains (object v))
    (v : Value) : Retains (v.toTextWith object) := by
  unfold Value.toTextWith; grind

section

variable {call : Caller} (hcall : RetainsCalls call)
include hcall

@[grind ←]
theorem retains_textOf (v : Value) : Retains (textOf call v) := by
  unfold textOf; grind

@[grind ←]
theorem retains_primitive (hint : Hint) (v : Value) : Retains (primitive call hint v) := by
  unfold primitive; grind

@[grind ←]
theorem retains_spelling (v : Value) : Retains (spelling call v) := by
  unfold spelling; grind

@[grind ←]
theorem retains_numberOf (v : Value) : Retains (numberOf call v) := by
  unfold numberOf; grind

end

mutual

theorem retains_settle {call : Caller} (hcall : RetainsCalls call) (json : Bool) (fuel : Nat)
    (name : String) (v : Value) : Retains (settle call json fuel name v) := by
  cases fuel with
  | zero => exact retains_throw _
  | succ fuel =>
      have hitems := retains_settleItems hcall json fuel
      have hmembers := retains_settleMembers hcall json fuel
      unfold settle; grind

theorem retains_settleItems {call : Caller} (hcall : RetainsCalls call) (json : Bool)
    (fuel n : Nat) (items : List (Option Value)) :
    Retains (settleItems call json fuel n items) := by
  cases fuel with
  | zero => exact retains_throw _
  | succ fuel =>
      have hitem := retains_settle hcall json fuel
      have hitems := retains_settleItems hcall json fuel
      unfold settleItems; grind

theorem retains_settleMembers {call : Caller} (hcall : RetainsCalls call) (json : Bool)
    (fuel : Nat) (self : Value) (members : List (String × Option Value)) :
    Retains (settleMembers call json fuel self members) := by
  cases fuel with
  | zero => exact retains_throw _
  | succ fuel =>
      have hmember := retains_settle hcall json fuel
      have hmembers := retains_settleMembers hcall json fuel
      unfold settleMembers; grind

end

attribute [grind ←] retains_settle

section

variable {call : Caller} (hcall : RetainsCalls call)
include hcall

@[grind ←]
theorem retains_settled (v : Value) : Retains (settled call v) := by
  unfold settled; grind

@[grind ←]
theorem retains_settledForJson (v : Value) : Retains (settledForJson call v) := by
  unfold settledForJson; grind

@[grind ←]
theorem retains_stringify (v : Value) : Retains (stringify call v) := by
  unfold stringify; grind

@[grind ←]
theorem retains_conversions_text (v : Value) : Retains ((conversions call).text v) := by
  unfold conversions; grind

@[grind ←]
theorem retains_conversions_isFinite (x : Number.Double) :
    Retains ((conversions call).isFinite x) := by
  unfold conversions; grind

@[grind ←]
theorem retains_conversions_stringify (v : Value) : Retains ((conversions call).stringify v) := by
  unfold conversions; grind

@[grind ←]
theorem retains_forConsole (v : Value) : Retains ((conversions call).forConsole v) := by
  unfold Conversions.forConsole; grind

@[grind ←]
theorem retains_payload (values : List Value) : Retains ((conversions call).payload values) := by
  unfold Conversions.payload; grind

@[grind ←]
theorem retains_describe (v : Value) : Retains ((conversions call).describe v) := by
  have hshown : Retains (tryCatchThe Thrown ((conversions call).stringify v)
      fun _ => return .undefined) :=
    retains_tryCatch (retains_conversions_stringify hcall v) fun _ => retains_pure _
  unfold Conversions.describe
  split
  case h_6 => exact retains_bind hshown fun shown => by split <;> grind
  all_goals grind

/-! ## Operations -/

@[grind ←]
theorem retains_onPrimitives (hint : Hint) (op : Value → Value → Except Thrown Value)
    (a b : Value) : Retains (onPrimitives call hint op a b) := by
  unfold onPrimitives; grind

@[grind ←]
theorem retains_alike (a b : Value) : Retains (alike call a b) := by
  unfold alike; grind

@[grind ←]
theorem retains_unary (op : Unary) (v : Value) : Retains (unary call op v) := by
  unfold unary; grind

omit hcall in
@[grind ←]
theorem retains_isInstance (v f : Value) : Retains (isInstance v f) := by
  unfold isInstance; grind

@[grind ←]
theorem retains_binary (op : Binary) (a b : Value) : Retains (binary call op a b) := by
  unfold binary; grind

end

end DocExamples.Script.Session
