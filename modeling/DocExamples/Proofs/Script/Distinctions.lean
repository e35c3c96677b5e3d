import DocExamples.Proofs.Script.Equality
import DocExamples.Script.Call

/-!
# Which differences a check of two values sees

A check is passed exactly if two values match, and for moments, patterns, sets and maps
this is as much as one could ask for. It is not where the state of an object is no member
of it. The length of an array is one beyond its last item in most cases, but holes at its
end count as well; the message of an error is not listed among its members; and of objects
around a value only those around a text are told apart by it. Such differences are passed
over, at any depth.

They are the only ones: where no array ends in a hole, there is no error, and only texts
have objects around them, what passes the check agrees exactly.
-/

namespace DocExamples.Script

namespace Value

/-- Holds of a value whose own state is told by its parts or is compared. -/
def Shows : Value → Prop
  | array _ items => ∀ last, items[items.length - 1]? = some last → last.isSome
  | error .. => False
  | boxed _ inner => inner.typeName = "string"
  | _ => True

/-- Holds of a value whose own state, like that of all its parts, is told by parts or compared. -/
inductive IsTelling : Value → Prop where
  | intro {v : Value} : v.Shows → (∀ x ∈ v.parts, IsTelling x.2) → IsTelling v

/-- A value without parts. -/
theorem IsTelling.leaf {v : Value} (hshows : v.Shows) (hparts : v.parts = []) : v.IsTelling :=
  .intro hshows fun _ hx => absurd (hparts ▸ hx) List.not_mem_nil

theorem Agree.of_exact {a b : Value} (h : Agree true a b) : Agree false a b := by
  unfold Agree at h ⊢
  split
  · exact fun h => nomatch h
  · exact h
  · exact h
  · exact fun h => nomatch h
  · exact fun htext => h (htext.imp (fun h => nomatch h) id)
  · trivial

/-- What agrees exactly passes the check. -/
theorem Matches.of_exact {a b : Value} (h : Matches true a b) : Matches false a b := by
  induction h with
  | same hsame => exact .same hsame
  | inside halike hleft hright _ ih =>
      exact .inside ⟨halike.1, halike.2.1, halike.2.2.of_exact⟩ hleft hright ih

/-- Where everything is told by parts or is compared, what passes the check agrees exactly. -/
theorem Matches.exact {a b : Value} (h : Matches false a b) (ha : a.IsTelling) (hb : b.IsTelling) :
    Matches true a b := by
  induction h with
  | same hsame => exact .same hsame
  | @inside a b halike hleft hright _ ih =>
      obtain ⟨hshows, hparts⟩ := ha
      obtain ⟨hshows', hparts'⟩ := hb
      obtain ⟨hsome, hkind, hagree⟩ := halike
      refine .inside ⟨hsome, hkind, ?_⟩ hleft hright fun x hx y hy hsame =>
        ih x hx y hy hsame (hparts x hx) (hparts' y hy)
      have hback : ∀ y ∈ b.parts, ∃ x ∈ a.parts, y.1.Same x.1 := fun y hy =>
        (hright y hy).imp fun _ hx => ⟨hx.1, hx.2.symm⟩
      unfold Agree at hagree ⊢
      split
      case h_1 =>
        exact fun _ => Nat.le_antisymm (length_le_of_left hshows hleft)
          (length_le_of_left hshows' hback)
      case h_2 => exact hagree
      case h_3 => exact hagree
      case h_4 => exact hshows.elim
      case h_5 => exact fun _ => hagree (.inr hshows)
      case h_6 => trivial

end Value

namespace Session

/-- A check of two inert values goes through, and does nothing else, exactly if they match. -/
theorem assertEqual_of_inert (m : Machine) {s : Session}
    (hs : ∀ name ∈ comparedNames, s.globals.find? name = none) {a b : Value} (ha : a.IsInert)
    (hb : b.IsInert) :
    (Gives (assertEqual m a b) s () s ∧ Value.Matches false a b) ∨
      (Fails (assertEqual m a b) s ∧ ¬ Value.Matches false a b) := by
  obtain ⟨verdict, hequal, hverdict⟩ := gives_equal_of_inert m.call hs ha hb
  rw [assertEqual]
  cases verdict with
  | true => exact .inl ⟨hequal.bind (.pure () s), hverdict.1 rfl⟩
  | false =>
      refine .inr ⟨hequal.bind_fails ?_, fun h => Bool.false_ne_true (hverdict.2 h)⟩
      exact fails_bind (fun _ => fails_bind fun _ => fails_bind fun _ => fails_bind fun _ =>
        fails_failWith m _) s

/-- A check goes through exactly if two inert values match, and otherwise it throws. All that agrees
exactly passes it. The converse holds where each array has an item at its end, each object around a
value is one around a text, and there is no error. -/
theorem assertEqual_passes_iff (m : Machine) {s : Session}
    (hs : ∀ name ∈ comparedNames, s.globals.find? name = none) {a b : Value} (ha : a.IsInert)
    (hb : b.IsInert) :
    (Gives (assertEqual m a b) s () s ↔ Value.Matches false a b) ∧
      (Fails (assertEqual m a b) s ↔ ¬ Value.Matches false a b) ∧
      (Value.Matches true a b → Value.Matches false a b) ∧
      (a.IsTelling → b.IsTelling → (Value.Matches false a b ↔ Value.Matches true a b)) := by
  refine ⟨?_, ?_, .of_exact, fun hta htb => ⟨fun h => h.exact hta htb, .of_exact⟩⟩
  · rcases assertEqual_of_inert m hs ha hb with ⟨hgives, hmatches⟩ | ⟨hfails, hnot⟩
    · exact iff_of_true hgives hmatches
    · exact iff_of_false (fun hgives => hfails.not_gives ⟨(), s, hgives⟩) hnot
  · rcases assertEqual_of_inert m hs ha hb with ⟨hgives, hmatches⟩ | ⟨hfails, hnot⟩
    · exact iff_of_false (fun hfails => hfails.not_gives ⟨(), s, hgives⟩) (not_not.2 hmatches)
    · exact iff_of_true hfails hnot

/-- Two objects with an array, a set and an object around a text. -/
theorem assertEqual_passes_iff_of_object :
    let s : Session := { sandbox := ⟨{}, [], {}⟩ }
    let v (id : Nat) : Value := .object id .common (Value.held
      [("items", .array (id + 1) [none, some (.set (id + 2) [.null])]),
        ("label", .boxed (id + 3) (.text "a"))])
    (∀ name ∈ comparedNames, s.globals.find? name = none) ∧ (v 200).IsInert ∧ (v 300).IsInert ∧
      (v 200).IsTelling ∧ (v 300).IsTelling ∧ Gives (assertEqual machine (v 200) (v 300)) s () s ∧
      Value.Matches true (v 200) (v 300) := by
  intro s v
  have hs : ∀ name ∈ comparedNames, s.globals.find? name = none := fun _ _ => rfl
  have hinert : ∀ id, (v id).IsInert := by
    intro id
    have hset : (Value.set (id + 2) [.null]).IsInert :=
      .intro (List.pairwise_singleton _ _) (List.forall_mem_singleton.2 (.leaf trivial rfl))
    have harray : (Value.array (id + 1) [none, some (.set (id + 2) [.null])]).IsInert :=
      .intro trivial (List.forall_mem_singleton.2 hset)
    have hcalm : (v id).IsCalm :=
      ⟨fun _ h => (nomatch h), _, rfl, by simp, by simp⟩
    exact .intro hcalm (List.forall_mem_cons.2
      ⟨harray, List.forall_mem_singleton.2 (.leaf (v := .boxed _ _) rfl rfl)⟩)
  have htelling : ∀ id, (v id).IsTelling := by
    intro id
    have hset : (Value.set (id + 2) [.null]).IsTelling :=
      .intro trivial (List.forall_mem_singleton.2 (.leaf trivial rfl))
    have harray : (Value.array (id + 1) [none, some (.set (id + 2) [.null])]).IsTelling :=
      .intro (fun _ h => Option.some.inj h ▸ rfl) (List.forall_mem_singleton.2 hset)
    exact .intro trivial (List.forall_mem_cons.2
      ⟨harray, List.forall_mem_singleton.2 (.leaf (v := .boxed _ _) rfl rfl)⟩)
  obtain ⟨hgives, -, -, hexact⟩ := assertEqual_passes_iff machine hs (hinert 200) (hinert 300)
  have hpasses : Gives (assertEqual machine (v 200) (v 300)) s () s := rfl
  exact ⟨hs, hinert 200, hinert 300, htelling 200, htelling 300, hpasses,
    (hexact (htelling 200) (htelling 300)).1 (hgives.1 hpasses)⟩

/-- Holes at the end, messages, and what is inside of an object are passed over. -/
theorem differences_passed_over :
    let s : Session := { sandbox := ⟨{}, [], {}⟩ }
    let one : Value := .number (.ofInt 1)
    let two : Value := .number (.ofInt 2)
    (Gives (assertEqual machine (.array 200 [some one, none]) (.array 201 [some one])) s () s ∧
      ¬ Value.Matches true (.array 200 [some one, none]) (.array 201 [some one])) ∧
    (Gives (assertEqual machine (.error 200 "Error" (some "a") [])
        (.error 201 "Error" (some "b") [])) s () s ∧
      ¬ Value.Matches true (.error 200 "Error" (some "a") []) (.error 201 "Error" (some "b") [])) ∧
    Gives (assertEqual machine (.boxed 200 one) (.boxed 201 two)) s () s ∧
      ¬ Value.Matches true (.boxed 200 one) (.boxed 201 two) := by
  intro s one two
  refine ⟨⟨rfl, fun h => ?_⟩, ⟨rfl, fun h => ?_⟩, rfl, fun h => ?_⟩
  · obtain ⟨⟨-, -, hagree⟩, -⟩ := (Value.matches_iff_of_not_same (by decide)).1 h
    exact absurd (hagree rfl) (by decide)
  · obtain ⟨⟨-, -, hagree⟩, -⟩ := (Value.matches_iff_of_not_same (by decide)).1 h
    exact absurd (hagree rfl).2 (by decide)
  · obtain ⟨⟨-, -, hagree⟩, -⟩ := (Value.matches_iff_of_not_same (by decide)).1 h
    exact absurd (hagree (.inl rfl)) (by decide)

end Session

end DocExamples.Script
