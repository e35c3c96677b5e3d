import DocExamples.Data.Script
import DocExamples.Proofs.Json.Number
import DocExamples.Proofs.Run.Account

/-!
# How data enters the sandbox

The text that hands a value to the sandbox has parts that depend on the value alone and
places where the texts of its scripts stand. `parts` says where these places are without
looking at the scripts, so whatever is put there leaves all other parts as they are.

Data without scripts is a JSON text. It is read as the value that it was, with tuples as
lists; nothing else about it is lost, and no object has two members of one name, because
no mapping has a key twice.

A value can fail to be rendered in three ways: it is of a type that the sandbox cannot
receive, it is a whole number with too many digits, or it holds others where no room is left
for that. All are found while the value is walked through, and the first one decides. How
much room there is depends on where the rendering starts, so what is said here is said for
any room. `toScript` has the greatest.
-/

namespace DocExamples.Data

/-! ## Plain data -/

mutual

/-- Holds of data that is JSON but for its tuples: the keys of mappings are texts, and none of
them occurs twice. -/
def IsPlain : Data → Prop
  | null | bool _ | int _ | text _ => True
  | list items | tuple items => ArePlain items
  | map entries => (entries.map Prod.fst).Nodup ∧ EntriesPlain entries
  | _ => False

/-- Holds of plain items. -/
def ArePlain : List Data → Prop
  | [] => True
  | item :: more => item.IsPlain ∧ ArePlain more

/-- Holds of plain entries under texts. -/
def EntriesPlain : List (Data × Data) → Prop
  | [] => True
  | (key, value) :: more => (∃ name, key = text name) ∧ value.IsPlain ∧ EntriesPlain more

end

mutual

/-- The data that a JSON value is. -/
def ofJson : Json → Data
  | .null => null
  | .bool b => bool b
  | .int n => int n
  | .float x => float x
  | .str s => text s
  | .arr items => list (ofJsonItems items)
  | .obj members => map (ofJsonMembers members)

/-- The data that the items of an array are. -/
def ofJsonItems : List Json → List Data
  | [] => []
  | item :: more => ofJson item :: ofJsonItems more

/-- The entries that the members of an object are. -/
def ofJsonMembers : List (String × Json) → List (Data × Data)
  | [] => []
  | (name, value) :: more => (text name, ofJson value) :: ofJsonMembers more

end

mutual

/-- A value with lists in place of its tuples. -/
def untupled : Data → Data
  | list items | tuple items => list (untupledItems items)
  | map entries => map (untupledEntries entries)
  | d => d

/-- Items with lists in place of their tuples. -/
def untupledItems : List Data → List Data
  | [] => []
  | item :: more => item.untupled :: untupledItems more

/-- Entries with lists in place of the tuples among their values. -/
def untupledEntries : List (Data × Data) → List (Data × Data)
  | [] => []
  | (key, value) :: more => (key, value.untupled) :: untupledEntries more

end

mutual

/-- How deep lists, tuples and mappings nest in a value. -/
def nesting : Data → Nat
  | list items | tuple items => itemNesting items + 1
  | map entries => entryNesting entries + 1
  | _ => 0

/-- How deep items nest. -/
def itemNesting : List Data → Nat
  | [] => 0
  | item :: more => max item.nesting (itemNesting more)

/-- How deep the values of entries nest. -/
def entryNesting : List (Data × Data) → Nat
  | [] => 0
  | (_, value) :: more => max value.nesting (entryNesting more)

end

/-! ## Parts of a rendering -/

/-- A part of the text of a value: some text, or the place where a script stands. -/
inductive Part where
  | text (s : List Char)
  | place (source : String)

/-- The text of parts, given what stands in their places. -/
def Part.filled (texts : String → List Char) : List Part → List Char
  | [] => []
  | .text s :: more => s ++ filled texts more
  | .place source :: more => texts source ++ filled texts more

/-- The scripts that have a place, in the order of their places. -/
def Part.sources : List Part → List String
  | [] => []
  | .text _ :: more => sources more
  | .place source :: more => source :: sources more

mutual

/-- The parts of the text of a value. -/
def parts : Data → List Part
  | null => [.text "null".toList]
  | bool b => [.text (if b then "true".toList else "false".toList)]
  | int n => [.text (Number.intText n)]
  | float x => [.text (Number.Layout.data.text x)]
  | text s => [.text (Json.quoteAscii s.toList)]
  | list items | tuple items => .text ['['] :: (itemParts items ++ [.text [']']])
  | map entries => .text ['\x7b'] :: (entryParts entries ++ [.text ['\x7d']])
  | script source => [.place source]
  | _ => []

/-- The parts of the texts of items and of what stands between them. -/
def itemParts : List Data → List Part
  | [] => []
  | [item] => item.parts
  | item :: more => item.parts ++ .text ", ".toList :: itemParts more

/-- The parts of the texts of entries and of what stands between them. -/
def entryParts : List (Data × Data) → List Part
  | [] => []
  | [(key, value)] => .text (Json.quoteAscii key.display ++ ": ".toList) :: value.parts
  | (key, value) :: more =>
    .text (Json.quoteAscii key.display ++ ": ".toList) ::
      (value.parts ++ .text ", ".toList :: entryParts more)

end

mutual

/-- The scripts of a value, from left to right. -/
def scripts : Data → List String
  | list items | tuple items => itemScripts items
  | map entries => entryScripts entries
  | script source => [source]
  | _ => []

/-- The scripts of items. -/
def itemScripts : List Data → List String
  | [] => []
  | item :: more => item.scripts ++ itemScripts more

/-- The scripts of the values of entries. -/
def entryScripts : List (Data × Data) → List String
  | [] => []
  | (_, value) :: more => value.scripts ++ entryScripts more

end

mutual

/-- A value with others in the place of its scripts. -/
def graft (f : String → Data) : Data → Data
  | list items => list (graftItems f items)
  | tuple items => tuple (graftItems f items)
  | map entries => map (graftEntries f entries)
  | script source => f source
  | d => d

/-- Items with other values in the place of their scripts. -/
def graftItems (f : String → Data) : List Data → List Data
  | [] => []
  | item :: more => item.graft f :: graftItems f more

/-- Entries with other values in the place of their scripts. -/
def graftEntries (f : String → Data) : List (Data × Data) → List (Data × Data)
  | [] => []
  | (key, value) :: more => (key, value.graft f) :: graftEntries f more

end

/-! ## Where a rendering fails -/

/-- What a rendering comes across: values with the room they have, and the keys of mappings. -/
inductive Node where
  | value (room : Nat) (d : Data)
  | key (d : Data)

mutual

/-- What the rendering of a value in some room comes across, from left to right. -/
def nodes (room : Nat) : Data → List Node
  | list items => .value room (list items) :: itemNodes (room - 1) items
  | tuple items => .value room (tuple items) :: itemNodes (room - 1) items
  | map entries => .value room (map entries) :: entryNodes (room - 1) entries
  | d => [.value room d]

/-- What the rendering of items comes across. -/
def itemNodes (room : Nat) : List Data → List Node
  | [] => []
  | item :: more => item.nodes room ++ itemNodes room more

/-- What the rendering of entries comes across. -/
def entryNodes (room : Nat) : List (Data × Data) → List Node
  | [] => []
  | (key, value) :: more => .key key :: (value.nodes room ++ entryNodes room more)

end

theorem exists_nodes_eq (room : Nat) (d : Data) :
    ∃ inside, d.nodes room = .value room d :: inside := by
  cases d <;> exact ⟨_, rfl⟩

/-- Holds of a value of a type that the sandbox can receive. -/
def isSupported : Data → Bool
  | callable .. | transpile .. | settings _ | foreign .. => false
  | _ => true

/-- Why a value or a key cannot be rendered, its parts apart. -/
def Node.fault? : Node → Option Refusal
  | .key d => if d.isWritable then none else some (.tooLong .toWrite)
  | .value _ (int n) => if Number.isWritable n then none else some (.tooLong .toWrite)
  | .value 0 (list _) | .value 0 (tuple _) | .value 0 (map _) => some .tooDeep
  | .value _ d => if d.isSupported then none else some (.unsupported d.typeName)

/-! ## What stands in the places -/

theorem Part.filled_append (texts : String → List Char) (front rest : List Part) :
    filled texts (front ++ rest) = filled texts front ++ filled texts rest := by
  induction front with
  | nil => rfl
  | cons part front ih =>
      cases part with
      | text s => rw [List.cons_append, filled, filled, ih, List.append_assoc]
      | place source => rw [List.cons_append, filled, filled, ih, List.append_assoc]

theorem Part.sources_append (front rest : List Part) :
    sources (front ++ rest) = sources front ++ sources rest := by
  induction front with
  | nil => rfl
  | cons part front ih =>
      cases part with
      | text s => exact ih
      | place source => exact congrArg (source :: ·) ih

theorem itemParts_cons_cons (item next : Data) (more : List Data) :
    itemParts (item :: next :: more) =
      item.parts ++ .text ", ".toList :: itemParts (next :: more) := rfl

theorem entryParts_cons_cons (key value : Data) (next : Data × Data) (more : List (Data × Data)) :
    entryParts ((key, value) :: next :: more) =
      .text (Json.quoteAscii key.display ++ ": ".toList) ::
        (value.parts ++ .text ", ".toList :: entryParts (next :: more)) := rfl

mutual

theorem sources_parts : ∀ d : Data, Part.sources d.parts = d.scripts
  | null | bool _ | int _ | float _ | text _ | script _ | callable .. | transpile ..
  | settings _ | foreign .. => rfl
  | list items => by
      rw [parts, Part.sources, Part.sources_append, sources_itemParts items]
      exact List.append_nil _
  | tuple items => by
      rw [parts, Part.sources, Part.sources_append, sources_itemParts items]
      exact List.append_nil _
  | map entries => by
      rw [parts, Part.sources, Part.sources_append, sources_entryParts entries]
      exact List.append_nil _

theorem sources_itemParts : ∀ items, Part.sources (itemParts items) = itemScripts items
  | [] => rfl
  | [item] => by
      rw [itemParts, sources_parts item]
      exact (List.append_nil _).symm
  | item :: next :: more => by
      rw [itemParts_cons_cons, Part.sources_append, sources_parts item]
      exact congrArg (item.scripts ++ ·) (sources_itemParts (next :: more))

theorem sources_entryParts : ∀ entries, Part.sources (entryParts entries) = entryScripts entries
  | [] => rfl
  | [(key, value)] => by
      rw [entryParts, Part.sources, sources_parts value]
      exact (List.append_nil _).symm
  | (key, value) :: next :: more => by
      rw [entryParts_cons_cons, Part.sources, Part.sources_append, sources_parts value]
      exact congrArg (value.scripts ++ ·) (sources_entryParts (next :: more))

end

theorem name_of_isWritable {key : Data} (h : key.isWritable = true) :
    key.name.mapError Refusal.tooLong = .ok (String.ofList key.display) := by
  rw [name, if_pos h]
  rfl

theorem renderItems_cons {room : Nat} {item : Data} {more : List Data} {first : List Char}
    {others : List (List Char)} (hitem : item.render room = .ok first)
    (hmore : renderItems room more = .ok others) :
    renderItems room (item :: more) = .ok (first :: others) := by
  rw [renderItems, hitem, hmore]
  rfl

theorem renderEntries_cons {room : Nat} {key value : Data} {more : List (Data × Data)}
    {first : List Char} {others : List (List Char)} (hkey : key.isWritable = true)
    (hvalue : value.render room = .ok first) (hmore : renderEntries room more = .ok others) :
    renderEntries room ((key, value) :: more) =
      .ok ((Json.quoteAscii key.display ++ ": ".toList ++ first) :: others) := by
  rw [renderEntries, name_of_isWritable hkey, hvalue, hmore]
  show Except.ok ((Json.quoteAscii (String.ofList key.display).toList ++ _ ++ first) :: others) = _
  rw [String.toList_ofList]

section

variable {f : String → Data} {texts : String → List Char}

mutual

/-- The rendering of a value with others in the place of its scripts: their renderings stand where
the scripts have their places. -/
theorem render_graft {room : Nat} {d : Data}
    (hscripts : ∀ r s, .value r (script s) ∈ d.nodes room → (f s).render r = .ok (texts s))
    (hnodes : ∀ node ∈ d.nodes room, node.fault? = none) :
    (d.graft f).render room = .ok (Part.filled texts d.parts) := by
  have hself : (Node.value room d).fault? = none := by
    obtain ⟨inside, heq⟩ := exists_nodes_eq room d
    exact hnodes _ (heq ▸ List.mem_cons_self)
  have hplain : ∀ s, d.parts = [.text s] → d.graft f = d → d.render room = .ok s →
      (d.graft f).render room = .ok (Part.filled texts d.parts) := by
    intro s hparts hgraft htext
    rw [hgraft, hparts, htext, Part.filled, Part.filled, List.append_nil]
  cases d with
  | null => exact hplain _ rfl rfl rfl
  | bool b => exact hplain _ rfl rfl rfl
  | int n =>
      have hwritable : Number.isWritable n = true := by
        by_contra hn
        rw [Node.fault?, if_neg hn] at hself
        cases hself
      refine hplain _ rfl rfl ?_
      rw [render, if_pos hwritable]
  | float x => exact hplain _ rfl rfl rfl
  | text s => exact hplain _ rfl rfl rfl
  | script source =>
      rw [graft, parts, Part.filled, Part.filled, List.append_nil]
      exact hscripts room source (List.mem_singleton_self _)
  | list items =>
      cases room with
      | zero => cases hself
      | succ room =>
          have hin : ∀ r s, .value r (script s) ∈ itemNodes room items →
              (f s).render r = .ok (texts s) := fun r s hs => hscripts r s (.tail _ hs)
          obtain ⟨inside, hinside, -, hjoined⟩ :=
            renderItems_graft hin (List.forall_mem_cons.1 hnodes).2
          rw [graft, render, hinside, parts, Part.filled, Part.filled_append, ← hjoined]
          rfl
  | tuple items =>
      cases room with
      | zero => cases hself
      | succ room =>
          have hin : ∀ r s, .value r (script s) ∈ itemNodes room items →
              (f s).render r = .ok (texts s) := fun r s hs => hscripts r s (.tail _ hs)
          obtain ⟨inside, hinside, -, hjoined⟩ :=
            renderItems_graft hin (List.forall_mem_cons.1 hnodes).2
          rw [graft, render, hinside, parts, Part.filled, Part.filled_append, ← hjoined]
          rfl
  | map entries =>
      cases room with
      | zero => cases hself
      | succ room =>
          have hin : ∀ r s, .value r (script s) ∈ entryNodes room entries →
              (f s).render r = .ok (texts s) := fun r s hs => hscripts r s (.tail _ hs)
          obtain ⟨inside, hinside, -, hjoined⟩ :=
            renderEntries_graft hin (List.forall_mem_cons.1 hnodes).2
          rw [graft, render, hinside, parts, Part.filled, Part.filled_append, ← hjoined]
          rfl
  | callable name call => cases hself
  | transpile enabled presets => cases hself
  | settings fields => cases hself
  | foreign name shown identity items => cases hself

/-- The renderings of items, one for each, and what they are together. -/
theorem renderItems_graft {room : Nat} {items : List Data}
    (hscripts : ∀ r s, .value r (script s) ∈ itemNodes room items → (f s).render r = .ok (texts s))
    (hnodes : ∀ node ∈ itemNodes room items, node.fault? = none) :
    ∃ inside, renderItems room (graftItems f items) = .ok inside ∧ inside.length = items.length ∧
      Text.joinWith ", ".toList inside = Part.filled texts (itemParts items) := by
  cases items with
  | nil => exact ⟨[], rfl, rfl, rfl⟩
  | cons item more =>
      obtain ⟨hitemNodes, hmoreNodes⟩ := List.forall_mem_append.1 hnodes
      have hitem := render_graft (fun r s hs => hscripts r s (List.mem_append_left _ hs)) hitemNodes
      obtain ⟨others, hothers, hlength, hjoined⟩ :=
        renderItems_graft (fun r s hs => hscripts r s (List.mem_append_right (item.nodes room) hs))
          hmoreNodes
      refine ⟨_, renderItems_cons hitem hothers, congrArg (· + 1) hlength, ?_⟩
      cases more with
      | nil =>
          rw [List.length_eq_zero_iff.1 hlength]
          rfl
      | cons next more =>
          have hne : others ≠ [] := List.length_pos_iff.1 (by rw [hlength]; exact Nat.succ_pos _)
          rw [Text.joinWith_cons_of_ne_nil _ _ hne, itemParts_cons_cons, Part.filled_append,
            Part.filled, hjoined, List.append_assoc]

/-- The members for entries, one for each, and what they are together. -/
theorem renderEntries_graft {room : Nat} {entries : List (Data × Data)}
    (hscripts : ∀ r s, .value r (script s) ∈ entryNodes room entries →
      (f s).render r = .ok (texts s))
    (hnodes : ∀ node ∈ entryNodes room entries, node.fault? = none) :
    ∃ inside, renderEntries room (graftEntries f entries) = .ok inside ∧
      inside.length = entries.length ∧
      Text.joinWith ", ".toList inside = Part.filled texts (entryParts entries) := by
  cases entries with
  | nil => exact ⟨[], rfl, rfl, rfl⟩
  | cons entry more =>
      obtain ⟨key, value⟩ := entry
      obtain ⟨hkeyNode, hin⟩ := List.forall_mem_cons.1 hnodes
      obtain ⟨hvalueNodes, hmoreNodes⟩ := List.forall_mem_append.1 hin
      have hkey : key.isWritable = true := by
        by_contra hlong
        rw [Node.fault?, if_neg hlong] at hkeyNode
        cases hkeyNode
      have hvalue := render_graft
        (fun r s hs => hscripts r s (.tail _ (List.mem_append_left _ hs))) hvalueNodes
      obtain ⟨others, hothers, hlength, hjoined⟩ := renderEntries_graft
        (fun r s hs => hscripts r s (.tail _ (List.mem_append_right (value.nodes room) hs)))
        hmoreNodes
      refine ⟨_, renderEntries_cons hkey hvalue hothers, congrArg (· + 1) hlength, ?_⟩
      cases more with
      | nil =>
          rw [List.length_eq_zero_iff.1 hlength]
          rfl
      | cons next more =>
          have hne : others ≠ [] := List.length_pos_iff.1 (by rw [hlength]; exact Nat.succ_pos _)
          rw [Text.joinWith_cons_of_ne_nil _ _ hne, entryParts_cons_cons, Part.filled,
            Part.filled_append, Part.filled, hjoined]
          simp only [List.append_assoc]

end

end

mutual

theorem graft_script : ∀ d : Data, d.graft script = d
  | null | bool _ | int _ | float _ | text _ | script _ | callable .. | transpile ..
  | settings _ | foreign .. => rfl
  | list items => congrArg list (graftItems_script items)
  | tuple items => congrArg tuple (graftItems_script items)
  | map entries => congrArg map (graftEntries_script entries)

theorem graftItems_script : ∀ items, graftItems script items = items
  | [] => rfl
  | item :: more => congrArg₂ List.cons (graft_script item) (graftItems_script more)

theorem graftEntries_script : ∀ entries, graftEntries script entries = entries
  | [] => rfl
  | (key, value) :: more =>
      congrArg₂ List.cons (congrArg (key, ·) (graft_script value)) (graftEntries_script more)

end

/-- The text of a script in parentheses. -/
def inParentheses (source : String) : List Char := '(' :: (source.toList ++ [')'])

theorem render_script (room : Nat) (source : String) :
    (script source).render room = .ok (inParentheses source) := by
  cases room <;> rfl

theorem render_of_sound {room : Nat} {d : Data}
    (h : ∀ node ∈ d.nodes room, node.fault? = none) :
    d.render room = .ok (Part.filled inParentheses d.parts) := by
  have hgraft := render_graft (f := script) (fun r s _ => render_script r s) h
  rwa [graft_script] at hgraft

/-! ## The first fault -/

theorem render_eq_ok_of_findSome? {room : Nat} {d : Data}
    (h : (d.nodes room).findSome? Node.fault? = none) : ∃ text, d.render room = .ok text :=
  ⟨_, render_of_sound (List.findSome?_eq_none_iff.1 h)⟩

mutual

theorem render_of_fault {room : Nat} {d : Data} {r : Refusal}
    (h : (d.nodes room).findSome? Node.fault? = some r) : d.render room = .error r := by
  cases d with
  | int n =>
      have hnodes : (int n).nodes room = [.value room (int n)] := rfl
      rw [hnodes, List.findSome?_singleton, Node.fault?] at h
      split at h
      · cases h
      · next hlong =>
          cases h
          rw [render, if_neg hlong]
  | list items =>
      cases room with
      | zero => cases h; rfl
      | succ room =>
          have hitems : renderItems room items = .error r := renderItems_of_fault h
          rw [render, hitems]
          rfl
  | tuple items =>
      cases room with
      | zero => cases h; rfl
      | succ room =>
          have hitems : renderItems room items = .error r := renderItems_of_fault h
          rw [render, hitems]
          rfl
  | map entries =>
      cases room with
      | zero => cases h; rfl
      | succ room =>
          have hentries : renderEntries room entries = .error r := renderEntries_of_fault h
          rw [render, hentries]
          rfl
  | callable name call => cases h; rfl
  | transpile enabled presets => cases h; rfl
  | settings fields => cases h; rfl
  | foreign name shown identity items => cases h; rfl
  | _ => cases h

theorem renderItems_of_fault {room : Nat} {items : List Data} {r : Refusal}
    (h : (itemNodes room items).findSome? Node.fault? = some r) :
    renderItems room items = .error r := by
  cases items with
  | nil => cases h
  | cons item more =>
      rw [itemNodes, List.findSome?_append] at h
      cases hitem : (item.nodes room).findSome? Node.fault? with
      | some first =>
          rw [hitem] at h
          cases h
          rw [renderItems, render_of_fault hitem]
          rfl
      | none =>
          -- an item without a fault has a text, so the rendering goes on to the others
          rw [hitem] at h
          obtain ⟨text, htext⟩ := render_eq_ok_of_findSome? hitem
          rw [renderItems, htext, renderItems_of_fault h]
          rfl

theorem renderEntries_of_fault {room : Nat} {entries : List (Data × Data)} {r : Refusal}
    (h : (entryNodes room entries).findSome? Node.fault? = some r) :
    renderEntries room entries = .error r := by
  cases entries with
  | nil => cases h
  | cons entry more =>
      obtain ⟨key, value⟩ := entry
      rw [entryNodes, List.findSome?_cons, Node.fault?] at h
      by_cases hkey : key.isWritable = true
      · rw [if_pos hkey, List.findSome?_append] at h
        rw [renderEntries, name_of_isWritable hkey]
        cases hvalue : (value.nodes room).findSome? Node.fault? with
        | some first =>
            rw [hvalue] at h
            cases h
            rw [render_of_fault hvalue]
            rfl
        | none =>
            rw [hvalue] at h
            obtain ⟨text, htext⟩ := render_eq_ok_of_findSome? hvalue
            rw [htext, renderEntries_of_fault h]
            rfl
      · rw [if_neg hkey] at h
        cases h
        rw [renderEntries, name, if_neg hkey]
        rfl

end

theorem render_eq_error_iff (room : Nat) (d : Data) (r : Refusal) :
    d.render room = .error r ↔ (d.nodes room).findSome? Node.fault? = some r := by
  refine ⟨fun h => ?_, render_of_fault⟩
  cases hfault : (d.nodes room).findSome? Node.fault? with
  | some first =>
      rw [render_of_fault hfault] at h
      exact congrArg some (Except.error.inj h)
  | none =>
      obtain ⟨text, htext⟩ := render_eq_ok_of_findSome? hfault
      rw [htext] at h
      cases h

/-- Holds of a node that has no fault, or only that of its type. -/
def Node.Fits (node : Node) : Prop := ∀ r, node.fault? = some r → ∃ name, r = .unsupported name

mutual

/-- Without whole numbers that are too long, and with room for all of it, a value can only be of
another type. -/
theorem fits_of_isWritable {room : Nat} {d : Data} (h : d.isWritable = true)
    (hroom : d.nesting ≤ room) : ∀ node ∈ d.nodes room, node.Fits := by
  cases d with
  | int n =>
      rintro node hnode r hr
      rw [isWritable] at h
      rw [List.mem_singleton.1 hnode, Node.fault?, if_pos h] at hr
      cases hr
  | list items =>
      cases room with
      | zero => exact absurd hroom (Nat.not_succ_le_zero _)
      | succ room =>
          refine List.forall_mem_cons.2 ⟨?_, ?_⟩
          · rintro r ⟨⟩
          · exact itemsFit_of_areWritable h (Nat.le_of_succ_le_succ hroom)
  | tuple items =>
      cases room with
      | zero => exact absurd hroom (Nat.not_succ_le_zero _)
      | succ room =>
          refine List.forall_mem_cons.2 ⟨?_, ?_⟩
          · rintro r ⟨⟩
          · exact itemsFit_of_areWritable h (Nat.le_of_succ_le_succ hroom)
  | map entries =>
      cases room with
      | zero => exact absurd hroom (Nat.not_succ_le_zero _)
      | succ room =>
          refine List.forall_mem_cons.2 ⟨?_, ?_⟩
          · rintro r ⟨⟩
          · exact entriesFit_of_areWritable h (Nat.le_of_succ_le_succ hroom)
  | _ =>
      rintro node hnode r hr
      rw [List.mem_singleton.1 hnode] at hr
      cases hr <;> exact ⟨_, rfl⟩

theorem itemsFit_of_areWritable {room : Nat} {items : List Data} (h : areWritable items = true)
    (hroom : itemNesting items ≤ room) : ∀ node ∈ itemNodes room items, node.Fits := by
  cases items with
  | nil => exact fun _ hnode => absurd hnode List.not_mem_nil
  | cons item more =>
      obtain ⟨hitem, hmore⟩ := Bool.and_eq_true_iff.1 h
      obtain ⟨hitemRoom, hmoreRoom⟩ := Nat.max_le.1 hroom
      exact List.forall_mem_append.2
        ⟨fits_of_isWritable hitem hitemRoom, itemsFit_of_areWritable hmore hmoreRoom⟩

theorem entriesFit_of_areWritable {room : Nat} {entries : List (Data × Data)}
    (h : entriesAreWritable entries = true) (hroom : entryNesting entries ≤ room) :
    ∀ node ∈ entryNodes room entries, node.Fits := by
  cases entries with
  | nil => exact fun _ hnode => absurd hnode List.not_mem_nil
  | cons entry more =>
      obtain ⟨key, value⟩ := entry
      obtain ⟨hentry, hmore⟩ := Bool.and_eq_true_iff.1 h
      obtain ⟨hkey, hvalue⟩ := Bool.and_eq_true_iff.1 hentry
      obtain ⟨hvalueRoom, hmoreRoom⟩ := Nat.max_le.1 hroom
      refine List.forall_mem_cons.2 ⟨fun r hr => ?_, List.forall_mem_append.2
        ⟨fits_of_isWritable hvalue hvalueRoom, entriesFit_of_areWritable hmore hmoreRoom⟩⟩
      rw [Node.fault?, if_pos hkey] at hr
      cases hr

end

theorem Node.fault?_eq_unsupported {node : Node} {name : String}
    (h : node.fault? = some (.unsupported name)) :
    ∃ room v, node = .value room v ∧ v.isSupported = false := by
  cases node with
  | key d =>
      rw [fault?] at h
      split at h <;> cases h
  | value room d =>
      refine ⟨room, d, rfl, ?_⟩
      cases d with
      | int n =>
          rw [fault?] at h
          split at h <;> cases h
      | callable | transpile | settings | foreign => rfl
      | list | tuple | map => cases room <;> cases h
      | _ => cases h

theorem Node.fault?_of_not_isSupported {room : Nat} {v : Data} (h : v.isSupported = false) :
    (Node.value room v).fault? = some (.unsupported v.typeName) := by
  cases v with
  | callable | transpile | settings | foreign => rfl
  | _ => cases h

/-- Without whole numbers that are too long, and with room for all of a value, only values of other
types are refused. -/
theorem exists_unsupported_iff {room : Nat} {d : Data} (h : d.isWritable = true)
    (hroom : d.nesting ≤ room) :
    (∃ name, d.render room = .error (.unsupported name)) ↔
      ∃ r v, .value r v ∈ d.nodes room ∧ v.isSupported = false := by
  simp only [render_eq_error_iff]
  constructor
  · rintro ⟨name, hfault⟩
    obtain ⟨node, hnode, heq⟩ := List.exists_of_findSome?_eq_some hfault
    obtain ⟨r, v, rfl, hv⟩ := Node.fault?_eq_unsupported heq
    exact ⟨r, v, hnode, hv⟩
  · rintro ⟨r, v, hmem, hv⟩
    cases hfault : (d.nodes room).findSome? Node.fault? with
    | none =>
        have hnone := List.findSome?_eq_none_iff.1 hfault _ hmem
        rw [Node.fault?_of_not_isSupported hv] at hnone
        cases hnone
    | some refusal =>
        obtain ⟨node, hnode, heq⟩ := List.exists_of_findSome?_eq_some hfault
        obtain ⟨name, rfl⟩ := fits_of_isWritable h hroom node hnode refusal heq
        exact ⟨name, rfl⟩

theorem Refusal.kind_eq_typeError_iff (r : Refusal) :
    r.failure.kind = "TypeError" ↔ ∃ name, r = .unsupported name := by
  cases r with
  | unsupported name => exact iff_of_true rfl ⟨name, rfl⟩
  | tooLong t =>
      have hother : "ValueError" ≠ "TypeError" := by decide
      exact iff_of_false hother (by rintro ⟨name, ⟨⟩⟩)
  | tooDeep =>
      have hother : "RecursionError" ≠ "TypeError" := by decide
      exact iff_of_false hother (by rintro ⟨name, ⟨⟩⟩)

/-! ## Plain data as JSON -/

/-- Holds of a JSON value that plain data is: it is as deep, its numbers are whole, and no object
has two members of one name. -/
structure IsJson (nesting : Nat) (j : Json) : Prop where
  height : j.height = nesting
  apart : j.NamesApart
  whole : ∀ n ∈ j.numbers, ∃ k, n = .int k ∧ Number.isWritable k = true

theorem isJson_of_no_numbers {j : Json} (hheight : j.height = 0) (hapart : j.NamesApart)
    (hnumbers : j.numbers = []) : IsJson 0 j :=
  ⟨hheight, hapart, fun _ hn => absurd (hnumbers ▸ hn) List.not_mem_nil⟩

mutual

/-- Plain data is rendered as the JSON value that is the same data, its tuples being lists, if
there is room for it. -/
theorem exists_json {room : Nat} {d : Data} (hplain : d.IsPlain) (hwritable : d.isWritable = true)
    (hroom : d.nesting ≤ room) :
    ∃ j, d.render room = .ok (Json.write Json.Style.spaced j) ∧ ofJson j = d.untupled ∧
      IsJson d.nesting j := by
  cases d with
  | null => exact ⟨.null, by cases room <;> rfl, rfl, isJson_of_no_numbers rfl trivial rfl⟩
  | bool b =>
      refine ⟨.bool b, ?_, rfl, isJson_of_no_numbers rfl trivial rfl⟩
      cases b <;> rfl
  | int n =>
      rw [isWritable] at hwritable
      refine ⟨.int n, ?_, rfl, rfl, trivial, fun _ hn => ⟨n, List.mem_singleton.1 hn, hwritable⟩⟩
      rw [render, if_pos hwritable]
      rfl
  | text s => exact ⟨.str s, rfl, rfl, isJson_of_no_numbers rfl trivial rfl⟩
  | list items =>
      cases room with
      | zero => exact absurd hroom (Nat.not_succ_le_zero _)
      | succ room =>
          obtain ⟨js, htexts, hback, hjson⟩ :=
            exists_jsonItems hplain hwritable (Nat.le_of_succ_le_succ hroom)
          refine ⟨.arr js, ?_, congrArg list hback, hjson⟩
          rw [render, htexts]
          rfl
  | tuple items =>
      cases room with
      | zero => exact absurd hroom (Nat.not_succ_le_zero _)
      | succ room =>
          obtain ⟨js, htexts, hback, hjson⟩ :=
            exists_jsonItems hplain hwritable (Nat.le_of_succ_le_succ hroom)
          refine ⟨.arr js, ?_, congrArg list hback, hjson⟩
          rw [render, htexts]
          rfl
  | map entries =>
      cases room with
      | zero => exact absurd hroom (Nat.not_succ_le_zero _)
      | succ room =>
          obtain ⟨members, htexts, hback, hheight, hkeys, hapart, hwhole⟩ :=
            exists_jsonMembers hplain.2 hwritable (Nat.le_of_succ_le_succ hroom)
          refine ⟨.obj members, ?_, congrArg map hback, congrArg (· + 1) hheight, ⟨?_, hapart⟩,
            hwhole⟩
          · rw [render, htexts]
            rfl
          · have hnames := hplain.1
            rw [hkeys] at hnames
            exact List.Pairwise.of_map text (fun _ _ h heq => h (congrArg text heq)) hnames
  | float x => exact absurd hplain id
  | script source => exact absurd hplain id
  | callable name call => exact absurd hplain id
  | transpile enabled presets => exact absurd hplain id
  | settings fields => exact absurd hplain id
  | foreign name shown identity items => exact absurd hplain id

theorem exists_jsonItems {room : Nat} {items : List Data} (hplain : ArePlain items)
    (hwritable : areWritable items = true) (hroom : itemNesting items ≤ room) :
    ∃ js, renderItems room items = .ok (Json.writeItems Json.Style.spaced js) ∧
      ofJsonItems js = untupledItems items ∧ IsJson (itemNesting items + 1) (.arr js) := by
  cases items with
  | nil => exact ⟨[], rfl, rfl, rfl, trivial, fun _ hn => absurd hn List.not_mem_nil⟩
  | cons item more =>
      obtain ⟨hitem, hmore⟩ := Bool.and_eq_true_iff.1 hwritable
      obtain ⟨hitemRoom, hmoreRoom⟩ := Nat.max_le.1 hroom
      obtain ⟨j, htext, hback, hjson⟩ := exists_json hplain.1 hitem hitemRoom
      obtain ⟨js, htexts, hbacks, hjsons⟩ := exists_jsonItems hplain.2 hmore hmoreRoom
      have hheight : Json.itemsHeight js = itemNesting more := Nat.succ.inj hjsons.height
      refine ⟨j :: js, renderItems_cons htext htexts, congrArg₂ List.cons hback hbacks, ?_,
        ⟨hjson.apart, hjsons.apart⟩, List.forall_mem_append.2 ⟨hjson.whole, hjsons.whole⟩⟩
      rw [Json.height, Json.itemsHeight, itemNesting, hjson.height, hheight]

theorem exists_jsonMembers {room : Nat} {entries : List (Data × Data)}
    (hplain : EntriesPlain entries) (hwritable : entriesAreWritable entries = true)
    (hroom : entryNesting entries ≤ room) :
    ∃ members, renderEntries room entries = .ok (Json.writeMembers Json.Style.spaced members) ∧
      ofJsonMembers members = untupledEntries entries ∧
      Json.membersHeight members = entryNesting entries ∧
      entries.map Prod.fst = (members.map Prod.fst).map text ∧ Json.MembersApart members ∧
      ∀ n ∈ Json.membersNumbers members, ∃ k, n = .int k ∧ Number.isWritable k = true := by
  cases entries with
  | nil => exact ⟨[], rfl, rfl, rfl, rfl, trivial, fun _ hn => absurd hn List.not_mem_nil⟩
  | cons entry more =>
      obtain ⟨key, value⟩ := entry
      obtain ⟨⟨name, rfl⟩, hvalue, hmore⟩ := hplain
      obtain ⟨hentry, hothers⟩ := Bool.and_eq_true_iff.1 hwritable
      obtain ⟨hkey, hshort⟩ := Bool.and_eq_true_iff.1 hentry
      obtain ⟨hvalueRoom, hmoreRoom⟩ := Nat.max_le.1 hroom
      obtain ⟨j, htext, hback, hjson⟩ := exists_json hvalue hshort hvalueRoom
      obtain ⟨members, htexts, hbacks, hheight, hkeys, hapart, hwhole⟩ :=
        exists_jsonMembers hmore hothers hmoreRoom
      refine ⟨(name, j) :: members, renderEntries_cons hkey htext htexts, ?_, ?_, ?_,
        ⟨hjson.apart, hapart⟩, List.forall_mem_append.2 ⟨hjson.whole, hwhole⟩⟩
      · rw [ofJsonMembers, hback, hbacks]
        rfl
      · rw [Json.membersHeight, entryNesting, hjson.height, hheight]
      · rw [List.map_cons, hkeys]
        rfl

end

mutual

/-- Plain data that nests deeper than there is room for is refused, and for no other reason. -/
theorem render_of_deep {room : Nat} {d : Data} (hplain : d.IsPlain)
    (hwritable : d.isWritable = true) (hdeep : room < d.nesting) :
    d.render room = .error .tooDeep := by
  cases d with
  | list items =>
      cases room with
      | zero => rfl
      | succ room =>
          rw [render, renderItems_of_deep hplain hwritable (Nat.lt_of_succ_lt_succ hdeep)]
          rfl
  | tuple items =>
      cases room with
      | zero => rfl
      | succ room =>
          rw [render, renderItems_of_deep hplain hwritable (Nat.lt_of_succ_lt_succ hdeep)]
          rfl
  | map entries =>
      cases room with
      | zero => rfl
      | succ room =>
          rw [render, renderEntries_of_deep hplain.2 hwritable (Nat.lt_of_succ_lt_succ hdeep)]
          rfl
  | _ => exact absurd hdeep (Nat.not_lt_zero _)

theorem renderItems_of_deep {room : Nat} {items : List Data} (hplain : ArePlain items)
    (hwritable : areWritable items = true) (hdeep : room < itemNesting items) :
    renderItems room items = .error .tooDeep := by
  cases items with
  | nil => exact absurd hdeep (Nat.not_lt_zero _)
  | cons item more =>
      obtain ⟨hitem, hmore⟩ := Bool.and_eq_true_iff.1 hwritable
      rw [renderItems]
      by_cases hroom : item.nesting ≤ room
      · obtain ⟨j, htext, -, -⟩ := exists_json hplain.1 hitem hroom
        have hothers : room < itemNesting more := by
          rw [itemNesting] at hdeep
          omega
        rw [htext, renderItems_of_deep hplain.2 hmore hothers]
        rfl
      · rw [render_of_deep hplain.1 hitem (Nat.not_le.1 hroom)]
        rfl

theorem renderEntries_of_deep {room : Nat} {entries : List (Data × Data)}
    (hplain : EntriesPlain entries) (hwritable : entriesAreWritable entries = true)
    (hdeep : room < entryNesting entries) : renderEntries room entries = .error .tooDeep := by
  cases entries with
  | nil => exact absurd hdeep (Nat.not_lt_zero _)
  | cons entry more =>
      obtain ⟨key, value⟩ := entry
      obtain ⟨-, hvalue, hmore⟩ := hplain
      obtain ⟨hentry, hothers⟩ := Bool.and_eq_true_iff.1 hwritable
      obtain ⟨hkey, hshort⟩ := Bool.and_eq_true_iff.1 hentry
      rw [renderEntries, name_of_isWritable hkey]
      by_cases hroom : value.nesting ≤ room
      · obtain ⟨j, htext, -, -⟩ := exists_json hvalue hshort hroom
        have hdeeper : room < entryNesting more := by
          rw [entryNesting] at hdeep
          omega
        rw [htext, renderEntries_of_deep hmore hothers hdeeper]
        rfl
      · rw [render_of_deep hvalue hshort (Nat.not_le.1 hroom)]
        rfl

end

theorem IsJson.reads {nesting : Nat} {j : Json} (h : IsJson nesting j) :
    (∀ fuel depth, (Json.write Json.Style.spaced j).length ≤ fuel → nesting ≤ depth →
      Json.readValue fuel depth (Json.write Json.Style.spaced j) = .ok (j, [])) ∧
    (nesting ≤ Json.deepest → Json.read (Json.write Json.Style.spaced j) = .ok j) := by
  have hnumbers : ∀ n ∈ j.numbers, Json.ReadsNumber Json.Style.spaced n (id n) := by
    intro n hn
    obtain ⟨k, rfl, hk⟩ := h.whole n hn
    exact Json.readsNumber_int _ hk
  have hself : j.renumber id = j := Json.renumber_of_fixed fun _ _ => rfl
  have hend : Json.EndsNumber [] := fun _ h => absurd h (Option.some_ne_none _).symm
  refine ⟨fun fuel depth hfuel hdepth => ?_, fun hdepth => ?_⟩
  · have hread := (Json.readValue_write Json.isReadable_spaced hnumbers h.apart hfuel depth
      hend).ok (h.height.symm ▸ hdepth)
    rwa [hself, List.append_nil] at hread
  · have hread := (Json.read_write Json.isReadable_spaced hnumbers h.apart).1
      (h.height.symm ▸ hdepth)
    rwa [hself] at hread

/-! ## All renderings -/

/-- How data enters the sandbox, given the room that is left for values which hold others. Plain
data that fits is a JSON text that is read as the same value, with lists in place of its tuples, and
what nests deeper is refused. Scripts stand in parentheses in their places; whatever stands in these
places, all other parts of the text stay as they are. A rendering fails at the first thing in it
that cannot be rendered. That this is a type error says that there is a value of a type that the
sandbox cannot receive, unless there are whole numbers with too many digits or the value does not
fit. -/
theorem rendering (room : Nat) (d : Data) :
    (d.IsPlain → d.isWritable = true →
      (d.nesting ≤ room →
        ∃ j, d.render room = .ok (Json.write Json.Style.spaced j) ∧ ofJson j = d.untupled ∧
          (∀ fuel depth, (Json.write Json.Style.spaced j).length ≤ fuel → d.nesting ≤ depth →
            Json.readValue fuel depth (Json.write Json.Style.spaced j) = .ok (j, [])) ∧
          (d.nesting ≤ Json.deepest → Json.read (Json.write Json.Style.spaced j) = .ok j)) ∧
      (room < d.nesting → d.render room = .error .tooDeep)) ∧
    ((∀ node ∈ d.nodes room, node.fault? = none) →
      d.render room = .ok (Part.filled inParentheses d.parts) ∧
        Part.sources d.parts = d.scripts ∧
        ∀ (f : String → Data) (texts : String → List Char),
          (∀ r s, .value r (script s) ∈ d.nodes room → (f s).render r = .ok (texts s)) →
            (d.graft f).render room = .ok (Part.filled texts d.parts)) ∧
    (∀ r, d.render room = .error r ↔ (d.nodes room).findSome? Node.fault? = some r) ∧
    (d.isWritable = true → d.nesting ≤ room →
      ((∃ r, d.render room = .error r ∧ r.failure.kind = "TypeError") ↔
        ∃ r v, .value r v ∈ d.nodes room ∧ v.isSupported = false)) := by
  refine ⟨fun hplain hwritable => ⟨fun hroom => ?_, render_of_deep hplain hwritable⟩,
    fun hsound => ?_, render_eq_error_iff room d, fun hwritable hroom => ?_⟩
  · obtain ⟨j, htext, hback, hjson⟩ := exists_json hplain hwritable hroom
    exact ⟨j, htext, hback, hjson.reads⟩
  · exact ⟨render_of_sound hsound, sources_parts d,
      fun _ _ hscripts => render_graft hscripts hsound⟩
  · rw [← exists_unsupported_iff hwritable hroom]
    simp only [Refusal.kind_eq_typeError_iff]
    constructor
    · rintro ⟨r, herror, name, rfl⟩
      exact ⟨name, herror⟩
    · rintro ⟨name, herror⟩
      exact ⟨_, herror, name, rfl⟩

/-- A mapping with a tuple, and a list with a script and with something that can be called. -/
theorem rendering_of_mapping :
    (∃ j, (map [(text "a", tuple [int (-1), text "\"\n"]), (text "", null)]).toScript =
        .ok (Json.write Json.Style.spaced j) ∧
      ofJson j = map [(text "a", list [int (-1), text "\"\n"]), (text "", null)] ∧
      Json.read (Json.write Json.Style.spaced j) = .ok j) ∧
    (list [script "f()", bool true]).toScript = .ok "[(f()), true]".toList ∧
    (list [list []]).render 1 = .error .tooDeep ∧
    ∃ r, (list [script "f()", callable "function" fun _ _ => .ok null]).toScript = .error r ∧
      r.failure.kind = "TypeError" := by
  refine ⟨?_, ?_, ?_, ?_⟩
  · obtain ⟨j, htext, hback, -, hread⟩ := ((rendering deepest
      (map [(text "a", tuple [int (-1), text "\"\n"]), (text "", null)])).1
      ⟨by simp, ⟨_, rfl⟩, ⟨trivial, trivial, trivial⟩, ⟨_, rfl⟩, trivial, trivial⟩
      (by decide +kernel)).1 (by decide)
    exact ⟨j, htext, hback, hread (by decide)⟩
  · refine ((rendering deepest (list [script "f()", bool true])).2.1 ?_).1
    exact List.forall_mem_cons.2
      ⟨rfl, List.forall_mem_cons.2 ⟨rfl, List.forall_mem_singleton.2 rfl⟩⟩
  · exact ((rendering 1 (list [list []])).1 ⟨trivial, trivial⟩ rfl).2 (by decide)
  · exact ((rendering deepest (list [script "f()", callable "function" fun _ _ => .ok null])).2.2.2
      rfl (by decide)).2
        ⟨_, callable "function" fun _ _ => .ok null, .tail _ (.tail _ (.head _)), rfl⟩

/-- A whole number with too many digits is plain data, but has no rendering. -/
theorem not_rendered_of_long :
    (int (10 ^ Number.digitLimit : Nat)).IsPlain ∧
      ∀ text, (int (10 ^ Number.digitLimit : Nat)).toScript ≠ .ok text := by
  have hlong : Number.isWritable (10 ^ Number.digitLimit : Nat) = false := by
    rw [Number.isWritable, Int.natAbs_natCast, decide_eq_false_iff_not]
    exact Nat.lt_irrefl _
  refine ⟨trivial, fun text h => ?_⟩
  rw [toScript, render, hlong] at h
  cases h

end DocExamples.Data
