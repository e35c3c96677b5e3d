import DocExamples.Proofs.Json.Reading
import DocExamples.Proofs.Script.Literal
import DocExamples.Script.Native

/-!
# What scripts make of the replies of the host

The host answers in JSON: a line of the console is a literal, no line is `null`, the
lines that are left are an array of literals, and a request for a module is answered by
an object with a verdict and a text. This file says what a script reads out of each of
them.
-/

namespace DocExamples.Script

open Json

namespace JsonReader

theorem readToken_quoteAscii (s rest : List Char) :
    readToken (quoteAscii s ++ rest) =
      .ok (.text (String.ofList s), quoteAscii s, rest) := by
  rw [quoteAscii_append, readToken, List.dropWhile_cons_of_neg (by decide)]
  exact readText_escape s rest

theorem readToken_blank (s : List Char) : readToken (' ' :: s) = readToken s := by
  rw [readToken, readToken, List.dropWhile_cons_of_pos rfl]

theorem readValue_quoteAscii (fuel : Nat) (s rest : List Char) :
    readValue (fuel + 1) (quoteAscii s ++ rest) = .ok (.str (String.ofList s), rest) := by
  rw [readValue, readToken_quoteAscii]
  rfl

theorem readValue_blank (fuel : Nat) (s : List Char) :
    readValue fuel (' ' :: s) = readValue fuel s := by
  cases fuel with
  | zero => rfl
  | succ fuel => rw [readValue, readValue, readToken_blank]

theorem readItems_blank (fuel : Nat) (acc : List Json) (s : List Char) :
    readItems fuel acc (' ' :: s) = readItems fuel acc s := by
  cases fuel with
  | zero => rfl
  | succ fuel => rw [readItems, readItems, readValue_blank]

/-- The texts of lines that stand in an array. -/
theorem writeItems_str (style : Style) (lines : List String) :
    writeItems style (lines.map .str) = lines.map fun line => quote style.plain line.toList := by
  induction lines with
  | nil => rfl
  | cons line lines ih => rw [List.map_cons, writeItems, ih]; rfl

/-- The items of an array of texts, behind the opening bracket. -/
theorem readItems_joined {lines : List String} {line : String} {acc : List Json}
    {fuel : Nat} (hfuel : lines.length + 1 < fuel) (rest : List Char) :
    readItems fuel acc
        (Text.joinWith ", ".toList ((line :: lines).map fun l => quoteAscii l.toList) ++
          ']' :: rest) =
      .ok (.arr (acc.reverse ++ (line :: lines).map .str), rest) := by
  induction lines generalizing line acc fuel with
  | nil =>
      obtain ⟨fuel, rfl⟩ : ∃ n, fuel = n + 2 := ⟨fuel - 2, by rw [List.length_nil] at hfuel; omega⟩
      rw [List.map_cons, List.map_nil, Text.joinWith, readItems, readValue_quoteAscii,
        String.ofList_toList]
      show Except.ok (Json.arr (Json.str line :: acc).reverse, rest) = _
      rw [List.reverse_cons]
      rfl
  | cons next lines ih =>
      obtain ⟨fuel, rfl⟩ : ∃ n, fuel = n + 2 := ⟨fuel - 2, by rw [List.length_cons] at hfuel; omega⟩
      have hmore := @ih next (.str line :: acc) (fuel + 1)
        (by rw [List.length_cons] at hfuel; omega)
      rw [List.map_cons, List.map_cons, Text.joinWith, List.append_assoc, List.append_assoc,
        readItems, readValue_quoteAscii, String.ofList_toList]
      · show readItems (fuel + 1) (.str line :: acc) (' ' :: _) = _
        rw [readItems_blank]
        refine hmore.trans ?_
        rw [List.reverse_cons, List.append_assoc]
        rfl
      · exact List.cons_ne_nil _ _

theorem length_le_joinWith {sep : List Char} (hsep : sep ≠ []) (parts : List (List Char)) :
    parts.length ≤ (Text.joinWith sep parts).length + 1 := by
  have hpos := List.length_pos_iff.2 hsep
  induction parts with
  | nil => exact Nat.zero_le _
  | cons part parts ih =>
      cases parts with
      | nil => exact Nat.le_add_left 1 _
      | cons next parts =>
          rw [Text.joinWith, List.length_append, List.length_append, List.length_cons]
          · omega
          · exact List.cons_ne_nil _ _

/-- What is read of a reply with nothing behind it. -/
theorem read_of_readValue {s : List Char} {j : Json}
    (h : readValue (2 * s.length + 2) s = .ok (j, [])) : read s = .ok j := by
  rw [read, h]
  rfl

theorem read_lineJson (line : Option String) :
    read (Sandbox.lineJson line).render.toList = .ok (Sandbox.lineJson line) := by
  cases line with
  | none => rfl
  | some line =>
      have htext : (Sandbox.lineJson (some line)).render.toList =
          quoteAscii line.toList ++ [] := by
        rw [Sandbox.lineJson, render, String.toList_ofList, List.append_nil]
        rfl
      rw [htext]
      refine read_of_readValue ?_
      rw [readValue_quoteAscii, String.ofList_toList]
      rfl

theorem read_lines (lines : List String) :
    read (Json.arr (lines.map .str)).render.toList = .ok (.arr (lines.map .str)) := by
  cases lines with
  | nil => rfl
  | cons line lines =>
      have htext : (Json.arr ((line :: lines).map .str)).render.toList =
          '[' :: (Text.joinWith ", ".toList
            ((line :: lines).map fun l => quoteAscii l.toList) ++ [']']) := by
        rw [render, String.toList_ofList, write, writeItems_str]
        rfl
      rw [htext]
      refine read_of_readValue ?_
      obtain ⟨more, hmore⟩ : ∃ more, Text.joinWith ", ".toList
          ((line :: lines).map fun l => quoteAscii l.toList) ++ [']'] =
            quoteAscii line.toList ++ more := by
        cases lines with
        | nil => exact ⟨_, rfl⟩
        | cons next lines =>
            rw [List.map_cons, List.map_cons, Text.joinWith, List.append_assoc,
              List.append_assoc]
            · exact ⟨_, rfl⟩
            · exact List.cons_ne_nil _ _
      have hopen : ∀ s : List Char, readToken ('[' :: s) = .ok (.mark '[', ['['], s) :=
        fun _ => rfl
      have hfirst := readToken_quoteAscii line.toList more
      rw [← hmore] at hfirst
      rw [readValue, hopen]
      show (readToken _ >>= _) = _
      rw [hfirst]
      refine readItems_joined ?_ []
      have hlong := length_le_joinWith (by decide : ", ".toList ≠ [])
        ((line :: lines).map fun l => quoteAscii l.toList)
      rw [List.length_map, List.length_cons] at hlong
      rw [List.length_cons, List.length_append]
      omega

/-! ## Objects with a verdict and a text -/

theorem readMembers_blank (fuel : Nat) (acc : List (String × Json)) (s : List Char) :
    readMembers fuel acc (' ' :: s) = readMembers fuel acc s := by
  cases fuel with
  | zero => rfl
  | succ fuel => rw [readMembers, readMembers, readToken_blank]

theorem readMembers_comma {fuel : Nat} {acc : List (String × Json)} (name : List Char)
    {s more : List Char} {value : Json} (h : readValue fuel s = .ok (value, ',' :: more)) :
    readMembers (fuel + 1) acc (quoteAscii name ++ ':' :: s) =
      readMembers fuel ((String.ofList name, value) :: acc) more := by
  rw [readMembers, readToken_quoteAscii]
  show (readValue fuel s >>= _) = _
  rw [h]
  rfl

theorem readMembers_close {fuel : Nat} {acc : List (String × Json)} (name : List Char)
    {s more : List Char} {value : Json} (h : readValue fuel s = .ok (value, '\x7d' :: more)) :
    readMembers (fuel + 1) acc (quoteAscii name ++ ':' :: s) =
      .ok (.obj ((String.ofList name, value) :: acc).reverse, more) := by
  rw [readMembers, readToken_quoteAscii]
  show (readValue fuel s >>= _) = _
  rw [h]
  rfl

/-- The members of an object whose first name is a literal, behind the opening brace. -/
theorem readValue_object (fuel : Nat) (name s : List Char) :
    readValue (fuel + 1) ('\x7b' :: (quoteAscii name ++ s)) =
      readMembers fuel [] (quoteAscii name ++ s) := by
  have hopen : ∀ s : List Char, readToken ('\x7b' :: s) = .ok (.mark '\x7b', ['\x7b'], s) :=
    fun _ => rfl
  rw [readValue, hopen]
  simp only [bind, Except.bind, readToken_quoteAscii]

theorem read_answer (ok : Bool) (name text : String) :
    read (write Style.spaced (.obj [("ok", .bool ok), (name, .str text)])) =
      .ok (.obj [("ok", .bool ok), (name, .str text)]) := by
  have hverdict : ∀ fuel rest,
      readValue (fuel + 1) (' ' :: (write Style.spaced (.bool ok) ++ ',' :: rest)) =
        .ok (.bool ok, ',' :: rest) := by
    cases ok <;> exact fun _ _ => rfl
  have hvalue := fun fuel => readValue_quoteAscii fuel text.toList ['\x7d']
  rw [write_answer]
  refine read_of_readValue ?_
  rw [readValue_object]
  refine (readMembers_comma "ok".toList (hverdict _ _)).trans ?_
  rw [readMembers_blank]
  refine (readMembers_close name.toList ((readValue_blank _ _).trans (hvalue _))).trans ?_
  rw [String.ofList_toList, String.ofList_toList]
  rfl

end JsonReader

end DocExamples.Script
