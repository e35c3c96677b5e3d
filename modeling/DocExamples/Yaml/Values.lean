import DocExamples.Config.Settings
import DocExamples.Data.Key
import DocExamples.Yaml.Scalar
import DocExamples.Yaml.Tree

/-!
The values of the tree of a text. The collections of a text are filled level by level from the
outside in, so of several faults the one at the outermost level is reported, and on one level the
first.

Together with the reading of the tree this is a library for the settings language. It knows no value
that holds itself, and no bound on how deep collections nest.
-/

namespace DocExamples.Yaml

open Config (OwnTag TextFault YamlLibrary)

/-- How the values with tags that are not those of the language are made. -/
structure Builder where
  own : OwnTag → String → Except LoadError Data

namespace Builder

/-- The tag of a script expression. -/
def scriptTag : Tag := .other "!js"

/-- The tag of a module file. -/
def moduleTag : Tag := .other "!js-file"

/-- A text that is not written in the language. -/
def malformed : TextFault := .malformed "the text is not written in the settings language"

/-- A fault of the language as it is reported. -/
def faultError : Fault → TextFault
  | .malformed => malformed
  | .failed failure => .failed failure

mutual

/-- The text that a node stands for: its own, or that of the default value of a mapping. -/
def textOf? : Node → Option String
  | .scalar _ text => some text
  | .sequence .. => none
  | .mapping _ entries => defaultText? entries

/-- The text of the first default value among entries. -/
def defaultText? : List (Node × Node) → Option String
  | [] => none
  | (key, value) :: more =>
    if key.tag = .defaultValue then textOf? value else defaultText? more

end

/-- Holds of the tags of collections, which are filled after they are made. -/
def isCollection : Tag → Bool
  | .sequence | .mapping | .set | .ordered | .pairs => true
  | _ => false

/-- The value of a text with a tag. -/
def textValue (f : Builder) (tag : Tag) (text : String) : Except TextFault Data :=
  if tag = scriptTag then (f.own .script text).mapError .own
  else if tag = moduleTag then (f.own .moduleFile text).mapError .own
  else
    match Scalar.value? tag text with
    | none => .error malformed
    | some value => value.mapError faultError

/-- The value of a node that is no collection. -/
def simpleValue (f : Builder) (n : Node) : Except TextFault Data :=
  match n, n.tag with
  | .scalar _ text, tag => f.textValue tag text
  | n, tag =>
    match textOf? n with
    | none => .error malformed
    | some text => f.textValue tag text

/-- Makes a node: the fault of a value that is no collection. -/
def make (f : Builder) (n : Node) : Except TextFault Unit :=
  if isCollection n.tag then .ok () else (f.simpleValue n).map fun _ => ()

/-- Takes a default-value key for the text it is. -/
def asKey : Node → Node
  | .scalar .defaultValue text => .scalar .text text
  | n => n

mutual

/-- The entries that a value behind a merging key gives. -/
def merged? : Node → Option (List (Node × Node))
  | .scalar .. => none
  | .mapping _ entries => flat? entries
  | .sequence _ items => mergedItems? items

/-- The entries of several mappings, those of the last one first. -/
def mergedItems? : List Node → Option (List (Node × Node))
  | [] => some []
  | item :: more =>
    match item with
    | .mapping _ entries =>
      match flat? entries, mergedItems? more with
      | some first, some others => some (others ++ first)
      | _, _ => none
    | _ => none

/-- Entries with those that are merged in taken apart: first the merged ones, then the others. -/
def flatParts? : List (Node × Node) → Option (List (Node × Node) × List (Node × Node))
  | [] => some ([], [])
  | (key, value) :: more =>
    if key.tag = .merge then
      match merged? value, flatParts? more with
      | some here, some (added, own) => some (here ++ added, own)
      | _, _ => none
    else (flatParts? more).map fun (added, own) => (added, (asKey key, value) :: own)

/-- The entries of a mapping, the merged ones in front. -/
def flat? (entries : List (Node × Node)) : Option (List (Node × Node)) :=
  match entries with
  | [] => some []
  | (key, value) :: more =>
    if key.tag = .merge then
      match merged? value, flatParts? more with
      | some here, some (added, own) => some (here ++ added ++ own)
      | _, _ => none
    else (flatParts? more).map fun (added, own) => added ++ (asKey key, value) :: own

end

/-- Makes the key and the value of an entry. A collection is no key. -/
def makeEntry (f : Builder) (entry : Node × Node) : Except TextFault Unit := do
  f.make entry.1
  if isCollection entry.1.tag then throw malformed
  f.make entry.2

/-- The entry that an item of a list of pairs holds. -/
def pairOf? : Node → Option (Node × Node)
  | .mapping _ [entry] => some entry
  | _ => none

/-- Fills a collection: the fault of what it holds directly, and the collections in it. -/
def fill (f : Builder) (n : Node) : Except TextFault (List Node) :=
  match n.tag, n with
  | .sequence, .sequence _ items => do
    items.forM f.make
    return items.filter fun n => isCollection n.tag
  | .mapping, .mapping _ entries | .set, .mapping _ entries =>
    match flat? entries with
    | none => .error malformed
    | some entries => do
      entries.forM f.makeEntry
      return (entries.map (·.2)).filter fun n => isCollection n.tag
  | .ordered, .sequence _ items | .pairs, .sequence _ items => do
    let inside ← items.mapM fun item =>
      match pairOf? item with
      | none => .error malformed
      | some (key, value) => do
        f.make key
        f.make value
        return [key, value]
    return inside.flatten.filter fun n => isCollection n.tag
  | _, _ => .error malformed

/-- Fills collections level by level. The height of the highest of them bounds the steps. -/
def fillLevels (f : Builder) (fuel : Nat) (level : List Node) : Except TextFault Unit :=
  match fuel, level with
  | 0, _ | _, [] => .ok ()
  | fuel + 1, level =>
    match level.mapM f.fill with
    | .error e => .error e
    | .ok inside => f.fillLevels fuel inside.flatten

/-- The value of a node that is known to have one. Its height bounds the steps. -/
def valueOf (f : Builder) (fuel : Nat) (n : Node) : Data :=
  match fuel with
  | 0 => .null
  | fuel + 1 =>
    match n.tag, n with
    | .sequence, .sequence _ items => .list (items.map (f.valueOf fuel))
    | .mapping, .mapping _ entries =>
      Data.mapOf (((flat? entries).getD []).map fun e =>
        (f.valueOf fuel e.1, f.valueOf fuel e.2))
    | .set, _ => .foreign "set" "set()" "" []
    | .ordered, .sequence _ items | .pairs, .sequence _ items =>
      .list ((items.filterMap pairOf?).map fun e =>
        .tuple [f.valueOf fuel e.1, f.valueOf fuel e.2])
    | _, n =>
      match f.simpleValue n with
      | .ok d => d
      | .error _ => .null

/-- The value of a whole tree. -/
def treeValue (f : Builder) (n : Node) : Except TextFault Data := do
  f.make n
  if isCollection n.tag then f.fillLevels (n.height + 1) [n]
  return f.valueOf (n.height + 1) n

end Builder

/-- The library that the modules on the settings language are. -/
def library : YamlLibrary where
  load own text :=
    match tree text.toList with
    | .error fault => .error (Builder.faultError fault)
    | .ok none => .ok .null
    | .ok (some node) => Builder.treeValue ⟨own⟩ node

end DocExamples.Yaml
