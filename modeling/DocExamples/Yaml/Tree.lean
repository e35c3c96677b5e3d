import DocExamples.Yaml.Implicit
import DocExamples.Yaml.Tokens

/-!
From tokens to the tree. A text is one document; directives and marks may stand around it. What is
wrong with the tokens shows when one is needed that is not known.
-/

namespace DocExamples.Yaml

/-- What is left to be read, and what is known. -/
structure Reading where
  tokens : List Token
  /-- Why no tokens are known behind these. -/
  stop : Option Fault := none
  /-- The nodes with names, the newest first; a name whose node is still open has none. -/
  anchors : List (String × Option Node) := []
  /-- What the handles of tags stand for. -/
  handles : List (String × String) := []

/-- A step of reading. -/
abbrev Step := StateT Reading (Except Fault)

namespace Step

/-- The text is malformed. -/
def fail {α : Type} : Step α := throw .malformed

/-- The next token, which stays; none at the end. -/
def next : Step (Option Token) := do
  let r ← get
  match r.tokens.head?, r.stop with
  | none, some fault => throw fault
  | token, _ => return token

/-- Drops the next token. -/
def drop : Step Unit := modify fun r => { r with tokens := r.tokens.drop 1 }

/-- Takes a given token if it comes next. -/
def takeIf (t : Token) : Step Bool := do
  if (← next) == some t then drop; return true else return false

/-- Requires a given token. -/
def require (t : Token) : Step Unit := do
  if !(← takeIf t) then fail

/-- Holds when one of the given tokens comes next. -/
def nextIn (ts : List Token) : Step Bool := do return (← next).any ts.contains

end Step

/-- The properties in front of a node: its name, and its tag as it is written. -/
structure Properties where
  anchor : Option String := none
  tag : Option (Option String × String) := none

/-- Reads the name of a node. -/
def readAnchorToken : Step (Option String) := do
  match ← Step.next with
  | some (.anchor name) => Step.drop; return some name
  | _ => return none

/-- Reads the tag of a node. -/
def readTagToken : Step (Option (Option String × String)) := do
  match ← Step.next with
  | some (.tag handle suffix) => Step.drop; return some (handle, suffix)
  | _ => return none

/-- Reads the properties of a node, in either order. -/
def readProperties : Step Properties := do
  match ← readAnchorToken with
  | some name => return ⟨some name, ← readTagToken⟩
  | none =>
    match ← readTagToken with
    | none => return {}
    | some tag => return ⟨← readAnchorToken, some tag⟩

/-- The name of a tag. -/
def resolveTag : Option (Option String × String) → Step (Option String)
  | none => return none
  | some (none, suffix) => return some suffix
  | some (some handle, suffix) => do
    match (← get).handles.lookup handle with
    | some start => return some (start ++ suffix)
    | none => Step.fail

/-- The tag of a text. A lone exclamation mark asks for the meaning of the text. -/
def scalarTag (tag : Option String) (plain : Bool) (text : String) : Tag :=
  match tag with
  | some "!" => Implicit.tagOf text
  | some name => Tag.ofName name
  | none => if plain then Implicit.tagOf text else .text

/-- The tag of a collection. -/
def collectionTag (tag : Option String) (default : Tag) : Tag :=
  match tag with
  | none | some "!" => default
  | some name => Tag.ofName name

/-- Nothing, where a value could stand. -/
def emptyNode : Node := .scalar .null ""

/-- Names a node that begins. -/
def openAnchor (name : Option String) : Step Unit := do
  match name with
  | none => pure ()
  | some n =>
    if ((← get).anchors.lookup n).isSome then Step.fail
    else modify fun r => { r with anchors := (n, none) :: r.anchors }

/-- Names a node that is finished. -/
def closeAnchor (name : Option String) (node : Node) : Step Node := do
  match name with
  | none => return node
  | some n =>
    modify fun r => { r with anchors := (n, some node) :: r.anchors }
    return node

/-- The node with a name. Nodes are trees, so one that is named inside itself is taken for
malformed. -/
def aliased (name : String) : Step Node := do
  match (← get).anchors.lookup name with
  | some (some node) => return node
  | _ => Step.fail

mutual

/-- Reads a node. `block` says whether it may be a block, and `loose` whether it may be a sequence
whose items are not indented. The first argument bounds the depth of calls. -/
def readNode (block loose : Bool) : Nat → Step Node
  | 0 => Step.fail
  | fuel + 1 => do
    match ← Step.next with
    | some (.alias name) => Step.drop; aliased name
    | _ =>
      let properties ← readProperties
      let tag ← resolveTag properties.tag
      let _ ← Step.next
      openAnchor properties.anchor
      let node ← readContent block loose properties tag fuel
      closeAnchor properties.anchor node

/-- Reads what stands behind the properties of a node. -/
def readContent (block loose : Bool) (properties : Properties) (tag : Option String) :
    Nat → Step Node
  | 0 => Step.fail
  | fuel + 1 => do
    match ← Step.next with
    | some (.scalar text plain) =>
      Step.drop
      return .scalar (scalarTag tag plain text) text
    | some .flowSequenceStart =>
      Step.drop
      return .sequence (collectionTag tag .sequence) (← readFlowItems true fuel)
    | some .flowMappingStart =>
      Step.drop
      return .mapping (collectionTag tag .mapping) (← readFlowEntries true fuel)
    | some .blockEntry =>
      if loose then return .sequence (collectionTag tag .sequence) (← readLooseItems fuel)
      else readNothing properties tag
    | some .blockSequenceStart =>
      if block then
        Step.drop
        return .sequence (collectionTag tag .sequence) (← readBlockItems fuel)
      else readNothing properties tag
    | some .blockMappingStart =>
      if block then
        Step.drop
        return .mapping (collectionTag tag .mapping) (← readBlockEntries fuel)
      else readNothing properties tag
    | _ => readNothing properties tag

/-- A node of which only the properties are there. -/
def readNothing (properties : Properties) (tag : Option String) : Step Node :=
  if properties.anchor.isSome || properties.tag.isSome then
    return .scalar (scalarTag tag tag.isNone "") ""
  else Step.fail

/-- Reads a node of a block unless one of the given tokens comes next. -/
def readUnless (stops : List Token) (loose : Bool) : Nat → Step Node
  | 0 => Step.fail
  | fuel + 1 => do
    if ← Step.nextIn stops then return emptyNode else readNode true loose fuel

/-- Reads a node inside brackets unless one of the given tokens comes next. -/
def readFlowUnless (stops : List Token) : Nat → Step Node
  | 0 => Step.fail
  | fuel + 1 => do
    if ← Step.nextIn stops then return emptyNode else readNode false false fuel

/-- Reads the items of a block sequence and its end. -/
def readBlockItems : Nat → Step (List Node)
  | 0 => Step.fail
  | fuel + 1 => do
    if ← Step.takeIf .blockEntry then
      let item ← readUnless [.blockEntry, .blockEnd] false fuel
      return item :: (← readBlockItems fuel)
    else
      Step.require .blockEnd
      return []

/-- Reads the items of a sequence that are not indented; nothing marks its end. -/
def readLooseItems : Nat → Step (List Node)
  | 0 => Step.fail
  | fuel + 1 => do
    if ← Step.takeIf .blockEntry then
      let item ← readUnless [.blockEntry, .key, .value, .blockEnd] false fuel
      return item :: (← readLooseItems fuel)
    else return []

/-- Reads the value of an entry of a block mapping, if there is one. -/
def readBlockValue : Nat → Step Node
  | 0 => Step.fail
  | fuel + 1 => do
    if ← Step.takeIf .value then readUnless [.key, .value, .blockEnd] true fuel
    else return emptyNode

/-- Reads the entries of a block mapping and its end. -/
def readBlockEntries : Nat → Step (List (Node × Node))
  | 0 => Step.fail
  | fuel + 1 => do
    if ← Step.takeIf .key then
      let key ← readUnless [.key, .value, .blockEnd] true fuel
      let value ← readBlockValue fuel
      return (key, value) :: (← readBlockEntries fuel)
    else
      Step.require .blockEnd
      return []

/-- Reads the value of an entry inside brackets, if there is one. -/
def readFlowValue (stops : List Token) : Nat → Step Node
  | 0 => Step.fail
  | fuel + 1 => do
    if ← Step.takeIf .value then readFlowUnless stops fuel else return emptyNode

/-- Reads the items of a sequence in brackets and the closing bracket. Items behind the first stand
behind commas. -/
def readFlowItems (first : Bool) : Nat → Step (List Node)
  | 0 => Step.fail
  | fuel + 1 => do
    if ← Step.takeIf .flowSequenceEnd then return []
    if !first then Step.require .flowEntry
    if ← Step.takeIf .key then
      let key ← readFlowUnless [.value, .flowEntry, .flowSequenceEnd] fuel
      let value ← readFlowValue [.flowEntry, .flowSequenceEnd] fuel
      return .mapping .mapping [(key, value)] :: (← readFlowItems false fuel)
    else if ← Step.takeIf .flowSequenceEnd then return []
    else
      let item ← readNode false false fuel
      return item :: (← readFlowItems false fuel)

/-- Reads the entries of a mapping in brackets and the closing bracket. -/
def readFlowEntries (first : Bool) : Nat → Step (List (Node × Node))
  | 0 => Step.fail
  | fuel + 1 => do
    if ← Step.takeIf .flowMappingEnd then return []
    if !first then Step.require .flowEntry
    if ← Step.takeIf .key then
      let key ← readFlowUnless [.value, .flowEntry, .flowMappingEnd] fuel
      let value ← readFlowValue [.flowEntry, .flowMappingEnd] fuel
      return (key, value) :: (← readFlowEntries false fuel)
    else if ← Step.takeIf .flowMappingEnd then return []
    else
      let key ← readNode false false fuel
      return (key, emptyNode) :: (← readFlowEntries false fuel)

end

/-- What a directive adds to the handles. -/
def addHandle (known : Bool × List (String × String)) (d : Directive) :
    Except Fault (Bool × List (String × String)) :=
  match d with
  | .version major _ =>
    if known.1 || major != 1 then .error .malformed else .ok (true, known.2)
  | .handle name start =>
    if (known.2.lookup name).isSome then .error .malformed
    else .ok (known.1, (name, start) :: known.2)
  | .unknown => .ok known

/-- The directives at the front of tokens. -/
def leadingDirectives : List Token → List Directive
  | .directive d :: more => d :: leadingDirectives more
  | _ => []

/-- The handles that are known everywhere. -/
def usualHandles : List (String × String) := [("!", "!"), ("!!", Tag.start)]

/-- Reads the directives in front of a document, and the mark that has to follow. -/
def readDocumentHead : Step Unit := do
  modify fun r => { r with tokens := r.tokens.dropWhile (· == .documentEnd) }
  let directives := leadingDirectives (← get).tokens
  let known ← directives.foldlM (fun known d => addHandle known d) (false, [])
  modify fun r => { r with
    tokens := r.tokens.drop directives.length
    handles := known.2 ++ usualHandles }
  Step.require .documentStart

/-- Holds of a token that a document behind its mark does not start with. -/
def endsDocument : Option Token → Bool
  | none | some .documentStart | some .documentEnd | some (.directive _) => true
  | _ => false

/-- Reads a document with its mark. -/
def readMarkedDocument (fuel : Nat) : Step Node := do
  readDocumentHead
  if endsDocument (← Step.next) then return emptyNode else readNode true false fuel

/-- Reads the only document of a text; `none` when there is none. -/
def readDocument (fuel : Nat) : Step (Option Node) := do
  match ← Step.next with
  | none => return none
  | some (.directive _) | some .documentStart => return some (← readMarkedDocument fuel)
  | _ =>
    modify fun r => { r with handles := usualHandles }
    return some (← readNode true false fuel)

/-- Holds of a directive. -/
def isDirective : Token → Bool
  | .directive _ => true
  | _ => false

/-- Requires that nothing but an end of a document follows. -/
def requireEnd : Step Unit := do
  modify fun r => { r with tokens := r.tokens.dropWhile (· == .documentEnd) }
  match ← Step.next with
  | none => return
  | some _ =>
    modify fun r => { r with tokens := r.tokens.dropWhile isDirective }
    let _ ← Step.next
    Step.fail

/-- The tree of a text; `none` for a text without a value. -/
def tree (text : List Char) : Except Fault (Option Node) :=
  let tokens := tokens text
  let read : Step (Option Node) := do
    let node ← readDocument (8 * tokens.list.length + 8)
    requireEnd
    return node
  read.run' { tokens := tokens.list, stop := tokens.stop }

end DocExamples.Yaml
