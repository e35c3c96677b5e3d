import DocExamples.Command.Switch
import DocExamples.Text.Digit
import DocExamples.Text.Quoted

/-!
Reading a command line.

Every word is classified first, before anything is done: as a switch, as an argument, or as the two
dashes behind which all words are arguments. A switch may be written by the start of its long name
where that fits one name only, with its value behind an equals sign, and several short ones in one
word, where an equals sign may stand in front of the second. The command takes one run of arguments; further runs are left over.
-/

namespace DocExamples.Command

/-- Why a command line gives no options. -/
inductive Stop where
  /-- The help text is asked for. -/
  | help
  | ambiguous (word : String) (names : List String)
  /-- A value stands behind a switch that takes none. -/
  | ignoredValue (switch value : String)
  | missingValue (switch : String)
  | badValue (switch kind value : String)
  | unrecognized (words : List String)
  deriving DecidableEq, Repr

/-- The words for a command line that cannot be read. -/
def Stop.message : Stop → String
  | help => ""
  | ambiguous word names =>
    "ambiguous option: " ++ word ++ " could match " ++ ", ".intercalate names
  | ignoredValue switch value =>
    "argument " ++ switch ++ ": ignored explicit argument " ++ Text.quotedString value
  | missingValue switch => "argument " ++ switch ++ ": expected one argument"
  | badValue switch kind value =>
    "argument " ++ switch ++ ": invalid " ++ kind ++ " value: " ++ Text.quotedString value
  | unrecognized words => "unrecognized arguments: " ++ " ".intercalate words

/-- What a word is. -/
inductive Kind (σ : Type) where
  | argument
  /-- The two dashes. -/
  | dashes
  /-- A word that looks like a switch and is none. -/
  | unknown
  /-- A switch, by the name that was meant; `attached` is the text in the same word. -/
  | switch (s : Switch σ) (name : String) (attached : Option String)

namespace Grammar

variable {σ : Type}

/-- A word at its first equals sign. -/
def splitEquals (word : String) : String × Option String :=
  match word.toList.span (· ≠ '=') with
  | (_, []) => (word, none)
  | (before, _ :: value) => (String.ofList before, some (String.ofList value))

/-- Holds when a text starts with another. -/
def startsWith (text start : String) : Bool := start.toList.isPrefixOf text.toList

/-- Holds of a word of two dashes and more. -/
def isLong (word : String) : Bool := startsWith word "--"

/-- What a word that is no full name could mean. -/
def candidates (g : Grammar σ) (word : String) :
    List (Switch σ × String × Option String) :=
  if isLong word then
    let (start, value) := splitEquals word
    (g.names.filter fun n => startsWith n.1 start).map fun n => (n.2, n.1, value)
  else
    let short := String.ofList (word.toList.take 2)
    g.names.filterMap fun n =>
      if n.1 = short then some (n.2, n.1, some (String.ofList (word.toList.drop 2)))
      else if startsWith n.1 word then some (n.2, n.1, none)
      else none

/-- Holds of a number below zero: digits, or digits with a point among them. -/
def isNegativeNumber (word : String) : Bool :=
  let body := match word.toList.reverse with
    | '\n' :: rest => rest.reverse
    | _ => word.toList
  match body with
  | '-' :: rest =>
    match rest.span Text.isDigit with
    | (whole, []) => !whole.isEmpty
    | (_, '.' :: fraction) => !fraction.isEmpty && fraction.all Text.isDigit
    | _ => false
  | _ => false

/-- What a word is that starts with a dash and is no full name. -/
def classifyPart (g : Grammar σ) (word : String) : Except Stop (Kind σ) :=
  match g.candidates word with
  | [(s, name, attached)] => .ok (.switch s name attached)
  | [] =>
    if isNegativeNumber word || word.toList.contains ' ' then .ok .argument else .ok .unknown
  | several => .error (.ambiguous word (several.map fun c => c.2.1))

/-- What a word is. -/
def classify (g : Grammar σ) (word : String) : Except Stop (Kind σ) :=
  if !startsWith word "-" then .ok .argument
  else
    match g.switch? word with
    | some s => .ok (.switch s word none)
    | none =>
      if word = "-" then .ok .argument
      else
        let (name, value) := splitEquals word
        match value, g.switch? name with
        | some v, some s => .ok (.switch s name (some v))
        | _, _ => g.classifyPart word

/-- Classifies words up to the two dashes. -/
def classifyAll (g : Grammar σ) : List String → Except Stop (List (String × Kind σ))
  | [] => .ok []
  | word :: more =>
    if word = "--" then .ok ((word, .dashes) :: more.map fun w => (w, .argument))
    else
      match g.classify word with
      | .error stop => .error stop
      | .ok kind => (g.classifyAll more).map ((word, kind) :: ·)

/-- A word with several short switches: those that stand alone, then the one that may take a value,
with the text of the value in the same word. -/
structure Cluster (σ : Type) where
  alone : List (Switch σ)
  last : Switch σ
  value : Option String

/-- Reads the rest of a word behind a switch. -/
def clusterFrom (g : Grammar σ) (s : Switch σ) (name : String) :
    Option (List Char) → Except Stop (Cluster σ)
  | none => .ok ⟨[], s, none⟩
  | some [] =>
    if (s.placeholder?).isSome then .ok ⟨[], s, some ""⟩ else .error (.ignoredValue s.title "")
  | some (letter :: more) =>
    let text := String.ofList (letter :: more)
    if (s.placeholder?).isSome then .ok ⟨[], s, some text⟩
    else
      let next := String.ofList ['-', letter]
      match if isLong name then none else g.switch? next with
      | none => .error (.ignoredValue s.title text)
      | some t =>
        let cluster := match more with
          | [] => g.clusterFrom t next none
          | c :: rest => g.clusterFrom t next (some (c :: rest))
        cluster.map fun c => { c with alone := s :: c.alone }
termination_by attached => (attached.map List.length).getD 0

/-- The switches that a word stands for. -/
def cluster (g : Grammar σ) (s : Switch σ) (name : String) (attached : Option String) :
    Except Stop (Cluster σ) :=
  g.clusterFrom s name (attached.map String.toList)

/-- Does what a switch without a value does. -/
def applyAlone (s : Switch σ) (options : σ) : Except Stop σ :=
  match s.effect with
  | .help => .error .help
  | .set change => .ok (change options)
  | .take .. => .error (.missingValue s.title)

/-- Does what a switch with a value does. -/
def applyValue (s : Switch σ) (value : String) (options : σ) : Except Stop σ :=
  match s.effect with
  | .take _ kind change =>
    match change (.ofText value) with
    | some f => .ok (f options)
    | none => .error (.badValue s.title kind value)
  | _ => .error (.ignoredValue s.title value)

/-- Does what switches without values do, in order. -/
def applyAll (options : σ) : List (Switch σ) → Except Stop σ
  | [] => .ok options
  | s :: more =>
    match applyAlone s options with
    | .error stop => .error stop
    | .ok options => applyAll options more

/-- Holds of a switch that takes a value. -/
def takesValue (s : Switch σ) : Bool := s.placeholder?.isSome

/-- Takes a word of switches: the new options, and whether the next word was its value. -/
def applyCluster (c : Cluster σ) (next : Option (String × Kind σ)) (options : σ) :
    Except Stop (σ × Bool) :=
  match c.value with
  | some value =>
    match applyAll options c.alone with
    | .error stop => .error stop
    | .ok options => (applyValue c.last value options).map (·, false)
  | none =>
    if takesValue c.last then
      match next with
      | some (value, .argument) =>
        match applyAll options c.alone with
        | .error stop => .error stop
        | .ok options => (applyValue c.last value options).map (·, true)
      | _ => .error (.missingValue c.last.title)
    else (applyAll options (c.alone ++ [c.last])).map (·, false)

/-- Holds of words that a run of arguments is made of. -/
def isRunWord : String × Kind σ → Bool
  | (_, .argument) | (_, .dashes) => true
  | _ => false

/-- What has been read of a command line. -/
structure Progress (σ : Type) where
  options : σ
  /-- Whether the run of arguments has been taken. -/
  taken : Bool := false
  /-- The words that are left over. -/
  left : List String := []

/-- Takes a run of arguments. The first two dashes in it do not count. -/
def takeRun (g : Grammar σ) (words : List String) (p : Progress σ) : Progress σ :=
  match g.rest with
  | some rest =>
    if p.taken then { p with left := p.left ++ words }
    else { p with options := rest.change (words.erase "--") p.options, taken := true }
  | none => { p with left := p.left ++ words }

/-- Reads classified words. The number of words bounds the steps. -/
def readFrom (g : Grammar σ) (fuel : Nat) (p : Progress σ) :
    List (String × Kind σ) → Except Stop (Progress σ)
  | [] => .ok p
  | (word, kind) :: more =>
    match fuel with
    | 0 => .ok p
    | fuel + 1 =>
      match kind with
      | .unknown => g.readFrom fuel { p with left := p.left ++ [word] } more
      | .switch s name attached =>
        match g.cluster s name attached with
        | .error stop => .error stop
        | .ok c =>
          match applyCluster c more.head? p.options with
          | .error stop => .error stop
          | .ok (options, usedNext) =>
            let p := { p with options := options }
            g.readFrom fuel p (if usedNext then more.drop 1 else more)
      | _ =>
        let run := (word, kind) :: more.takeWhile isRunWord
        g.readFrom fuel (g.takeRun (run.map (·.1)) p) (more.dropWhile isRunWord)

/-- Reads a command line into options that start from the usual ones. -/
def read (g : Grammar σ) (usual : σ) (words : List String) : Except Stop σ :=
  match g.classifyAll words with
  | .error stop => .error stop
  | .ok classified =>
    match g.readFrom words.length { options := usual } classified with
    | .error stop => .error stop
    | .ok p => if p.left.isEmpty then .ok p.options else .error (.unrecognized p.left)

end Grammar

end DocExamples.Command
