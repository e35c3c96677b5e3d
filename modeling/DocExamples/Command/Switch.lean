/-!
Switches of a command: their names, what they take, and what they do to the options.
-/

namespace DocExamples.Command

/-- What was given for a switch. -/
inductive Given (α : Type) where
  | value (a : α)
  /-- Two dashes stood in place of a value. -/
  | nothing
  deriving DecidableEq, Repr

namespace Given

/-- The text that was given in the word of its switch. -/
def ofText (text : String) : Given String := if text = "--" then nothing else value text

/-- Reads what was given; nothing needs no reading. -/
def read {α β : Type} (f : α → Option β) : Given α → Option (Given β)
  | value a => (f a).map value
  | nothing => some nothing

end Given

/-- What a switch does. -/
inductive Effect (σ : Type) where
  /-- Asks for the help text. -/
  | help
  /-- Stands alone. -/
  | set (change : σ → σ)
  /-- Takes one value, shown in usage texts by a placeholder. `kind` names what the value has to
  be, for values that are not taken. -/
  | take (placeholder kind : String) (change : Given String → Option (σ → σ))

/-- A switch of a command. -/
structure Switch (σ : Type) where
  /-- Its names, the short one first. -/
  names : List String
  effect : Effect σ
  /-- What the help text says about it. -/
  help : String

/-- What a command takes apart from switches. -/
structure Rest (σ : Type) where
  name : String
  help : String
  change : List String → σ → σ

/-- A command. -/
structure Grammar (σ : Type) where
  program : String
  description : String
  switches : List (Switch σ)
  rest : Option (Rest σ) := none
  /-- What the help text ends with. -/
  epilog : Option String := none

namespace Switch

variable {σ : Type}

/-- The placeholder of a switch that takes a value. -/
def placeholder? (s : Switch σ) : Option String :=
  match s.effect with
  | .take placeholder _ _ => some placeholder
  | _ => none

/-- A name with the placeholder behind it. -/
def withPlaceholder (s : Switch σ) (name : String) : String :=
  match s.placeholder? with
  | none => name
  | some p => name ++ " " ++ p

/-- How a switch is called in messages. -/
def title (s : Switch σ) : String := "/".intercalate s.names

end Switch

namespace Grammar

variable {σ : Type}

/-- All names of switches in order, each with its switch. -/
def names (g : Grammar σ) : List (String × Switch σ) :=
  g.switches.flatMap fun s => s.names.map fun n => (n, s)

/-- The switch with a given name. -/
def switch? (g : Grammar σ) (name : String) : Option (Switch σ) := g.names.lookup name

end Grammar

end DocExamples.Command
