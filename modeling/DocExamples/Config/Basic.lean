import DocExamples.Data.Display
import DocExamples.Sandbox.Template

/-!
The configuration of a run: what every snippet finds in its sandbox, what runs before it, whether
it is compiled, and which documents are looked for.
-/

namespace DocExamples

/-- What makes the module for a name that a pattern matches. -/
inductive Handler where
  /-- A template of an expression. -/
  | template (source : String)
  /-- A value, which makes a module if it can be called. -/
  | value (d : Data)
  deriving Inhabited

namespace Handler

/-- Holds of a handler that can make modules. -/
def isUsable : Handler → Bool
  | template _ => true
  | value (.callable ..) => true
  | value _ => false

/-- Makes a module from the text that matched and the groups of the match. -/
def make (h : Handler) (groups : List (Option String)) : Except Failure Data :=
  match h with
  | template source =>
    match Template.fill source.toList groups with
    | .ok text => .ok (.script (String.ofList text))
    | .error fault => .error (fault.failure source.toList)
  | value (.callable _ call) => call 0 groups
  | value d => .error ⟨"TypeError", "'" ++ d.typeName ++ "' object is not callable"⟩

end Handler

/-- What runs before each snippet. -/
inductive Hook where
  /-- A function, called in the sandbox of the snippet. -/
  | script (source : String)
  /-- An action outside the sandbox; it may depend on how often it ran before. -/
  | action (run : Nat → Option Failure)

/-- The names of the presets that snippets are compiled with. -/
def Transpile.presetNames (t : Transpile) : List String :=
  match t.presets with
  | .list items | .tuple items => items.map fun d => String.ofList d.display
  | .text s => s.toList.map fun c => String.ofList [c]
  | _ => []

/-- The names under which documents are looked for unless a configuration says otherwise. -/
def defaultInclude : List String := ["*.md", "*.markdown"]

/-- The configuration of a run. -/
structure Config where
  /-- The directory the configuration belongs to. -/
  root : String
  /-- Variables of every sandbox, by their keys. -/
  globals : List (Data × Data) := []
  /-- Modules by name. -/
  require : List (String × Data) := []
  /-- Makers of modules by pattern, in the order in which they are tried. -/
  regexRequire : List (String × Handler) := []
  beforeEach : Option Hook := none
  transpile : Transpile := {}
  includes : List String := defaultInclude
  excludes : List String := []

end DocExamples
