import DocExamples.Config.Basic
import DocExamples.Json.Literal
import DocExamples.Pattern.Matcher
import DocExamples.Pattern.Reader

/-!
Finding the module for a name.

Patterns come first, in the order in which they are declared; the first that matches anywhere in
the name decides, and what its maker gives or how it fails is the answer. Only a name that no
pattern matches is looked up among the named modules.
-/

namespace DocExamples

/-- What makes a module from the text that matched and the groups of the match. -/
abbrev Maker := List (Option String) → Except Failure Data

/-- Where modules come from. -/
structure Resolver where
  patterns : List (Pattern × Maker) := []
  named : List (String × Data) := []

/-- Why a name has no module. -/
inductive ResolveError where
  | notFound (name : String)
  | failed (f : Failure)
  deriving DecidableEq, Repr

namespace Resolver

/-- The kind of the failure to find a module. A maker can fail in that way itself. -/
def notFoundKind : String := "ModuleResolutionError"

/-- The words for a name that no module has. -/
def notFoundMessage (name : String) : String :=
  "Attempted to require '" ++ name ++ "' but it was not found in config.\n" ++
    "You need to include it in the require section of your .mddoctest.yml file.\n" ++
    "\n" ++
    "For example:\n" ++
    "# .mddoctest.yml\n" ++
    "require:\n" ++
    "  " ++ String.ofList (Json.quoteAscii name.toList) ++ ": !js-file ./path/to/module.js\n"

/-- What a maker is given: the text that matched, then the groups. -/
def arguments (found : Pattern.Found) : List (Option String) :=
  some (String.ofList found.whole) :: found.groups.map fun g => g.map String.ofList

/-- The answer of the first pattern that matches a name. -/
def byPattern? (name : String) : List (Pattern × Maker) → Option (Except Failure Data)
  | [] => none
  | (pattern, make) :: more =>
    match pattern.search name.toList with
    | some found => some (make (arguments found))
    | none => byPattern? name more

/-- The module for a name. -/
def resolve (r : Resolver) (name : String) : Except ResolveError Data :=
  match byPattern? name r.patterns with
  | some (.ok module_) => .ok module_
  | some (.error f) => .error (.failed f)
  | none =>
    match r.named.lookup name with
    | some module_ => .ok module_
    | none => .error (.notFound name)

/-- Reads the patterns of a configuration; the first that cannot be read is the fault. -/
def readPatterns : List (String × Handler) →
    Except (String × Pattern.Fault) (List (Pattern × Maker))
  | [] => .ok []
  | (text, handler) :: more =>
    match Pattern.read text.toList with
    | .error fault => .error (text, fault)
    | .ok pattern => (readPatterns more).map ((pattern, handler.make) :: ·)

/-- The resolver of a configuration. -/
def ofConfig (c : Config) : Except (String × Pattern.Fault) Resolver :=
  (readPatterns c.regexRequire).map fun patterns => ⟨patterns, c.require⟩

end Resolver

end DocExamples
