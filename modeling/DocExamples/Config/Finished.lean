import DocExamples.Config.Basic
import DocExamples.Data.Display

/-!
Finished configurations: configurations that come as a whole and whose fields are taken as they
are. Only their variables, their modules and their hook are looked at before a run; what else is
wrong with one shows when it is used.
-/

namespace DocExamples

/-- A configuration that came as a whole. -/
structure FinishedConfig where
  /-- The directory the configuration belongs to. -/
  root : String
  globals : List (Data × Data) := []
  require : List (Data × Data) := []
  regexRequire : Data := .map []
  beforeEach : Option Hook := none
  transpile : Data := .transpile ({} : Transpile).enabled ({} : Transpile).presets
  includes : Data := .list (defaultInclude.map .text)
  excludes : Data := .list []

namespace FinishedConfig

/-- The failure for a value without an attribute. -/
def withoutAttribute (d : Data) (name : String) : Failure :=
  ⟨"AttributeError", "'" ++ d.typeName ++ "' object has no attribute '" ++ name ++ "'"⟩

/-- The entries of a field that has to be a mapping. -/
def entriesOf : Data → Except Failure (List (Data × Data))
  | .map entries => .ok entries
  | d => .error (withoutAttribute d "items")

/-- The modules that have a text for a name. -/
def namedModules (f : FinishedConfig) : List (String × Data) :=
  f.require.filterMap fun
    | (.text name, value) => some (name, value)
    | _ => none

/-- The makers of modules, with their patterns. -/
def handlers (f : FinishedConfig) : Except Failure (List (String × Handler)) :=
  if f.regexRequire.isTrue then do
    (← entriesOf f.regexRequire).mapM fun
      | (.text pattern, value) => .ok (pattern, .value value)
      | _ => .error ⟨"TypeError", "first argument must be string or compiled pattern"⟩
  else .ok []

/-- The names in a field. -/
def namesOf : Data → List String
  | .text s => s.toList.map fun c => String.ofList [c]
  | .list items | .tuple items => items.map fun d => String.ofList d.display
  | .map entries => entries.map fun e => String.ofList e.1.display
  | _ => []

/-- What is shown of whether and how snippets are compiled. -/
def shownTranspile (f : FinishedConfig) : Except Failure Data :=
  match f.transpile with
  | .transpile enabled presets =>
    .ok (.map [(.text "enabled", enabled), (.text "presets", presets)])
  | .script source => .ok (.map [(.text "source", .text source)])
  | _ => .error ⟨"TypeError", "asdict() should be called on dataclass instances"⟩

/-- The configuration that a run uses. -/
def toConfig (f : FinishedConfig) : Except Failure Config := do
  return {
    root := f.root
    globals := f.globals
    require := f.namedModules
    regexRequire := ← f.handlers
    beforeEach := f.beforeEach
    transpile := match f.transpile with
      | .transpile enabled presets => ⟨enabled, presets⟩
      | _ => {}
    includes := namesOf f.includes
    excludes := namesOf f.excludes }

end FinishedConfig

end DocExamples
