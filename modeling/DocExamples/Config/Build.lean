import DocExamples.Config.Error
import DocExamples.Config.Finished
import DocExamples.Data.Display
import DocExamples.Data.Key
import DocExamples.Log.Record
import DocExamples.Pattern.Reader
import DocExamples.Sandbox.Host

/-!
From settings to a configuration.

Settings are host values under names; names that mean nothing are passed over. The parts are
checked in a fixed order and the first that is wrong is reported: variables and modules, makers of
modules, the hook, compiling. A finished configuration among the settings wins over all others;
of it only the variables, the modules and the hook are checked.

Names are the words for keys, so a number with too many digits has none and is a failure.
-/

namespace DocExamples.Config

/-- Settings by name. -/
abbrev Settings := List (String × Data)

/-- A setting; one that is missing counts as null. -/
def setting (settings : Settings) (name : String) : Data := (settings.lookup name).getD .null

/-- Sets a named value: a known name keeps its place. -/
def setNamed (name : String) (value : Data) : List (String × Data) → List (String × Data)
  | [] => [(name, value)]
  | (n, v) :: more => if n = name then (n, value) :: more else (n, v) :: setNamed name value more

/-- A number with too many digits, which no part of the settings accounts for. -/
def tooLong (t : Number.TooLong) : LoadError := .unhandled t.failure

/-- The entries of a mapping by the words for their keys. -/
def namedEntries (entries : List (Data × Data)) : Except LoadError (List (String × Data)) :=
  entries.foldlM (fun known (key, value) =>
    (key.name.mapError tooLong).map fun name => setNamed name value known) []

/-- Reads a part that has to be a mapping; null counts as an empty one. -/
def readMapping (part : Section) : Data → Except LoadError (List (String × Data))
  | .null => .ok []
  | .map entries => namedEntries entries
  | _ => .error (.config (.notMapping part))

/-- Requires that the sandbox can receive every value. -/
def checkValues (part : Section) : List (Data × Data) → Except LoadError Unit
  | [] => .ok ()
  | (key, value) :: more =>
    match value.toScript with
    | .error (.unsupported typeName) =>
      match key.name with
      | .error t => .error (tooLong t)
      | .ok name => .error (.config (.unsupported part name typeName))
    | .error refusal => .error (.unhandled refusal.failure)
    | .ok _ => checkValues part more

/-- Named values as the entries of a mapping. -/
def entriesOf (named : List (String × Data)) : List (Data × Data) :=
  named.map fun (name, value) => (.text name, value)

/-- Holds of a value that the sandbox can receive. -/
def isRenderable (d : Data) : Bool :=
  match d.toScript with
  | .ok _ => true
  | .error _ => false

/-- The warning for a variable with the name of a helper. -/
def shadowWarning (name : String) : Log.Record :=
  Log.record .warning "config"
    ("Global " ++ Text.quotedString name ++ " shadows a helper the sandbox provides")

/-- The warnings for variables, which are given until one is found that cannot be received. -/
def shadowWarnings (globals : List (Data × Data)) : List Log.Record :=
  (globals.takeWhile fun g => isRenderable g.2).filterMap fun
    | (.text name, _) =>
      if Sandbox.reservedNames.contains name then some (shadowWarning name) else none
    | _ => none

/-- Reads a maker of modules. -/
def readHandler (pattern : String) : Data → Except ConfigError Handler
  | .script source => .ok (.template source)
  | .text source => .ok (.template source)
  | .callable name call => .ok (.value (.callable name call))
  | _ => .error (.badHandler pattern)

/-- How a pattern that cannot be read is reported. A count that is too large and options that
contradict each other are no flaws of the text. -/
def patternError (pattern : String) : Pattern.Fault → LoadError
  | .flaw what position => .config (.badPattern pattern (.flaw what position))
  | fault => .unhandled (fault.failure pattern)

/-- Reads the makers of modules in order. -/
def readHandlers : List (String × Data) → Except LoadError (List (String × Handler))
  | [] => .ok []
  | (pattern, value) :: more =>
    match Pattern.read pattern.toList with
    | .error fault => .error (patternError pattern fault)
    | .ok _ =>
      match readHandler pattern value with
      | .error e => .error (.config e)
      | .ok handler => (readHandlers more).map ((pattern, handler) :: ·)

/-- What an action that fails leaves behind. -/
def actionFailure (call : Nat → List (Option String) → Except Failure Data) (earlier : Nat) :
    Option Failure :=
  match call earlier [] with
  | .ok _ => none
  | .error f => some f

/-- Reads the hook. -/
def readHook : Data → Except LoadError (Option Hook)
  | .null => .ok none
  | .script source => .ok (some (.script source))
  | .text source => .ok (some (.script source))
  | .callable _ call => .ok (some (.action (actionFailure call)))
  | _ => .error (.config .badHook)

/-- Holds of the items that a list of names takes over. -/
def isNameItem : Data → Bool
  | .text _ | .int _ | .float _ | .bool _ => true
  | _ => false

/-- The names among the items of a sequence. -/
def namesOf (items : List Data) : Except LoadError (List String) :=
  (items.filter isNameItem).mapM fun item => item.name.mapError tooLong

/-- Reads a list of names; what is no list is an empty one. -/
def readNames : Data → Except LoadError (List String)
  | .text s => .ok [s]
  | .list items | .tuple items | .foreign _ _ _ items => namesOf items
  | _ => .ok []

/-- A list of names, or another one where it is empty. -/
def orElse (names default : List String) : List String := if names.isEmpty then default else names

/-- The presets that are named, or the usual ones. -/
def readPresets (d : Data) : Except LoadError Data := do
  let names ← readNames d
  return if names.isEmpty then ({} : Transpile).presets else .list (names.map .text)

/-- Reads whether and how snippets are compiled. -/
def readTranspile : Data → Except LoadError Transpile
  | .null => .ok {}
  | .transpile enabled presets => .ok ⟨enabled, presets⟩
  | .bool enabled => .ok { enabled := .bool enabled }
  | .map entries =>
    match (Data.entry? "enabled" entries).getD (.bool true) with
    | .bool enabled =>
      (readPresets ((Data.entry? "presets" entries).getD .null)).map fun presets =>
        ⟨.bool enabled, presets⟩
    | _ => .error (.config .badEnabled)
  | _ => .error (.config .badTranspile)

/-- A configuration: one from parts, or one that came as a whole. -/
inductive Built where
  | ofParts (c : Config)
  | finished (f : FinishedConfig)

/-- The configuration that a run uses. -/
def Built.toConfig : Built → Except Failure Config
  | ofParts c => .ok c
  | finished f => f.toConfig

/-- A field of a finished configuration, or its usual value. -/
def field (fields : Settings) (name : String) (usual : Data) : Data :=
  (fields.lookup name).getD usual

/-- The entries of a field of a finished configuration. -/
def fieldEntries (fields : Settings) (name : String) : Except LoadError (List (Data × Data)) :=
  (FinishedConfig.entriesOf (field fields name (.map []))).mapError .unhandled

/-- A finished configuration, with its own directory. -/
def ofFinished (fields : Settings) (root : String) : Except LoadError FinishedConfig := do
  let globals ← fieldEntries fields "globals"
  checkValues .globals globals
  let require ← fieldEntries fields "require"
  checkValues .require require
  let hook ← readHook (setting fields "before_each")
  let usual : FinishedConfig := { root := root }
  return {
    root := root
    globals := globals
    require := require
    regexRequire := field fields "regex_require" usual.regexRequire
    beforeEach := hook
    transpile := field fields "transpile" usual.transpile
    includes := field fields "include" usual.includes
    excludes := field fields "exclude" usual.excludes }

/-- A configuration from its parts. -/
def ofParts (settings : Settings) (root : String) : Except LoadError Config := do
  let globals ← readMapping .globals (setting settings "globals")
  let require ← readMapping .require (setting settings "require")
  checkValues .globals (entriesOf globals)
  checkValues .require (entriesOf require)
  let handlers ← readMapping .regexRequire (setting settings "regex_require")
  let regexRequire ← readHandlers handlers
  let hook ← readHook (setting settings "before_each")
  let includes ← readNames (setting settings "include")
  let transpile ← readTranspile (setting settings "transpile")
  let excludes ← readNames (setting settings "exclude")
  return {
    root := root
    globals := entriesOf globals
    require := require
    regexRequire := regexRequire
    beforeEach := hook
    transpile := transpile
    includes := orElse includes defaultInclude
    excludes := excludes }

/-- The variables that are checked for the names of helpers. -/
def checkedGlobals (settings : Settings) : List (Data × Data) :=
  match setting settings "config" with
  | .settings fields => ((fieldEntries fields "globals").toOption).getD []
  | _ =>
    match readMapping .globals (setting settings "globals"),
      readMapping .require (setting settings "require") with
    | .ok globals, .ok _ => entriesOf globals
    | _, _ => []

/-- A configuration from settings, and the warnings about it. -/
def build (settings : Settings) (root : String) : List Log.Record × Except LoadError Built :=
  (shadowWarnings (checkedGlobals settings),
    match setting settings "config" with
    | .settings fields => (ofFinished fields root).map .finished
    | _ => (ofParts settings root).map .ofParts)

end DocExamples.Config
