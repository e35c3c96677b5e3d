import DocExamples.Config.Basic
import DocExamples.Data.Script
import DocExamples.Pattern.Fault

/-!
Why there is no configuration.
-/

namespace DocExamples

/-- A part of the settings. -/
inductive Section where
  | globals
  | require
  | regexRequire
  deriving DecidableEq, Repr

/-- The name of a part of the settings. -/
def Section.name : Section → String
  | globals => "globals"
  | require => "require"
  | regexRequire => "regex_require"

/-- Something wrong with a configuration. -/
inductive ConfigError where
  /-- A path at which there is nothing. -/
  | notFound (path : String)
  /-- A file that is not written in the settings language, in the words of the library for it. -/
  | unparsable (file words : String)
  | notMappingAtRoot (file : String)
  /-- A setup module that fails while it is loaded. -/
  | importFailed (file message : String)
  /-- A module file that cannot be read. -/
  | unreadableModule (path message : String)
  | notMapping (part : Section)
  | unsupported (part : Section) (name : String) (typeName : String)
  | badPattern (pattern : String) (fault : Pattern.Fault)
  | badHandler (pattern : String)
  | badHook
  | badTranspile
  | badEnabled
  deriving DecidableEq, Repr

/-- The words for a wrong configuration. -/
def ConfigError.message : ConfigError → String
  | notFound path => "Configuration file not found: " ++ path
  | unparsable file words => "Failed to parse " ++ file ++ ": " ++ words
  | notMappingAtRoot file => file ++ " must contain a mapping at the root"
  | importFailed file message => "Failed to import " ++ file ++ ": " ++ message
  | unreadableModule path message => "Cannot read module file " ++ path ++ ": " ++ message
  | notMapping part => part.name ++ " must be a mapping"
  | unsupported part name typeName =>
    part.name ++ "." ++ name ++ ": " ++ (Data.Refusal.unsupported typeName).failure.message
  | badPattern pattern fault =>
    "Invalid regex_require pattern " ++ Text.quotedString pattern ++ ": " ++
      String.ofList (fault.message pattern.toList)
  | badHandler pattern =>
    "regex_require[" ++ Text.quotedString pattern ++
      "] must be a JS expression template or a callable"
  | badHook =>
    "before_each must be a JavaScript function (source text or !js) or a Python callable"
  | badTranspile => "transpile must be a boolean or a mapping"
  | badEnabled => "transpile.enabled must be a boolean"

/-- Why a configuration cannot be loaded: something wrong with it that is reported as such, or a
failure that nothing in the loading of configurations handles. -/
inductive LoadError where
  | config (e : ConfigError)
  | unhandled (f : Failure)
  deriving DecidableEq, Repr

end DocExamples
