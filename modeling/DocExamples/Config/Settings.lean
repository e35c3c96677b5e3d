import DocExamples.Config.Build

/-!
From the text of a settings file to settings.

The text is read by a library for the settings language. Two tags belong to this program: one for a
script expression, and one for the file of a module. The library asks for their values, and what
goes wrong with one of them leaves it as it is.
-/

namespace DocExamples.Config

/-- The tags of this program. -/
inductive OwnTag where
  /-- A script expression. -/
  | script
  /-- The file of a module. -/
  | moduleFile
  deriving DecidableEq, Repr

/-- Why a text has no value. -/
inductive TextFault where
  /-- It is not written in the settings language; the words are those of the library. -/
  | malformed (words : String)
  /-- The library fails, and says nothing of the language. -/
  | failed (f : Failure)
  /-- A value with a tag of this program cannot be made. -/
  | own (e : LoadError)
  deriving DecidableEq, Repr

/-- A library for the settings language: the value of a text, given how the values with tags of this
program are made of their texts. A value that holds itself is given as what it unfolds to, deeper
than anything that can be rendered. -/
structure YamlLibrary where
  load : (OwnTag → String → Except LoadError Data) → String → Except TextFault Data

/-- Makes a value with a tag of this program, given how the files of modules are read. -/
def make (readModule : String → Except LoadError String) : OwnTag → String → Except LoadError Data
  | .script, text => .ok (.script text)
  | .moduleFile, name => (readModule name).map .script

/-- How a text without a value is reported; the file is known by its name. -/
def textFaultError (file : String) : TextFault → LoadError
  | .malformed words => .config (.unparsable file words)
  | .failed f => .unhandled f
  | .own e => e

/-- The settings that a value stands for. -/
def settingsOf (file : String) : Data → Except LoadError Settings
  | .null => .ok []
  | .map entries => .ok (entries.filterMap fun e => match e.1 with
      | .text name => some (name, e.2)
      | _ => none)
  | _ => .error (.config (.notMappingAtRoot file))

/-- The settings in the text of a file. -/
def readText (yaml : YamlLibrary) (file : String) (readModule : String → Except LoadError String)
    (text : String) : Except LoadError Settings :=
  if Text.isAllBlank text.toList then .ok []
  else
    match yaml.load (make readModule) text with
    | .error fault => .error (textFaultError file fault)
    | .ok value => settingsOf file value

end DocExamples.Config
