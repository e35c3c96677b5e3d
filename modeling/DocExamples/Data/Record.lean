import DocExamples.Data.Basic

/-!
Parts of a configuration that are put together by hand, from fields with names. A field that is
not given has its usual value; a name that is no field is refused.
-/

namespace DocExamples.Data

/-- Named values. -/
abbrev Fields := List (String × Data)

/-- The fields of a finished configuration, its directory apart. -/
def settingsNames : List String :=
  ["globals", "require", "regex_require", "before_each", "transpile", "include", "exclude"]

/-- The failure for a name that is no field. -/
def unknownField (typeName field : String) : Failure :=
  ⟨"TypeError", typeName ++ ".__init__() got an unexpected keyword argument '" ++ field ++ "'"⟩

/-- The first name that is no field. -/
def unknownName? (known : List String) (fields : Fields) : Option String :=
  (fields.map (·.1)).find? fun name => !known.contains name

/-- Whether and how snippets are compiled, from fields. -/
def transpileOf (fields : Fields) : Except Failure Data :=
  match unknownName? ["enabled", "presets"] fields with
  | some name => .error (unknownField "TranspileConfig" name)
  | none =>
    let usual : Transpile := {}
    .ok (.transpile ((fields.lookup "enabled").getD usual.enabled)
      ((fields.lookup "presets").getD usual.presets))

/-- A finished configuration from fields. Its directory is given apart from them. -/
def settingsOf (fields : Fields) : Except Failure Data :=
  if (fields.lookup "root").isSome then
    .error ⟨"TypeError",
      "mddoctest.config.DoctestConfig() got multiple values for keyword argument 'root'"⟩
  else
    match unknownName? settingsNames fields with
    | some name => .error (unknownField "DoctestConfig" name)
    | none => .ok (.settings fields)

end DocExamples.Data
