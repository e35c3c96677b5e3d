/-!
Failures of code that is given to this library and not part of it: module factories, hooks,
script engines. All that is known of one is its kind and its text.
-/

namespace DocExamples

/-- A failure of foreign code. -/
structure Failure where
  kind : String
  message : String
  deriving DecidableEq, Repr, Inhabited

namespace Failure

/-- The failure on one line, as it stands in diagnostics. -/
def describe (f : Failure) : String := f.kind ++ ": " ++ f.message

end Failure

end DocExamples
