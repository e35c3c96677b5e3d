/-!
Module files: files that put what they offer into `module.exports`.
-/

namespace DocExamples

/-- The expression whose value is what a module file exports. -/
def moduleFileSource (body : String) : String :=
  "(function () \x7b\n" ++
    "var module = \x7bexports: \x7b\x7d\x7d;\n" ++
    "var exports = module.exports;\n" ++
    body ++ "\n" ++
    "return module.exports;\n" ++
    "\x7d)()"

end DocExamples
