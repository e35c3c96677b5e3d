import DocExamples.Run.Engine

/-!
Compiling examples.

The compiler is a script that is loaded into an interpreter the first time it is needed and stays
there. Code with types goes through a second compiler first, which leaves code without types.
-/

namespace DocExamples

/-- A compiler library. A failure is the text the library reports. -/
structure CompilerLibrary (σ : Type) where
  /-- Whether the library is there at all. -/
  available : Bool := true
  /-- Removes the types from code. -/
  untype : String → σ → Except String String × σ
  /-- Loads the compiler into a numbered interpreter. -/
  load : Nat → σ → Except String Unit × σ
  /-- Compiles code with presets in an interpreter. -/
  transform : Nat → String → List String → σ → Except String String × σ

/-- What is asked of the library. -/
inductive CompilerStep where
  | untype (code : String)
  | load (interpreter : Nat)
  | transform (interpreter : Nat) (code : String) (presets : List String)
  deriving DecidableEq, Repr

/-- The state of compiling. -/
structure Compiler (σ : Type) where
  /-- The state of the library. -/
  library : σ
  /-- How many interpreters were made. -/
  made : Nat := 0
  /-- The interpreter that holds the compiler. -/
  loaded : Option Nat := none
  /-- What was asked of the library, in order. -/
  steps : List CompilerStep := []

namespace Compiler

variable {σ : Type}

/-- The words for a library that is not there. -/
def missingMessage : String :=
  "The dukpy package is required to transpile snippets. " ++
    "Install it with \x60pip install dukpy\x60 or disable transpilation."

/-- The script that compiles: its code and its options are variables of the interpreter. -/
def script : String := "Babel.transform(dukpy.source, dukpy.options).code;"

/-- The presets that are used: the given ones, or the usual ones where none are given. -/
def usedPresets (presets : List String) : List String :=
  if presets.isEmpty then defaultPresets else presets

/-- Removes the types from code in a language that has them. -/
def untyped (l : CompilerLibrary σ) (code : String) (language : Language) (c : Compiler σ) :
    Except String String × Compiler σ :=
  if language = .typescript then
    let (outcome, state) := l.untype code c.library
    (outcome, { c with library := state, steps := c.steps ++ [.untype code] })
  else (.ok code, c)

/-- The interpreter that holds the compiler, which is loaded where it is not yet. -/
def interpreter (l : CompilerLibrary σ) (c : Compiler σ) : Except String Nat × Compiler σ :=
  match c.loaded with
  | some i => (.ok i, c)
  | none =>
    let i := c.made
    let (outcome, state) := l.load i c.library
    let c := { c with library := state, made := i + 1, steps := c.steps ++ [.load i] }
    match outcome with
    | .error e => (.error e, c)
    | .ok () => (.ok i, { c with loaded := some i })

/-- Compiles code without types. -/
def transform (l : CompilerLibrary σ) (presets : List String) (code : String) (c : Compiler σ) :
    Except String String × Compiler σ :=
  match interpreter l c with
  | (.error e, c) => (.error e, c)
  | (.ok i, c) =>
    let (outcome, state) := l.transform i code presets c.library
    (outcome, { c with library := state, steps := c.steps ++ [.transform i code presets] })

/-- Compiles code in a language. -/
def compile (l : CompilerLibrary σ) (presets : List String) (code : String) (language : Language)
    (c : Compiler σ) : Except Raised String × Compiler σ :=
  if l.available then
    match untyped l code language c with
    | (.error e, c) => (.error (.refused e), c)
    | (.ok code, c) =>
      let (outcome, c) := transform l (usedPresets presets) code c
      (outcome.mapError .refused, c)
  else (.error (.other ⟨"RuntimeError", missingMessage⟩), c)

end Compiler

end DocExamples
