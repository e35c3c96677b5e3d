import DocExamples.Run.Engine
import DocExamples.Sandbox.Prelude

/-!
Contexts: where the code of a sandbox is evaluated.

A sandbox gets its context the first time something is evaluated in it and keeps it from then on.
A context is set up before it is kept: its limits, the functions of the host, the script that every
sandbox starts with, and the variables in order. When any of that fails the context is given up,
and the next evaluation in the sandbox starts again with a new one. Code that fails keeps its
context.
-/

namespace DocExamples

/-- A script library: what evaluates a text in a numbered context. A failure is the text the
library reports. -/
structure ScriptLibrary (σ : Type) where
  /-- Whether the library is there at all. -/
  available : Bool := true
  eval : Nat → Sandbox → String → σ → Except String Unit × Sandbox × σ

/-- What is done to a context. -/
inductive ContextStep where
  | limitTime
  | limitMemory
  | define (host : String)
  | eval (text : String)
  deriving DecidableEq, Repr

/-- Which limits contexts have. -/
structure Limits where
  time : Bool := false
  memory : Bool := false
  deriving DecidableEq, Repr

/-- The contexts of a run. -/
structure Contexts (σ : Type) where
  /-- The state of the library. -/
  library : σ
  /-- How many contexts were made. -/
  made : Nat := 0
  /-- The contexts that are kept, by the numbers of their sandboxes. -/
  kept : List (Nat × Nat) := []
  /-- What was done, and to which context, in order. -/
  steps : List (Nat × ContextStep) := []

namespace Contexts

variable {σ : Type}

/-- The words for a library that is not there. -/
def missingMessage : String :=
  "The quickjs package is required to run snippets. Install it with \x60pip install quickjs\x60."

/-- What is done to a new context before anything is evaluated in it. -/
def setup (limits : Limits) : List ContextStep :=
  (if limits.time then [.limitTime] else []) ++
    (if limits.memory then [.limitMemory] else []) ++
    Sandbox.hostNames.map .define

/-- Evaluates a text in a context. -/
def evalIn (l : ScriptLibrary σ) (context : Nat) (sandbox : Sandbox) (text : String)
    (c : Contexts σ) : Except String Unit × Sandbox × Contexts σ :=
  let (outcome, sandbox, state) := l.eval context sandbox text c.library
  (outcome, sandbox, { c with library := state, steps := c.steps ++ [(context, .eval text)] })

/-- What a failed installation is reported as. -/
def installError (text : String) : Raised := .ofReport ("Failed to install globals: " ++ text)

/-- What a variable that the sandbox cannot receive is reported as. Only a wrong type is a fault of
the variable. -/
def invalidGlobal (f : Failure) : Raised :=
  if f.kind = "TypeError" then .evaluation { message := "Invalid global: " ++ f.message }
  else .other f

/-- Sets variables in order, up to the first that cannot be set. -/
def setAll (l : ScriptLibrary σ) (context : Nat) (sandbox : Sandbox) (c : Contexts σ) :
    List (Data × String) → Except Raised Unit × Sandbox × Contexts σ
  | [] => (.ok (), sandbox, c)
  | (key, source) :: more =>
    match Sandbox.assignment key source with
    | .error fault => (.error (invalidGlobal fault.failure), sandbox, c)
    | .ok text =>
      match evalIn l context sandbox text c with
      | (.error e, sandbox, c) => (.error (installError e), sandbox, c)
      | (.ok (), sandbox, c) => setAll l context sandbox c more

/-- Installs the starting script and the variables of a sandbox in a context. The variables are
rendered before the first of them is set. -/
def install (l : ScriptLibrary σ) (context : Nat) (sandbox : Sandbox) (c : Contexts σ) :
    Except Raised Unit × Sandbox × Contexts σ :=
  match evalIn l context sandbox Prelude.source c with
  | (.error e, sandbox, c) => (.error (installError e), sandbox, c)
  | (.ok (), sandbox, c) =>
    match Sandbox.globalSources sandbox.globals with
    | .error refusal => (.error (invalidGlobal refusal.failure), sandbox, c)
    | .ok sources => setAll l context sandbox c sources

/-- Makes a context and does to it what comes first. -/
def create (limits : Limits) (c : Contexts σ) : Nat × Contexts σ :=
  (c.made, { c with
    made := c.made + 1
    steps := c.steps ++ (setup limits).map fun step => (c.made, step) })

/-- The context of a sandbox, made and installed where there is none yet. -/
def contextFor (l : ScriptLibrary σ) (limits : Limits) (number : Nat) (sandbox : Sandbox)
    (c : Contexts σ) : Except Raised Nat × Sandbox × Contexts σ :=
  match c.kept.lookup number with
  | some context => (.ok context, sandbox, c)
  | none =>
    if l.available then
      let (context, c) := create limits c
      match install l context sandbox c with
      | (.error raised, sandbox, c) => (.error raised, sandbox, c)
      | (.ok (), sandbox, c) =>
        (.ok context, sandbox, { c with kept := (number, context) :: c.kept })
    else (.error (.other ⟨"RuntimeError", missingMessage⟩), sandbox, c)

/-- Evaluates code in the context of a sandbox. -/
def evaluate (l : ScriptLibrary σ) (limits : Limits) (number : Nat) (sandbox : Sandbox)
    (code : String) (c : Contexts σ) : Except Raised Unit × Sandbox × Contexts σ :=
  match contextFor l limits number sandbox c with
  | (.error raised, sandbox, c) => (.error raised, sandbox, c)
  | (.ok context, sandbox, c) =>
    match evalIn l context sandbox code c with
    | (.error text, sandbox, c) =>
      (.error (.ofReport text), sandbox, c)
    | (.ok (), sandbox, c) => (.ok (), sandbox, c)

end Contexts

end DocExamples
