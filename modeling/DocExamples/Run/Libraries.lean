import DocExamples.Run.Compiler
import DocExamples.Run.Contexts

/-!
Engines out of libraries: one that compiles and one that evaluates.
-/

namespace DocExamples

/-- The libraries of an engine. -/
structure Libraries (σ τ : Type) where
  compiler : CompilerLibrary σ
  scripts : ScriptLibrary τ
  limits : Limits := {}

namespace Libraries

variable {σ τ : Type}

/-- The engine that compiles with presets and evaluates in contexts. -/
def engine (l : Libraries σ τ) (presets : List String) : Engine (Compiler σ × Contexts τ) where
  compile code language s :=
    let (outcome, compiler) := Compiler.compile l.compiler presets code language s.1
    (outcome, compiler, s.2)
  evaluate number sandbox code s :=
    let (outcome, sandbox, contexts) :=
      Contexts.evaluate l.scripts l.limits number sandbox code s.2
    (outcome, sandbox, s.1, contexts)

/-- No libraries at all: every example fails with the words that say what is missing. -/
def missing : Libraries Unit Unit where
  compiler := {
    available := false
    untype := fun _ s => (.error "", s)
    load := fun _ s => (.error "", s)
    transform := fun _ _ _ s => (.error "", s) }
  scripts := { available := false, eval := fun _ sandbox _ s => (.error "", sandbox, s) }

end Libraries

end DocExamples
