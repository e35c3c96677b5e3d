import DocExamples.Document.Fence
import DocExamples.Run.Diagnostic
import DocExamples.Sandbox.Host

/-!
Engines: what compiles the code of an example and what evaluates it.

An engine has a state of its own, which every call may change. An evaluation is given a sandbox,
together with the number that tells this sandbox from all others of the run, and gives back the
sandbox as the code left it, whether the code failed or not.
-/

namespace DocExamples

/-- How a call out of a run fails. -/
inductive Raised where
  /-- The compiler refuses the code. -/
  | refused (diagnostic : String)
  /-- The code fails while it is evaluated. -/
  | evaluation (e : EvaluationError)
  /-- Any other failure. -/
  | other (f : Failure)
  deriving DecidableEq, Repr

/-- The failure that a report of an engine stands for. -/
def Raised.ofReport (text : String) : Raised :=
  match EvaluationError.ofReport text with
  | .ok e => evaluation e
  | .error t => other t.failure

/-- A failure as it stands in a diagnostic. -/
def Raised.describe : Raised → String
  | refused diagnostic => diagnostic
  | evaluation e => e.diagnostic
  | other f => f.describe

/-- A compiler and an evaluator with a common state. -/
structure Engine (σ : Type) where
  compile : String → Language → σ → Except Raised String × σ
  evaluate : Nat → Sandbox → String → σ → Except Raised Unit × Sandbox × σ

end DocExamples
