/-!
Log records: how serious each is, which part of the program it comes from, and what it says.
-/

namespace DocExamples.Log

/-- How serious a record is. -/
inductive Level where
  | debug
  | info
  | warning
  | error
  | critical
  deriving DecidableEq, Repr

namespace Level

/-- The name of a level. -/
def name : Level → String
  | debug => "DEBUG"
  | info => "INFO"
  | warning => "WARNING"
  | error => "ERROR"
  | critical => "CRITICAL"

/-- The rank of a level; a more serious one ranks higher. -/
def rank : Level → Nat
  | debug => 10
  | info => 20
  | warning => 30
  | error => 40
  | critical => 50

/-- All levels, the least serious first. -/
def all : List Level := [debug, info, warning, error, critical]

end Level

/-- The name that all loggers share. -/
def rootName : String := "mddoctest"

/-- The name of the logger of a component; no component, or an empty name, stands for the root. -/
def loggerName (component : Option String) : String :=
  match component with
  | none => rootName
  | some c => if c = "" then rootName else rootName ++ "." ++ c

/-- One record. -/
structure Record where
  level : Level
  logger : String
  message : String
  deriving DecidableEq, Repr

/-- A record of a named component. -/
def record (level : Level) (component message : String) : Record :=
  ⟨level, loggerName (some component), message⟩

end DocExamples.Log
