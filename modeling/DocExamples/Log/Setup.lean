import DocExamples.Files.Tree
import DocExamples.Log.Record

/-!
Where log records go: the serious ones to the terminal, or all of them if asked for, and all of
them to a log file where there is one.
-/

namespace DocExamples.Log

/-- A place that takes records. -/
inductive Sink where
  | terminal
  | file (path : Path)
  deriving DecidableEq, Repr

/-- How logging is set up. -/
structure Setup where
  verbose : Bool := false
  logFile : Option Path := none
  deriving DecidableEq, Repr

namespace Setup

/-- The least level that the terminal shows. -/
def terminalLevel (s : Setup) : Level := if s.verbose then .debug else .warning

/-- The least level of records that are made at all. -/
def level (s : Setup) : Level := if s.logFile.isSome then .debug else s.terminalLevel

/-- The places that take records, each with the least level it takes. -/
def sinks (s : Setup) : List (Sink × Level) :=
  (.terminal, s.terminalLevel) :: s.logFile.toList.map fun path => (.file path, .debug)

/-- Holds when a place with a least level gets a record. -/
def takes (s : Setup) (least : Level) (r : Record) : Bool :=
  s.level.rank ≤ r.level.rank && least.rank ≤ r.level.rank

/-- The records that the terminal shows. -/
def onTerminal (s : Setup) (records : List Record) : List Record :=
  records.filter (s.takes s.terminalLevel)

/-- The records that the log file holds, if there is one. -/
def inFile (s : Setup) (records : List Record) : List Record :=
  if s.logFile.isSome then records.filter (s.takes .debug) else []

end Setup

namespace Record

/-- A record in a log file, without its time. -/
def fileText (r : Record) : String :=
  r.level.name ++ " " ++ r.logger ++ ": " ++ r.message ++ "\n"

end Record

end DocExamples.Log
