/-
This file holds what the library reports about its work besides its results: lines of a log,
each with a level. A log is a value like any other; who runs the library decides what becomes
of it.
-/

namespace SqlRecords

/-- How much a line of a log matters. -/
inductive LogLevel where
  | trace
  | debug
  | warning
  | error
deriving DecidableEq, Repr

/-- A line of a log. -/
structure LogEntry where
  level : LogLevel
  text : String
deriving DecidableEq, Repr

end SqlRecords
