/-!
# Logging

A log line states how serious it is and what happened. A verbosity admits the
lines up to one severity, or none at all.
-/

namespace MarkupTemplate.Command

/-- How serious a log line is, the most serious first. -/
inductive Severity where
  | error
  | warn
  | info
  | debug
  | trace
deriving DecidableEq, Repr

namespace Severity

/-- Every severity, the most serious first. -/
def all : List Severity := [error, warn, info, debug, trace]

/-- The word for a severity. -/
def name : Severity → String
  | error => "error"
  | warn => "warn"
  | info => "info"
  | debug => "debug"
  | trace => "trace"

/-- The number of severities that are more serious. -/
def rank : Severity → Nat
  | error => 0
  | warn => 1
  | info => 2
  | debug => 3
  | trace => 4

/-- The escape sequence that a severity is shown in on a terminal. -/
def sequence : Severity → String
  | error => "\x1b[1;31m"
  | warn => "\x1b[1;33m"
  | info => "\x1b[1;34m"
  | debug => "\x1b[1;34m"
  | trace => "\x1b[1;35m"

end Severity

/-- The least serious lines that are shown, or `none` when no line is. -/
abbrev Verbosity := Option Severity

namespace Verbosity

/-- Whether lines of a severity are shown. -/
def admits (verbosity : Verbosity) (severity : Severity) : Bool :=
  verbosity.any fun limit => severity.rank ≤ limit.rank

/-- The verbosity with a name. -/
def ofName? (name : String) : Option Verbosity :=
  if name = "off" then some none
  else (Severity.all.find? fun severity => severity.name == name).map some

end Verbosity

/-- One thing to be logged. -/
structure Note where
  severity : Severity
  text : String
deriving DecidableEq, Repr

end MarkupTemplate.Command
