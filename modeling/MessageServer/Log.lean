/-!
# Log entries

An entry of the log has a level, a message and named fields.  `LogEntry.line` is how it is printed.
-/

namespace MessageServer

/-- How much an entry matters. -/
inductive LogLevel where
  | trace | debug | info | warn | error
  deriving DecidableEq, Repr

namespace LogLevel

def name : LogLevel → String
  | trace => "TRACE"
  | debug => "DEBUG"
  | info => "INFO"
  | warn => "WARN"
  | error => "ERROR"

end LogLevel

/-- An entry of the log. -/
structure LogEntry where
  level : LogLevel
  message : String
  fields : List (String × String)
  deriving DecidableEq, Repr

namespace LogEntry

/-- Level, message and fields on one line. -/
def line (e : LogEntry) : String :=
  let fields := e.fields.map fun (name, value) => s!"{name}={value}"
  " ".intercalate (e.level.name :: e.message :: fields)

end LogEntry

end MessageServer
