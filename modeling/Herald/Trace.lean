/-!
# Trace records

What the library tells a log: a level, a message, and named fields that hold a number or a text.
The parts of the library keep journals of their own typed events; a record is the form in which an
event leaves for a log.
-/

namespace Herald.Trace

/-- The importance that a log gives to a record, from least to most. -/
inductive Level where
  | trace
  | debug
  | info
  | warn
  | error
  deriving DecidableEq, Ord, Repr

/-- The word for a level in a log line. -/
def Level.name : Level → String
  | .trace => "TRACE"
  | .debug => "DEBUG"
  | .info => "INFO"
  | .warn => "WARN"
  | .error => "ERROR"

/-- The value of a named field. -/
inductive Field where
  | number (n : Int)
  | text (s : String)
  deriving DecidableEq, Repr

/-- One line of a log. -/
structure Record where
  level : Level
  message : String
  fields : List (String × Field) := []
  deriving DecidableEq, Repr

end Herald.Trace
