/-!
# Remarks

What the program says about its doings, line by line.
-/

namespace ServiceLifecycle

/-- How much a remark matters. -/
inductive Level where
  | trace
  | debug
  | info
  | warn
  deriving DecidableEq, Repr

/-- How a level is written. -/
def Level.text : Level → String
  | .trace => "TRACE"
  | .debug => "DEBUG"
  | .info => "INFO"
  | .warn => "WARN"

/-- One line about what happened. -/
structure Remark where
  level : Level
  text : String
  deriving DecidableEq, Repr

/-- A remark as one line, its level first. -/
def Remark.line (r : Remark) : String := s!"{r.level.text} {r.text}"

end ServiceLifecycle
