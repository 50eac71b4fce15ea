import Plugboard.Data.Value
/-!
# Log events

Every part of the library reports what it does as log events: a severity, the target
that names the part, a message and named fields.
-/

namespace Plugboard

/-- Severities, the gravest first. -/
inductive Level where
  | error
  | warn
  | info
  | debug
  | trace
  deriving DecidableEq, Repr, Inhabited

namespace Level

/-- How much is let through at a level: a larger rank lets more through. -/
def rank : Level → Nat
  | .error => 1
  | .warn => 2
  | .info => 3
  | .debug => 4
  | .trace => 5

def name : Level → String
  | .error => "error"
  | .warn => "warn"
  | .info => "info"
  | .debug => "debug"
  | .trace => "trace"

/-- In the order from most to least verbose. -/
def variants : List (String × Level) :=
  [("trace", .trace), ("debug", .debug), ("info", .info), ("warn", .warn), ("error", .error)]

def ofName? (name : String) : Option Level := variants.lookup name

end Level

/-- What a log event reports: something that happened, or the start of a span of work. -/
inductive LogSubject where
  | message (text : String)
  | span (name : String)
  deriving DecidableEq, Repr

/-- A log event. -/
structure LogEvent where
  level : Level
  target : String
  subject : LogSubject
  fields : List (String × Value)
  deriving Repr

end Plugboard
