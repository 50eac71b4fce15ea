import Plugboard.Logging.Builder
import Plugboard.Text.FilePath
/-!
# Installed logging

Once a builder is installed, events that pass its filter arrive at its output, spans
that pass leave a line at each moment that is logged, and a second installation fails.
-/

namespace Plugboard

/-- Where log lines arrive. -/
inductive LogPlace where
  | stdout
  | stderr
  | file (path : String)
  deriving DecidableEq, Repr

namespace LogPlace

/-- The name of the log file where a path names none. -/
def defaultFileName : String := "junction.log"

/-- The file that a path stands for.  A path that ends in a step up, or has no steps,
names no file, and its last step is not part of the directory. -/
def ofPath (path : String) : LogPlace :=
  let all := FilePath.steps path
  let whole :=
    match all.getLast? with
    | none | some ".." => all.dropLast ++ [defaultFileName]
    | some _ => all
  .file (String.intercalate "/" (FilePath.walk [] whole))

end LogPlace

/-- What arrived at one place. -/
structure LogArrivals where
  /-- Target and level of every event, in order. -/
  events : List (String × Level)
  /-- The moments of the span, in order. -/
  moments : List String
  threadIds : Bool
  fileLocation : Bool
  deriving DecidableEq, Repr

/-- A span without fields. -/
structure BareSpan where
  target : String
  name : String
  level : Level
  deriving DecidableEq, Repr

def LogArrivals.none : LogArrivals := ⟨[], [], false, false⟩

namespace LoggingBuilder

/-- Where the output goes.  A file without a path is the standard output. -/
def place (builder : LoggingBuilder) : LogPlace :=
  match builder.output, builder.filePath with
  | .stdout, _ => .stdout
  | .stderr, _ => .stderr
  | .file, some path => .ofPath path
  | .file, none => .stdout

/-- The moments of a span that leave a line. -/
def loggedMoments (moments : SpanMoments) : List String :=
  (if moments.new then ["new"] else []) ++ (if moments.enter then ["enter"] else []) ++
    (if moments.exit then ["exit"] else []) ++ (if moments.close then ["close"] else [])

/-- What arrives of events and of a span that lives from start to end.  Events have a
message and no other field, and the span has none. -/
def arrivals (builder : LoggingBuilder) (environment : Option String)
    (events : List (String × Level)) (span : BareSpan) : LogArrivals :=
  let filter := builder.filter environment
  let passed := events.filter fun event => filter.enables event.1 event.2 ["message"]
  let moments :=
    if filter.enablesSpan span.target span.name span.level [] then
      loggedMoments builder.spanMoments
    else []
  let isSilent := passed.isEmpty && moments.isEmpty
  ⟨passed, moments, builder.threadIds && !isSilent, builder.fileLocation && !isSilent⟩

/-- What a second installation fails with. -/
def installedMessage : String :=
  "Failed to initialize logging: a global default trace dispatcher has already been set"

end LoggingBuilder
end Plugboard
