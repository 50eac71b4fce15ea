import Plugboard.Dispatch.Settings
import Plugboard.LogEvent
/-!
# Settings

The settings of an application in four sections.  Every field and every section has a
default, so settings may be given in part.
-/

namespace Plugboard

/-- How log lines are laid out. -/
inductive LogFormat where
  | compact
  | full
  | pretty
  | json
  deriving DecidableEq, Repr, Inhabited

namespace LogFormat

def variants : List (String × LogFormat) :=
  [("compact", .compact), ("full", .full), ("pretty", .pretty), ("json", .json)]

def name : LogFormat → String
  | .compact => "compact"
  | .full => "full"
  | .pretty => "pretty"
  | .json => "json"

/-- The layout where none is given. -/
def standard : LogFormat := .compact

def read : Reader LogFormat := .variant variants
def toValue (format : LogFormat) : Value := .string format.name

end LogFormat

/-- Where log lines go. -/
inductive LogOutput where
  | stdout
  | stderr
  | file
  deriving DecidableEq, Repr, Inhabited

namespace LogOutput

def variants : List (String × LogOutput) :=
  [("stdout", .stdout), ("stderr", .stderr), ("file", .file)]

def name : LogOutput → String
  | .stdout => "stdout"
  | .stderr => "stderr"
  | .file => "file"

/-- Where log lines go unless something else is said. -/
def standard : LogOutput := .stdout

def read : Reader LogOutput := .variant variants
def toValue (output : LogOutput) : Value := .string output.name

end LogOutput

/-- The level where none is given. -/
def Level.standard : Level := .info

def Level.read : Reader Level := .variant Level.variants
def Level.toValue (level : Level) : Value := .string level.name

/-- Which moments in the life of a span are logged. -/
structure SpanMoments where
  new : Bool
  enter : Bool
  exit : Bool
  close : Bool
  deriving DecidableEq, Repr

namespace SpanMoments

def none : SpanMoments := ⟨false, false, false, false⟩
def lifecycle : SpanMoments := ⟨true, false, false, true⟩
def all : SpanMoments := ⟨true, true, true, true⟩

instance : Inhabited SpanMoments := ⟨none⟩

def toValue (moments : SpanMoments) : Value :=
  .record
    [("new", .bool moments.new), ("enter", .bool moments.enter),
     ("exit", .bool moments.exit), ("close", .bool moments.close)]

def read : Reader SpanMoments := fun dialect document =>
  match Reader.slots ["new", "enter", "exit", "close"] dialect document with
  | some [new, enter, exit, close] => do
    let new ← new.orElse .bool false dialect
    let enter ← enter.orElse .bool false dialect
    let exit ← exit.orElse .bool false dialect
    let close ← close.orElse .bool false dialect
    return ⟨new, enter, exit, close⟩
  | _ => Option.none

end SpanMoments

/-- The section about logging.  Filters are kept in the order of their modules. -/
structure LoggingSettings where
  level : Level
  format : LogFormat
  output : LogOutput
  spanMoments : SpanMoments
  threadIds : Bool
  fileLocation : Bool
  filePath : Option String
  filters : List (String × Level)
  deriving DecidableEq, Repr

namespace LoggingSettings

def standard : LoggingSettings :=
  { level := .info, format := .compact, output := .stdout, spanMoments := .none
    threadIds := false, fileLocation := false, filePath := none, filters := [] }

instance : Inhabited LoggingSettings := ⟨standard⟩

def toValue (settings : LoggingSettings) : Value :=
  .record
    [("level", settings.level.toValue), ("format", settings.format.toValue),
     ("output", settings.output.toValue), ("span_events", settings.spanMoments.toValue),
     ("thread_ids", .bool settings.threadIds), ("file_location", .bool settings.fileLocation),
     ("file_path", (settings.filePath.map Value.string).getD .null),
     ("filters", .record (settings.filters.map fun (name, level) => (name, level.toValue)))]

def fields : List String :=
  ["level", "format", "output", "span_events", "thread_ids", "file_location", "file_path",
   "filters"]

def read : Reader LoggingSettings := fun dialect document =>
  match Reader.slots fields dialect document with
  | some [level, format, output, spanMoments, threadIds, fileLocation, filePath, filters] => do
    let level ← level.orElse Level.read .standard dialect
    let format ← format.orElse LogFormat.read .standard dialect
    let output ← output.orElse LogOutput.read .standard dialect
    let spanMoments ← spanMoments.orElse SpanMoments.read .none dialect
    let threadIds ← threadIds.orElse .bool false dialect
    let fileLocation ← fileLocation.orElse .bool false dialect
    let filePath ← filePath.orElse (.option .string) none dialect
    let filters ← filters.orElse (.entries Level.read) [] dialect
    return { level, format, output, spanMoments, threadIds, fileLocation, filePath, filters }
  | _ => none

end LoggingSettings

/-- The section about how to dispatch. -/
structure ModeSettings where
  graceful : Bool
  strict : Bool
  debug : Bool
  deriving DecidableEq, Repr

namespace ModeSettings

def standard : ModeSettings := ⟨false, false, false⟩

instance : Inhabited ModeSettings := ⟨standard⟩

def toValue (settings : ModeSettings) : Value :=
  .record
    [("graceful", .bool settings.graceful), ("strict", .bool settings.strict),
     ("debug", .bool settings.debug)]

def read : Reader ModeSettings := fun dialect document =>
  match Reader.slots ["graceful", "strict", "debug"] dialect document with
  | some [graceful, strict, debug] => do
    let graceful ← graceful.orElse .bool false dialect
    let strict ← strict.orElse .bool false dialect
    let debug ← debug.orElse .bool false dialect
    return ⟨graceful, strict, debug⟩
  | _ => none

end ModeSettings

/-- The section about the queue. -/
structure QueueSettings where
  defaultQueue : String
  capacity : UInt64
  deriving DecidableEq, Repr

namespace QueueSettings

def standard : QueueSettings := ⟨"default", 1024⟩

instance : Inhabited QueueSettings := ⟨standard⟩

def toValue (settings : QueueSettings) : Value :=
  .record
    [("default_queue", .string settings.defaultQueue),
     ("capacity", .ofNat settings.capacity.toNat)]

def read : Reader QueueSettings := fun dialect document =>
  match Reader.slots ["default_queue", "capacity"] dialect document with
  | some [defaultQueue, capacity] => do
    let defaultQueue ← defaultQueue.orElse .string standard.defaultQueue dialect
    let capacity ← capacity.orElse .word64 standard.capacity dialect
    return ⟨defaultQueue, capacity⟩
  | _ => none

end QueueSettings

/-- All settings of an application. -/
structure Settings where
  logging : LoggingSettings
  modes : ModeSettings
  circuit : CircuitSettings
  queue : QueueSettings
  deriving DecidableEq, Repr

namespace Settings

def standard : Settings := ⟨.standard, .standard, .standard, .standard⟩

instance : Inhabited Settings := ⟨standard⟩

def toValue (settings : Settings) : Value :=
  .record
    [("logging", settings.logging.toValue), ("dispatcher", settings.modes.toValue),
     ("circuit_breaker", settings.circuit.toValue), ("queue", settings.queue.toValue)]

def read : Reader Settings := fun dialect document =>
  match Reader.slots ["logging", "dispatcher", "circuit_breaker", "queue"] dialect document with
  | some [logging, modes, circuit, queue] => do
    let logging ← logging.orElse LoggingSettings.read .standard dialect
    let modes ← modes.orElse ModeSettings.read .standard dialect
    let circuit ← circuit.orElse CircuitSettings.read .standard dialect
    let queue ← queue.orElse QueueSettings.read .standard dialect
    return ⟨logging, modes, circuit, queue⟩
  | _ => none

/-- The settings of the dispatcher of the application. -/
def dispatch (settings : Settings) : DispatchSettings :=
  { graceful := settings.modes.graceful
    strict := settings.modes.strict
    debug := settings.modes.debug
    defaultQueue := settings.queue.defaultQueue
    circuit := settings.circuit }

end Settings
end Plugboard
