import Plugboard.Logging.Filter
import Plugboard.Settings.Schema
/-!
# Setting logging up

A builder collects what is to be logged, how, and where, and makes the filter that is
installed.
-/

namespace Plugboard

/-- What is to be installed. -/
structure LoggingBuilder where
  level : Level
  /-- Directives beyond the base level, as text. -/
  directives : List String
  spanMoments : SpanMoments
  format : LogFormat
  output : LogOutput
  threadIds : Bool
  fileLocation : Bool
  filePath : Option String
  deriving DecidableEq, Repr

namespace LoggingBuilder

def standard : LoggingBuilder :=
  { level := .info, directives := [], spanMoments := .none, format := .compact
    output := .stdout, threadIds := false, fileLocation := false, filePath := none }

/-- Puts a filter of the settings among others in the order of their modules. -/
def insertFilter (filter : String × Level) : List (String × Level) → List (String × Level)
  | [] => [filter]
  | other :: rest =>
    if other.1 < filter.1 then other :: insertFilter filter rest else filter :: other :: rest

/-- The directive for a filter of the settings. -/
def directiveText (filter : String × Level) : String := filter.1 ++ "=" ++ filter.2.name

/-- The builder that settings describe.  Filters become directives in the order of
their modules, however the settings list them. -/
def ofSettings (settings : LoggingSettings) : LoggingBuilder :=
  { level := settings.level
    directives := (settings.filters.foldr insertFilter []).map directiveText
    spanMoments := settings.spanMoments
    format := settings.format
    output := settings.output
    threadIds := settings.threadIds
    fileLocation := settings.fileLocation
    filePath := settings.filePath }

/-- A change of a builder. -/
inductive Change where
  | level (level : Level)
  | directive (text : String)
  | spanMoments (moments : SpanMoments)
  | format (format : LogFormat)
  | output (output : LogOutput)
  | threadIds (shown : Bool)
  | fileLocation (shown : Bool)
  /-- A path also sends the output there. -/
  | filePath (path : String)

def apply (builder : LoggingBuilder) : Change → LoggingBuilder
  | .level level => { builder with level }
  | .directive text => { builder with directives := builder.directives ++ [text] }
  | .spanMoments spanMoments => { builder with spanMoments }
  | .format format => { builder with format }
  | .output output => { builder with output }
  | .threadIds threadIds => { builder with threadIds }
  | .fileLocation fileLocation => { builder with fileLocation }
  | .filePath path => { builder with filePath := some path, output := .file }

def allDirectives (builder : LoggingBuilder) : List String :=
  builder.level.name :: builder.directives

/-- The filter to start from: what the environment asks for if that can be read, else
the base level. -/
def baseFilter (builder : LoggingBuilder) (environment : Option String) : LogFilter :=
  (environment.bind LogFilter.parse?).getD
    (LogFilter.ofDirectives [.ofVerbosity builder.level.rank])

/-- The filter that is installed.  Directives that cannot be read are left out. -/
def filter (builder : LoggingBuilder) (environment : Option String) : LogFilter :=
  (builder.directives.filterMap LogDirective.parse?).foldl LogFilter.add
    (builder.baseFilter environment)

def capitalized (word : String) : String :=
  match word.toList with
  | [] => ""
  | c :: rest => String.ofList (c.toUpper :: rest)

def inspect (builder : LoggingBuilder) : String :=
  Text.inspectRecord "LoggingBuilder"
    [("level", Text.inspectVariant "Level" [capitalized builder.level.name]),
     ("directives", Text.inspectList (builder.directives.map Text.inspectString)),
     ("span_events", Text.inspectRecord "SpanEvents"
       [("new", Text.inspectBool builder.spanMoments.new),
        ("enter", Text.inspectBool builder.spanMoments.enter),
        ("exit", Text.inspectBool builder.spanMoments.exit),
        ("close", Text.inspectBool builder.spanMoments.close)]),
     ("format", capitalized builder.format.name),
     ("output", capitalized builder.output.name),
     ("thread_ids", Text.inspectBool builder.threadIds),
     ("file_location", Text.inspectBool builder.fileLocation),
     ("file_path", Text.inspectOption (builder.filePath.map Text.inspectString))]

end LoggingBuilder
end Plugboard
