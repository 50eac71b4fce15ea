import Plugboard.Settings.Schema
import Plugboard.Text.Blank
/-!
# Valid settings

Settings can be well formed and still make no sense.  The sections are checked in
order and the first fault found is reported.
-/

namespace Plugboard

/-- What is wrong with settings, or with the place they were to come from. -/
inductive SettingsError where
  | fileNotFound (path : String)
  | unsupportedFormat (extension : String)
  | malformed
  | invalid (message : String)
  | missingField (field : String)
  deriving DecidableEq, Repr

def SettingsError.message : SettingsError → String
  | .fileNotFound path => "Configuration file not found: " ++ path
  | .unsupportedFormat extension =>
    "Unsupported or disabled configuration file format: ." ++ extension
  | .malformed => "Failed to parse configuration"
  | .invalid message => "Invalid configuration: " ++ message
  | .missingField field => "Missing required configuration field: " ++ field

namespace LoggingSettings

def fault? (settings : LoggingSettings) : Option SettingsError :=
  if settings.output = .file ∧ settings.filePath = none then
    some (.missingField "logging.file_path")
  else if settings.format = .json then
    some (.invalid "JSON log format requires the `json-log` feature")
  else
    (settings.filters.find? (fun filter => Text.allBlank filter.1)).map fun filter =>
      .invalid ("Log filter has an empty module name: " ++ Text.inspectString filter.1)

end LoggingSettings

namespace CircuitSettings

def fault? (settings : CircuitSettings) : Option SettingsError :=
  if settings.threshold = 0 then
    some (.invalid "Circuit breaker threshold must be at least 1")
  else if settings.halfOpenMax = 0 then
    some (.invalid "Circuit breaker half_open_max must be at least 1")
  else if settings.timeoutSecs = 0 then
    some (.invalid "Circuit breaker timeout must be greater than 0")
  else none

end CircuitSettings

namespace QueueSettings

def fault? (settings : QueueSettings) : Option SettingsError :=
  if Text.allBlank settings.defaultQueue then some (.missingField "queue.default_queue")
  else if settings.capacity = 0 then some (.invalid "Queue capacity must be greater than 0")
  else none

end QueueSettings

namespace Settings

def fault? (settings : Settings) : Option SettingsError :=
  settings.logging.fault? <|> settings.circuit.fault? <|> settings.queue.fault?

def validated (settings : Settings) : Except SettingsError Settings :=
  match settings.fault? with
  | some error => .error error
  | none => .ok settings

end Settings
end Plugboard
