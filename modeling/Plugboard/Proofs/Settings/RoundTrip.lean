import Plugboard.Proofs.Data.Reader
import Plugboard.Queue.Options
import Plugboard.Settings.Schema

/-!
# Settings are read as they were written

Whatever is written of settings, options, records and interruptions is read back as it was.  Much
more is read than is ever written, such as lists of fields, objects with fields left out and
members that nobody knows; but what it is read as is written and read back without a change.
-/

namespace Plugboard

open Document (ofValue)

variable {dialect : Dialect}

/-! ## Names of variants -/

@[simp]
theorem CircuitState.read_toValue (state : CircuitState) :
    CircuitState.read dialect (.ofValue state.toValue) = some state := by
  cases state <;> rfl

@[simp]
theorem Level.read_toValue (level : Level) :
    Level.read dialect (.ofValue level.toValue) = some level := by
  cases level <;> rfl

@[simp]
theorem LogFormat.read_toValue (format : LogFormat) :
    LogFormat.read dialect (.ofValue format.toValue) = some format := by
  cases format <;> rfl

@[simp]
theorem LogOutput.read_toValue (output : LogOutput) :
    LogOutput.read dialect (.ofValue output.toValue) = some output := by
  cases output <;> rfl

/-! ## Fields that may be null -/

namespace Reader

@[simp]
theorem option_string_ofValue (text : Option String) :
    Reader.option .string dialect (.ofValue ((text.map Value.string).getD .null)) = some text :=
  option_ofValue (by simp [ofValue]) string_ofValue text

@[simp]
theorem option_word64_ofValue (word : Option UInt64) :
    Reader.option .word64 dialect
      (.ofValue ((word.map fun word => Value.ofNat word.toNat).getD .null)) = some word :=
  option_ofValue (by simp [Value.ofNat, ofValue]) word64_ofValue word

@[simp]
theorem option_duration_ofValue (duration : Option Duration) :
    Reader.option Duration.read dialect
      (.ofValue ((duration.map Duration.toValue).getD .null)) = some duration :=
  option_ofValue (by simp [Duration.toValue, Value.record, ofValue]) Duration.read_toValue duration

end Reader

/-! ## Records -/

@[simp]
theorem CircuitRecord.read_toValue (record : CircuitRecord) :
    CircuitRecord.read dialect (.ofValue record.toValue) = some record := by
  have hslots : Reader.slots ["state", "failure_count", "opened_at", "half_open_attempts"] dialect
      (.ofValue record.toValue) = some [_, _, _, _] := Reader.slots_record (by simp)
  rw [read, hslots]
  simp

@[simp]
theorem Interruption.read_toValue (state : Interruption) :
    Interruption.read dialect (.ofValue state.toValue) = some state := by
  have hslots : Reader.slots ["interrupted", "interrupted_by"] dialect
      (.ofValue state.toValue) = some [_, _] := Reader.slots_record (by simp)
  rw [read, hslots]
  simp

@[simp]
theorem QueueOptions.read_toValue (options : QueueOptions) :
    QueueOptions.read dialect (.ofValue options.toValue) = some options := by
  have hslots : Reader.slots
      ["queue", "delay", "retries", "backoff", "unique_key", "unique_ttl"] dialect
      (.ofValue options.toValue) = some [_, _, _, _, _, _] := Reader.slots_record (by simp)
  rw [read, hslots]
  simp [optional]

@[simp]
theorem CircuitSettings.read_toValue (settings : CircuitSettings) :
    CircuitSettings.read dialect (.ofValue settings.toValue) = some settings := by
  have hslots : Reader.slots ["enabled", "threshold", "timeout_secs", "half_open_max"] dialect
      (.ofValue settings.toValue) = some [_, _, _, _] := Reader.slots_record (by simp)
  rw [read, hslots]
  simp

@[simp]
theorem DispatchSettings.read_toValue (settings : DispatchSettings) :
    DispatchSettings.read dialect (.ofValue settings.toValue) = some settings := by
  have hslots : Reader.slots
      ["graceful", "strict", "debug", "default_queue", "circuit_breaker"] dialect
      (.ofValue settings.toValue) = some [_, _, _, _, _] := Reader.slots_record (by simp)
  rw [read, hslots]
  simp

@[simp]
theorem SpanMoments.read_toValue (moments : SpanMoments) :
    SpanMoments.read dialect (.ofValue moments.toValue) = some moments := by
  have hslots : Reader.slots ["new", "enter", "exit", "close"] dialect
      (.ofValue moments.toValue) = some [_, _, _, _] := Reader.slots_record (by simp)
  rw [read, hslots]
  simp

@[simp]
theorem ModeSettings.read_toValue (settings : ModeSettings) :
    ModeSettings.read dialect (.ofValue settings.toValue) = some settings := by
  have hslots : Reader.slots ["graceful", "strict", "debug"] dialect
      (.ofValue settings.toValue) = some [_, _, _] := Reader.slots_record (by simp)
  rw [read, hslots]
  simp

@[simp]
theorem QueueSettings.read_toValue (settings : QueueSettings) :
    QueueSettings.read dialect (.ofValue settings.toValue) = some settings := by
  have hslots : Reader.slots ["default_queue", "capacity"] dialect
      (.ofValue settings.toValue) = some [_, _] := Reader.slots_record (by simp)
  rw [read, hslots]
  simp

/-! ## Settings with filters -/

namespace LoggingSettings

/-- The filters are in the order of their modules, as maps from modules to levels are kept. -/
def Ordered (settings : LoggingSettings) : Prop := Members.Ordered settings.filters

theorem read_toValue {settings : LoggingSettings} (hordered : settings.Ordered) :
    LoggingSettings.read dialect (.ofValue settings.toValue) = some settings := by
  have hslots : Reader.slots fields dialect (.ofValue settings.toValue) =
      some [_, _, _, _, _, _, _, _] := Reader.slots_record (by simp)
  have hfilters : Reader.entries Level.read dialect
      (.ofValue (.record (settings.filters.map _))) = some settings.filters :=
    Reader.entries_record hordered Level.read_toValue
  rw [read, hslots]
  simp [hfilters]

/-- Filters are read in the order of their modules, whatever order they come in. -/
theorem ordered_of_read {document : Document} {settings : LoggingSettings}
    (hread : LoggingSettings.read dialect document = some settings) : settings.Ordered := by
  unfold read at hread
  split at hread
  · simp only [Option.bind_eq_bind, Option.bind_eq_some_iff] at hread
    obtain ⟨_, _, _, _, _, _, _, _, _, _, _, _, _, _, filters, hfilters, hsettings⟩ := hread
    cases hsettings
    rcases Slot.of_orElse hfilters with rfl | ⟨document, -, hfilters⟩
    · exact Members.ordered_nil
    · exact Reader.ordered_of_entries hfilters
  · cases hread

end LoggingSettings

/-! ## All settings -/

namespace Settings

def Ordered (settings : Settings) : Prop := settings.logging.Ordered

/-- Settings are read back as they were written. -/
theorem read_toValue {settings : Settings} (hordered : settings.Ordered) :
    Settings.read dialect (.ofValue settings.toValue) = some settings := by
  have hslots : Reader.slots ["logging", "dispatcher", "circuit_breaker", "queue"] dialect
      (.ofValue settings.toValue) = some [_, _, _, _] := Reader.slots_record (by simp)
  have hlogging : LoggingSettings.read dialect (.ofValue settings.logging.toValue) =
      some settings.logging := LoggingSettings.read_toValue hordered
  rw [read, hslots]
  simp [hlogging]

/-- What is read of any document is in order. -/
theorem ordered_of_read {document : Document} {settings : Settings}
    (hread : Settings.read dialect document = some settings) : settings.Ordered := by
  unfold read at hread
  split at hread
  · simp only [Option.bind_eq_bind, Option.bind_eq_some_iff] at hread
    obtain ⟨logging, hlogging, _, _, _, _, _, _, hsettings⟩ := hread
    cases hsettings
    rcases Slot.of_orElse hlogging with rfl | ⟨document, -, hlogging⟩
    · exact Members.ordered_nil
    · exact LoggingSettings.ordered_of_read hlogging
  · cases hread

end Settings

/-! ## Round trips -/

/-- What is written of a proper content is read back as it was.  What is read of any document is
proper, so that what is written of it is read as the same again. -/
structure Reader.RoundTrips {α : Type} (read : Reader α) (toValue : α → Value)
    (proper : α → Prop) : Prop where
  returns : ∀ dialect content, proper content →
    read dialect (.ofValue (toValue content)) = some content
  settles : ∀ dialect document content, read dialect document = some content →
    proper content ∧ ∀ other, read other (.ofValue (toValue content)) = some content

namespace Reader

variable {α : Type} {read : Reader α} {toValue : α → Value} {proper : α → Prop}

theorem roundTrips_of_proper
    (hreturns : ∀ dialect content, proper content →
      read dialect (.ofValue (toValue content)) = some content)
    (hproper : ∀ dialect document content, read dialect document = some content →
      proper content) : RoundTrips read toValue proper where
  returns := hreturns
  settles := by
    intro dialect document content hread
    have hcontent := hproper dialect document content hread
    exact ⟨hcontent, fun other => hreturns other content hcontent⟩

/-- Where everything is read back, everything is proper. -/
theorem roundTrips_of_forall
    (hreturns : ∀ dialect content, read dialect (.ofValue (toValue content)) = some content) :
    RoundTrips read toValue fun _ => True :=
  roundTrips_of_proper (fun dialect content _ => hreturns dialect content) fun _ _ _ _ => trivial

end Reader

/-- Records of circuits, interruptions, options of queues and all settings are read back as they
were written, filters in the order of their modules; and whatever else is read as one of them, by
any dialect, is written as something that is read as the same. -/
theorem written_values_are_read_back :
    Reader.RoundTrips CircuitRecord.read CircuitRecord.toValue (fun _ => True) ∧
    Reader.RoundTrips Interruption.read Interruption.toValue (fun _ => True) ∧
    Reader.RoundTrips QueueOptions.read QueueOptions.toValue (fun _ => True) ∧
    Reader.RoundTrips CircuitSettings.read CircuitSettings.toValue (fun _ => True) ∧
    Reader.RoundTrips DispatchSettings.read DispatchSettings.toValue (fun _ => True) ∧
    Reader.RoundTrips LoggingSettings.read LoggingSettings.toValue LoggingSettings.Ordered ∧
    Reader.RoundTrips QueueSettings.read QueueSettings.toValue (fun _ => True) ∧
    Reader.RoundTrips ModeSettings.read ModeSettings.toValue (fun _ => True) ∧
    Reader.RoundTrips Settings.read Settings.toValue Settings.Ordered :=
  ⟨Reader.roundTrips_of_forall fun _ => CircuitRecord.read_toValue,
    Reader.roundTrips_of_forall fun _ => Interruption.read_toValue,
    Reader.roundTrips_of_forall fun _ => QueueOptions.read_toValue,
    Reader.roundTrips_of_forall fun _ => CircuitSettings.read_toValue,
    Reader.roundTrips_of_forall fun _ => DispatchSettings.read_toValue,
    Reader.roundTrips_of_proper (fun _ _ => LoggingSettings.read_toValue)
      fun _ _ _ => LoggingSettings.ordered_of_read,
    Reader.roundTrips_of_forall fun _ => QueueSettings.read_toValue,
    Reader.roundTrips_of_forall fun _ => ModeSettings.read_toValue,
    Reader.roundTrips_of_proper (fun _ _ => Settings.read_toValue)
      fun _ _ _ => Settings.ordered_of_read⟩

/-- A list that is too short, and an object with a member that nobody knows. -/
example :
    ModeSettings.read .strict (.array [.bool true]) = some ⟨true, false, false⟩ ∧
      ModeSettings.read .strict (.object [(some "color", .null), (some "debug", .bool true)]) =
        some ⟨false, false, true⟩ := by
  decide

end Plugboard
