import Plugboard.Proofs.Data.Omission
import Plugboard.Settings.Schema
import Plugboard.Queue.Options

/-!
# Settings given in part

Every field and every section of settings may be left out.  What each record is where nothing is
given is written down twice: as a whole, and field by field in its reader.  Both agree, so that any
settings at any depth can be taken out of a document that is accepted, and what they were comes out
as the standard, and everything else as before.
-/

namespace Plugboard

/-! ## The section about logging -/

namespace SpanMoments

def layout : List (Field SpanMoments) :=
  [⟨"new", .bool, false, (·.new), []⟩,
   ⟨"enter", .bool, false, (·.enter), []⟩,
   ⟨"exit", .bool, false, (·.exit), []⟩,
   ⟨"close", .bool, false, (·.close), []⟩]

theorem assembles : Reader.Assembles SpanMoments.read SpanMoments.none layout := by
  refine .of_make ["new", "enter", "exit", "close"]
    (fun (new, enter, exit, close, _) =>
      ⟨new, enter, exit, close⟩)
    rfl (by decide) (fun _ => rfl) (fun _ => rfl) ?_ ?_ ?_
  · intro dialect document hslots
    rw [SpanMoments.read, hslots]
  · intro dialect document slots hslots hlength
    match slots, hlength with
    | [new, enter, exit, close], _ =>
        rw [SpanMoments.read, hslots]
        rfl
  · simp [layout, SpanMoments.none]

theorem mayBePartial : Reader.MayBePartial SpanMoments.read SpanMoments.none layout :=
  assembles.mayBePartial (by simp [layout, Reader.sparesOthers_nil])

end SpanMoments

namespace LoggingSettings

def layout : List (Field LoggingSettings) :=
  [⟨"level", Level.read, .standard, (·.level), []⟩,
   ⟨"format", LogFormat.read, .standard, (·.format), []⟩,
   ⟨"output", LogOutput.read, .standard, (·.output), []⟩,
   ⟨"span_events", SpanMoments.read, .none, (·.spanMoments), Setting.ofFields SpanMoments.layout⟩,
   ⟨"thread_ids", .bool, false, (·.threadIds), []⟩,
   ⟨"file_location", .bool, false, (·.fileLocation), []⟩,
   ⟨"file_path", .option .string, none, (·.filePath), []⟩,
   ⟨"filters", .entries Level.read, [], (·.filters), []⟩]

theorem assembles : Reader.Assembles LoggingSettings.read standard layout := by
  refine .of_make fields
    (fun (level, format, output, spanMoments, threadIds, fileLocation, filePath, filters, _) =>
      ⟨level, format, output, spanMoments, threadIds, fileLocation, filePath, filters⟩)
    rfl (by decide) (fun _ => rfl) (fun _ => rfl) ?_ ?_ ?_
  · intro dialect document hslots
    rw [LoggingSettings.read, hslots]
  · intro dialect document slots hslots hlength
    match slots, hlength with
    | [level, format, output, spanMoments, threadIds, fileLocation, filePath, filters], _ =>
        rw [LoggingSettings.read, hslots]
        rfl
  · simp [layout, standard, Level.standard, LogFormat.standard, LogOutput.standard]

theorem mayBePartial : Reader.MayBePartial LoggingSettings.read standard layout :=
  assembles.mayBePartial (by
    simp [layout, Reader.sparesOthers_nil, SpanMoments.mayBePartial.sparesOthers])

end LoggingSettings

/-! ## The other sections -/

namespace ModeSettings

def layout : List (Field ModeSettings) :=
  [⟨"graceful", .bool, false, (·.graceful), []⟩,
   ⟨"strict", .bool, false, (·.strict), []⟩,
   ⟨"debug", .bool, false, (·.debug), []⟩]

theorem assembles : Reader.Assembles ModeSettings.read standard layout := by
  refine .of_make ["graceful", "strict", "debug"]
    (fun (graceful, strict, debug, _) =>
      ⟨graceful, strict, debug⟩)
    rfl (by decide) (fun _ => rfl) (fun _ => rfl) ?_ ?_ ?_
  · intro dialect document hslots
    rw [ModeSettings.read, hslots]
  · intro dialect document slots hslots hlength
    match slots, hlength with
    | [graceful, strict, debug], _ =>
        rw [ModeSettings.read, hslots]
        rfl
  · simp [layout, standard]

theorem mayBePartial : Reader.MayBePartial ModeSettings.read standard layout :=
  assembles.mayBePartial (by simp [layout, Reader.sparesOthers_nil])

end ModeSettings

namespace CircuitSettings

def layout : List (Field CircuitSettings) :=
  [⟨"enabled", .bool, standard.enabled, (·.enabled), []⟩,
   ⟨"threshold", .word32, standard.threshold, (·.threshold), []⟩,
   ⟨"timeout_secs", .word64, standard.timeoutSecs, (·.timeoutSecs), []⟩,
   ⟨"half_open_max", .word32, standard.halfOpenMax, (·.halfOpenMax), []⟩]

theorem assembles : Reader.Assembles CircuitSettings.read standard layout := by
  refine .of_make ["enabled", "threshold", "timeout_secs", "half_open_max"]
    (fun (enabled, threshold, timeoutSecs, halfOpenMax, _) =>
      ⟨enabled, threshold, timeoutSecs, halfOpenMax⟩)
    rfl (by decide) (fun _ => rfl) (fun _ => rfl) ?_ ?_ ?_
  · intro dialect document hslots
    rw [CircuitSettings.read, hslots]
  · intro dialect document slots hslots hlength
    match slots, hlength with
    | [enabled, threshold, timeoutSecs, halfOpenMax], _ =>
        rw [CircuitSettings.read, hslots]
        rfl
  · simp [layout, standard]

theorem mayBePartial : Reader.MayBePartial CircuitSettings.read standard layout :=
  assembles.mayBePartial (by simp [layout, Reader.sparesOthers_nil])

end CircuitSettings

namespace QueueSettings

def layout : List (Field QueueSettings) :=
  [⟨"default_queue", .string, standard.defaultQueue, (·.defaultQueue), []⟩,
   ⟨"capacity", .word64, standard.capacity, (·.capacity), []⟩]

theorem assembles : Reader.Assembles QueueSettings.read standard layout := by
  refine .of_make ["default_queue", "capacity"]
    (fun (defaultQueue, capacity, _) =>
      ⟨defaultQueue, capacity⟩)
    rfl (by decide) (fun _ => rfl) (fun _ => rfl) ?_ ?_ ?_
  · intro dialect document hslots
    rw [QueueSettings.read, hslots]
  · intro dialect document slots hslots hlength
    match slots, hlength with
    | [defaultQueue, capacity], _ =>
        rw [QueueSettings.read, hslots]
        rfl
  · simp [layout, standard]

theorem mayBePartial : Reader.MayBePartial QueueSettings.read standard layout :=
  assembles.mayBePartial (by simp [layout, Reader.sparesOthers_nil])

end QueueSettings

/-! ## All settings -/

namespace Settings

def layout : List (Field Settings) :=
  [⟨"logging", LoggingSettings.read, .standard, (·.logging),
     Setting.ofFields LoggingSettings.layout⟩,
   ⟨"dispatcher", ModeSettings.read, .standard, (·.modes), Setting.ofFields ModeSettings.layout⟩,
   ⟨"circuit_breaker", CircuitSettings.read, .standard, (·.circuit),
     Setting.ofFields CircuitSettings.layout⟩,
   ⟨"queue", QueueSettings.read, .standard, (·.queue), Setting.ofFields QueueSettings.layout⟩]

theorem assembles : Reader.Assembles Settings.read standard layout := by
  refine .of_make ["logging", "dispatcher", "circuit_breaker", "queue"]
    (fun (logging, modes, circuit, queue, _) =>
      ⟨logging, modes, circuit, queue⟩)
    rfl (by decide) (fun _ => rfl) (fun _ => rfl) ?_ ?_ ?_
  · intro dialect document hslots
    rw [Settings.read, hslots]
  · intro dialect document slots hslots hlength
    match slots, hlength with
    | [logging, modes, circuit, queue], _ =>
        rw [Settings.read, hslots]
        rfl
  · simp [layout, standard]

theorem mayBePartial : Reader.MayBePartial Settings.read standard layout :=
  assembles.mayBePartial (by
    simp [layout, LoggingSettings.mayBePartial.sparesOthers, ModeSettings.mayBePartial.sparesOthers,
      CircuitSettings.mayBePartial.sparesOthers, QueueSettings.mayBePartial.sparesOthers])

end Settings

/-! ## Dispatchers and queues -/

namespace DispatchSettings

def layout : List (Field DispatchSettings) :=
  [⟨"graceful", .bool, false, (·.graceful), []⟩,
   ⟨"strict", .bool, false, (·.strict), []⟩,
   ⟨"debug", .bool, false, (·.debug), []⟩,
   ⟨"default_queue", .string, standard.defaultQueue, (·.defaultQueue), []⟩,
   ⟨"circuit_breaker", CircuitSettings.read, .standard, (·.circuit),
     Setting.ofFields CircuitSettings.layout⟩]

theorem assembles : Reader.Assembles DispatchSettings.read standard layout := by
  refine .of_make ["graceful", "strict", "debug", "default_queue", "circuit_breaker"]
    (fun (graceful, strict, debug, defaultQueue, circuit, _) =>
      ⟨graceful, strict, debug, defaultQueue, circuit⟩)
    rfl (by decide) (fun _ => rfl) (fun _ => rfl) ?_ ?_ ?_
  · intro dialect document hslots
    rw [DispatchSettings.read, hslots]
  · intro dialect document slots hslots hlength
    match slots, hlength with
    | [graceful, strict, debug, defaultQueue, circuit], _ =>
        rw [DispatchSettings.read, hslots]
        rfl
  · simp [layout, standard]

theorem mayBePartial : Reader.MayBePartial DispatchSettings.read standard layout :=
  assembles.mayBePartial (by
    simp [layout, Reader.sparesOthers_nil, CircuitSettings.mayBePartial.sparesOthers])

end DispatchSettings

namespace QueueOptions

def layout : List (Field QueueOptions) :=
  [⟨"queue", .option .string, none, (·.queue), []⟩,
   ⟨"delay", .option Duration.read, none, (·.delay), []⟩,
   ⟨"retries", .word32, 0, (·.retries), []⟩,
   ⟨"backoff", .option Duration.read, none, (·.backoff), []⟩,
   ⟨"unique_key", .option .string, none, (·.uniqueKey), []⟩,
   ⟨"unique_ttl", .option Duration.read, none, (·.uniqueTtl), []⟩]

theorem assembles : Reader.Assembles QueueOptions.read standard layout := by
  refine .of_make ["queue", "delay", "retries", "backoff", "unique_key", "unique_ttl"]
    (fun (queue, delay, retries, backoff, uniqueKey, uniqueTtl, _) =>
      ⟨queue, delay, retries, backoff, uniqueKey, uniqueTtl⟩)
    rfl (by decide) (fun _ => rfl) (fun _ => rfl) ?_ ?_ ?_
  · intro dialect document hslots
    rw [QueueOptions.read, hslots]
  · intro dialect document slots hslots hlength
    match slots, hlength with
    | [queue, delay, retries, backoff, uniqueKey, uniqueTtl], _ =>
        rw [QueueOptions.read, hslots]
        rfl
  · simp [layout, standard]

theorem mayBePartial : Reader.MayBePartial QueueOptions.read standard layout :=
  assembles.mayBePartial (by simp [layout, Reader.sparesOthers_nil])

end QueueOptions

/-- All records of settings may be given in part: the settings of an application and each of their
sections, those of a dispatcher, and the options of a queue. -/
theorem omitted_fields_are_standard :
    Reader.MayBePartial Settings.read Settings.standard Settings.layout ∧
    Reader.MayBePartial DispatchSettings.read DispatchSettings.standard DispatchSettings.layout ∧
    Reader.MayBePartial CircuitSettings.read CircuitSettings.standard CircuitSettings.layout ∧
    Reader.MayBePartial ModeSettings.read ModeSettings.standard ModeSettings.layout ∧
    Reader.MayBePartial QueueSettings.read QueueSettings.standard QueueSettings.layout ∧
    Reader.MayBePartial LoggingSettings.read LoggingSettings.standard LoggingSettings.layout ∧
    Reader.MayBePartial SpanMoments.read SpanMoments.none SpanMoments.layout ∧
    Reader.MayBePartial QueueOptions.read QueueOptions.standard QueueOptions.layout :=
  ⟨Settings.mayBePartial, DispatchSettings.mayBePartial, CircuitSettings.mayBePartial,
    ModeSettings.mayBePartial, QueueSettings.mayBePartial, LoggingSettings.mayBePartial,
    SpanMoments.mayBePartial, QueueOptions.mayBePartial⟩

/-- A section is left out, and a field of another. -/
example :
    Settings.read .strict
        (Document.without (fun path => path ∈ [["dispatcher"], ["queue", "capacity"]])
          (.object
            [(some "dispatcher", .object [(some "debug", .bool true)]),
             (some "queue", .object
               [(some "default_queue", .string (some "mail")),
                (some "capacity", .number (some (.integer 7)))])])) =
      some { Settings.standard with queue := ⟨"mail", 1024⟩ } := by
  decide

end Plugboard
