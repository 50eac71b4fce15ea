import Plugboard.Circuit.Record
/-!
# Dispatch settings

What holds for every dispatch unless the call says otherwise.
-/

namespace Plugboard

/-- The settings of a dispatcher. -/
structure DispatchSettings where
  graceful : Bool
  strict : Bool
  debug : Bool
  defaultQueue : String
  circuit : CircuitSettings
  deriving DecidableEq, Repr

namespace DispatchSettings

def standard : DispatchSettings := ⟨false, false, false, "default", .standard⟩

instance : Inhabited DispatchSettings := ⟨standard⟩

def toValue (settings : DispatchSettings) : Value :=
  .record
    [("graceful", .bool settings.graceful), ("strict", .bool settings.strict),
     ("debug", .bool settings.debug), ("default_queue", .string settings.defaultQueue),
     ("circuit_breaker", settings.circuit.toValue)]

def read : Reader DispatchSettings := fun dialect document =>
  match Reader.slots ["graceful", "strict", "debug", "default_queue", "circuit_breaker"]
      dialect document with
  | some [graceful, strict, debug, defaultQueue, circuit] => do
    let graceful ← graceful.orElse .bool false dialect
    let strict ← strict.orElse .bool false dialect
    let debug ← debug.orElse .bool false dialect
    let defaultQueue ← defaultQueue.orElse .string standard.defaultQueue dialect
    let circuit ← circuit.orElse CircuitSettings.read .standard dialect
    return ⟨graceful, strict, debug, defaultQueue, circuit⟩
  | _ => none

def inspect (settings : DispatchSettings) : String :=
  Text.inspectRecord "DispatcherConfig"
    [("graceful", Text.inspectBool settings.graceful),
     ("strict", Text.inspectBool settings.strict),
     ("debug", Text.inspectBool settings.debug),
     ("default_queue", Text.inspectString settings.defaultQueue),
     ("circuit_breaker", settings.circuit.inspect)]

end DispatchSettings

/-- The flags of one dispatch. -/
structure DispatchFlags where
  graceful : Bool
  strict : Bool
  debug : Bool
  deriving DecidableEq, Repr

/-- The flags that one call sets, the others being left to the settings. -/
structure FlagChoice where
  graceful : Option Bool
  strict : Option Bool
  debug : Option Bool
  deriving DecidableEq, Repr

namespace DispatchFlags

def ofSettings (settings : DispatchSettings) : DispatchFlags :=
  ⟨settings.graceful, settings.strict, settings.debug⟩

def choose (flags : DispatchFlags) (choice : FlagChoice) : DispatchFlags :=
  ⟨choice.graceful.getD flags.graceful, choice.strict.getD flags.strict,
   choice.debug.getD flags.debug⟩

/-- The inspected form of a call with these flags. -/
def inspect (flags : DispatchFlags) : String :=
  Text.inspectRecord "DispatchCall"
    [("flags", Text.inspectRecord "Flags"
      [("graceful", Text.inspectBool flags.graceful),
       ("strict", Text.inspectBool flags.strict),
       ("debug", Text.inspectBool flags.debug)])]

end DispatchFlags
end Plugboard
