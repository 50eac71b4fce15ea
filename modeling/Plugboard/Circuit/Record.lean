import Plugboard.Data.Duration
import Plugboard.Text.Inspected
import Plugboard.Point
/-!
# Circuits

Every handler has a circuit.  It is closed while the handler is trusted, open while
the handler must not run, and half open while single runs probe whether the handler has
recovered.
-/

namespace Plugboard

/-- The state of a circuit. -/
inductive CircuitState where
  | closed
  | opened
  | halfOpen
  deriving DecidableEq, Repr, Inhabited

namespace CircuitState

def name : CircuitState → String
  | .closed => "closed"
  | .opened => "open"
  | .halfOpen => "half_open"

def variants : List (String × CircuitState) :=
  [("closed", .closed), ("open", .opened), ("half_open", .halfOpen)]

def read : Reader CircuitState := .variant variants
def toValue (state : CircuitState) : Value := .string state.name

end CircuitState

/-- What is remembered of a circuit. -/
structure CircuitRecord where
  state : CircuitState
  failureCount : UInt32
  openedAt : Option UInt64
  halfOpenAttempts : UInt32
  deriving DecidableEq, Repr

namespace CircuitRecord

def unused : CircuitRecord := ⟨.closed, 0, none, 0⟩

instance : Inhabited CircuitRecord := ⟨unused⟩

def trip (record : CircuitRecord) (now : UInt64) : CircuitRecord :=
  { record with state := .opened, openedAt := some now, halfOpenAttempts := 0 }

/-- One more failure; the count stays at its largest value. -/
def countFailure (record : CircuitRecord) : CircuitRecord :=
  { record with
    failureCount :=
      if record.failureCount.toNat + 1 < Nat.pow 2 32 then record.failureCount + 1
      else record.failureCount }

def countProbe (record : CircuitRecord) : CircuitRecord :=
  { record with halfOpenAttempts := record.halfOpenAttempts + 1 }

def toValue (record : CircuitRecord) : Value :=
  .record
    [("state", record.state.toValue),
     ("failure_count", .ofNat record.failureCount.toNat),
     ("opened_at", (record.openedAt.map (fun time => Value.ofNat time.toNat)).getD .null),
     ("half_open_attempts", .ofNat record.halfOpenAttempts.toNat)]

def read : Reader CircuitRecord := fun dialect document =>
  match Reader.slots ["state", "failure_count", "opened_at", "half_open_attempts"]
      dialect document with
  | some [state, failureCount, openedAt, halfOpenAttempts] => do
    let state ← state.required CircuitState.read dialect
    let failureCount ← failureCount.required .word32 dialect
    let openedAt ← openedAt.omittable (.option .word64) dialect
    let halfOpenAttempts ← halfOpenAttempts.required .word32 dialect
    return ⟨state, failureCount, openedAt, halfOpenAttempts⟩
  | _ => none

end CircuitRecord

/-- When circuits open, for how long, and how they close again. -/
structure CircuitSettings where
  enabled : Bool
  threshold : UInt32
  timeoutSecs : UInt64
  halfOpenMax : UInt32
  deriving DecidableEq, Repr

namespace CircuitSettings

def standard : CircuitSettings := ⟨true, 5, 60, 3⟩

instance : Inhabited CircuitSettings := ⟨standard⟩

def toValue (settings : CircuitSettings) : Value :=
  .record
    [("enabled", .bool settings.enabled),
     ("threshold", .ofNat settings.threshold.toNat),
     ("timeout_secs", .ofNat settings.timeoutSecs.toNat),
     ("half_open_max", .ofNat settings.halfOpenMax.toNat)]

def read : Reader CircuitSettings := fun dialect document =>
  match Reader.slots ["enabled", "threshold", "timeout_secs", "half_open_max"]
      dialect document with
  | some [enabled, threshold, timeoutSecs, halfOpenMax] => do
    let enabled ← enabled.orElse .bool standard.enabled dialect
    let threshold ← threshold.orElse .word32 standard.threshold dialect
    let timeoutSecs ← timeoutSecs.orElse .word64 standard.timeoutSecs dialect
    let halfOpenMax ← halfOpenMax.orElse .word32 standard.halfOpenMax dialect
    return ⟨enabled, threshold, timeoutSecs, halfOpenMax⟩
  | _ => none

def inspect (settings : CircuitSettings) : String :=
  Text.inspectRecord "CircuitBreakerConfig"
    [("enabled", Text.inspectBool settings.enabled),
     ("threshold", toString settings.threshold.toNat),
     ("timeout_secs", toString settings.timeoutSecs.toNat),
     ("half_open_max", toString settings.halfOpenMax.toNat)]

end CircuitSettings
end Plugboard
