import Plugboard.Circuit.Record
import Plugboard.Data.Table
import Plugboard.LogEvent
/-!
# The circuit breaker

The breaker counts the failures of each handler.  At the threshold it opens the
handler's circuit; once the timeout is over the circuit counts as half open, which is
computed when it is looked at and stored by the next write.  Enough successes close it,
one failure opens it again.
-/

namespace Plugboard

/-- Circuit settings and the circuits of all handlers. -/
structure Breaker where
  settings : CircuitSettings
  circuits : Table HandlerId CircuitRecord

namespace Breaker

/-- The target of the breaker's log events. -/
def target : String := "junction_core::breaker"

/-- The timeout in milliseconds, in a 64-bit word. -/
def timeoutMillis (settings : CircuitSettings) : UInt64 :=
  UInt64.ofNat (settings.timeoutSecs.toNat * 1000)

/-- The timeout has passed since the circuit opened.  A clock that was set back has
not moved. -/
def timeoutElapsed (settings : CircuitSettings) (now : UInt64) (record : CircuitRecord) : Bool :=
  match record.openedAt with
  | none => false
  | some opened => decide ((timeoutMillis settings).toNat ≤ now.toNat - opened.toNat)

def stored (breaker : Breaker) (handler : HandlerId) : CircuitRecord :=
  (breaker.circuits.get? handler).getD .unused

/-- The circuit as it counts now. -/
def effective (breaker : Breaker) (now : UInt64) (handler : HandlerId) : CircuitRecord :=
  let record := breaker.stored handler
  if record.state = .opened ∧ timeoutElapsed breaker.settings now record then
    { record with state := .halfOpen }
  else record

def isAvailable (breaker : Breaker) (now : UInt64) (handler : HandlerId) : Bool :=
  !breaker.settings.enabled || (breaker.effective now handler).state != .opened

def save (breaker : Breaker) (handler : HandlerId) (record : CircuitRecord) : Breaker :=
  { breaker with circuits := breaker.circuits.set handler record }

@[simp]
theorem stored_save_self (breaker : Breaker) (handler : HandlerId) (record : CircuitRecord) :
    (breaker.save handler record).stored handler = record := by
  simp [stored, save]

theorem stored_save_of_ne {handler other : HandlerId} (hne : other ≠ handler)
    (breaker : Breaker) (record : CircuitRecord) :
    (breaker.save handler record).stored other = breaker.stored other := by
  simp [stored, save, Table.get?_set_of_ne hne]

def afterFailure (settings : CircuitSettings) (now : UInt64) (record : CircuitRecord) :
    CircuitRecord :=
  let record := record.countFailure
  match record.state with
  | .halfOpen => record.trip now
  | .closed => if settings.threshold ≤ record.failureCount then record.trip now else record
  | .opened => record

def recordFailure (breaker : Breaker) (now : UInt64) (handler : HandlerId) : Breaker :=
  if breaker.settings.enabled then
    breaker.save handler (afterFailure breaker.settings now (breaker.effective now handler))
  else breaker

/-- What a successful probe does to a circuit that is half open. -/
def afterProbe (settings : CircuitSettings) (record : CircuitRecord) : CircuitRecord :=
  let record := record.countProbe
  if settings.halfOpenMax ≤ record.halfOpenAttempts then .unused else record

def recordSuccess (breaker : Breaker) (now : UInt64) (handler : HandlerId) : Breaker :=
  let record := breaker.effective now handler
  if breaker.settings.enabled ∧ record.state = .halfOpen then
    breaker.save handler (afterProbe breaker.settings record)
  else breaker

/-- Opens a circuit by hand. -/
def openCircuit (breaker : Breaker) (now : UInt64) (handler : HandlerId) : Breaker :=
  breaker.save handler ((breaker.stored handler).trip now)

def closeCircuit (breaker : Breaker) (handler : HandlerId) : Breaker :=
  breaker.save handler .unused

/-- Forgets a circuit. -/
def reset (breaker : Breaker) (handler : HandlerId) : Breaker :=
  { breaker with circuits := breaker.circuits.remove handler }

/-! ## What the breaker reports -/

def event (level : Level) (message : String) (handler : HandlerId)
    (fields : List (String × Value)) : LogEvent :=
  ⟨level, target, .message message, ("handler", .string handler) :: fields⟩

def word (value : UInt32) : Value := .ofNat value.toNat

def failureEvents (breaker : Breaker) (now : UInt64) (handler : HandlerId) : List LogEvent :=
  if breaker.settings.enabled then
    let record := (breaker.effective now handler).countFailure
    let count := ("failure_count", word record.failureCount)
    match record.state with
    | .halfOpen => [event .warn "Recovery probe failed, circuit reopened" handler [count]]
    | .closed =>
      if breaker.settings.threshold ≤ record.failureCount then
        [event .warn "Failure threshold reached, circuit opened" handler
          [count, ("threshold", word breaker.settings.threshold)]]
      else
        [event .debug "Recorded handler failure" handler
          [count, ("state", record.state.toValue)]]
    | .opened =>
      [event .debug "Recorded handler failure" handler [count, ("state", record.state.toValue)]]
  else []

def successEvents (breaker : Breaker) (now : UInt64) (handler : HandlerId) : List LogEvent :=
  let record := breaker.effective now handler
  if breaker.settings.enabled ∧ record.state = .halfOpen then
    let record := record.countProbe
    if breaker.settings.halfOpenMax ≤ record.halfOpenAttempts then
      [event .info "Recovery confirmed, circuit closed" handler []]
    else
      [event .debug "Recovery probe succeeded" handler
        [("attempts", word record.halfOpenAttempts),
         ("required", word breaker.settings.halfOpenMax)]]
  else []

def openEvents (handler : HandlerId) : List LogEvent :=
  [event .warn "Circuit opened manually" handler []]

def closeEvents (handler : HandlerId) : List LogEvent :=
  [event .info "Circuit closed manually" handler []]

def resetEvents (handler : HandlerId) : List LogEvent := [event .debug "Circuit reset" handler []]

def inspect (breaker : Breaker) : String :=
  Text.inspectRecord "CircuitBreaker" [("config", breaker.settings.inspect)]

end Breaker
end Plugboard
