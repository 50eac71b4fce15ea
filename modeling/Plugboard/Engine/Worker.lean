import Plugboard.Engine.Run
/-!
# The worker of the timed queue

The worker reads accepted calls, moves the time to the next attempt and runs it.  A
handler that keeps handing calls to the queue can keep the worker busy for ever, so the
number of attempts is bounded by fuel.
-/

namespace Plugboard

namespace Engine

/-- Runs an attempt; a panic ends the attempt and not the worker. -/
def attempt (nesting : Nat) (waiting : Waiting Behaviour) : EngineM AttemptOutcome := do
  match ← caught (waiting.call.run (Powers.within nesting fuel 1)) with
  | .ok (.ok value) => return .value value
  | .ok (.error failure) => return .failure failure
  | .error (.panic message) => return .panic message
  | .error .exhausted => throw .exhausted

def changeTimed (change : TimedQueue Behaviour → TimedQueue Behaviour) : EngineM Unit :=
  modify fun engine => { engine with timed := engine.timed.map change }

/-- Takes out the next attempt that is due before a limit. -/
def nextAttempt (limit : Option Nat) : EngineM (Option (Waiting Behaviour)) := do
  changeTimed TimedQueue.receive
  match (← get).timed.bind TimedQueue.next? with
  | none => return none
  | some (waiting, queue) =>
    if limit.all (fun limit => waiting.due < limit) then
      changeTimed fun _ => queue
      return some waiting
    else return none

/-- Runs the attempts that are due before a limit, or all of them.  Calls that an attempt
hands to the queue begin to wait before the attempt is settled. -/
def work (nesting : Nat) (limit : Option Nat) : Nat → EngineM Unit
  | 0 => throw .exhausted
  | attempts + 1 => do
    match ← nextAttempt limit with
    | none => return ()
    | some waiting =>
      let outcome ← attempt nesting waiting
      changeTimed TimedQueue.receive
      log (TimedQueue.settleEvent waiting outcome)
      changeTimed fun queue => queue.settle waiting outcome
      work nesting limit attempts

/-- Attempts that a caller waits for. -/
def attemptLimit : Nat := 1000000

/-- Waits until no accepted call is pending, looking again in intervals. -/
def drainTimed (nesting : Nat) : EngineM Unit := do
  match (← get).timed with
  | none => return ()
  | some queue =>
    if queue.isDrained then return ()
    else
      work nesting none attemptLimit
      changeTimed fun after => after.advanceTo (TimedQueue.nextPoll queue.time after.time)

def waitTimed (nesting milliseconds : Nat) : EngineM Unit := do
  match (← get).timed with
  | none => return ()
  | some queue =>
    let deadline := queue.time + milliseconds * Duration.perMillisecond
    work nesting (some deadline) attemptLimit
    changeTimed fun queue => queue.advanceTo deadline

def shutdownTimed : EngineM Unit := do
  match (← get).timed with
  | none => return ()
  | some queue =>
    logAll queue.shutdownEvents
    changeTimed TimedQueue.shutdown

/-- Takes the record of handler runs since the last time. -/
def takeRuns : EngineM (List HandlerRun) := do
  let runs := (← get).runs
  modify fun engine => { engine with runs := [] }
  return runs

end Engine
end Plugboard
