import Plugboard.Engine.Worker
import Plugboard.Settings.Validation
/-!
# Sessions

A session sets an engine up and performs steps on it one after the other.  Every step
gives an answer and the events noticed meanwhile; a panic in a step is its answer.
-/

namespace Plugboard

/-- Which queue a session starts with. -/
inductive QueueChoice where
  | none
  | memory
  | timed (name : String) (capacity : Nat)

/-- How a session is set up. -/
structure SessionSetup where
  settings : DispatchSettings
  clock : UInt64
  usesBus : Bool
  usesResolver : Bool
  queue : QueueChoice
  sink : Sink
  logLevel : Option Level
  /-- There is a runtime that workers can run on. -/
  hasRuntime : Bool

/-- Why a session does not start. -/
inductive SetupError where
  | noRuntime
  | settings (error : SettingsError)

/-- The text for a queue that nothing can run. -/
def SetupError.noRuntimeMessage : String := "Queue worker requires a running tokio runtime"

def SetupError.message : SetupError → String
  | .noRuntime => noRuntimeMessage
  | .settings error => error.message

/-- A step of a session. -/
inductive Step where
  | command (command : Command Behaviour)
  | drain
  | shutdown
  | stats
  | queueName
  | wait (milliseconds : Nat)
  /-- Time passes by the system's clock. -/
  | elapse (nanoseconds : Nat)

/-- What a step answers. -/
inductive StepAnswer where
  | answer (answer : Answer)
  | report (stats : QueueStats) (closed : Bool) (runs : List HandlerRun)
  | panicked (message : String)

namespace Session

/-- The engine of a session. -/
def start (setup : SessionSetup) : Except SetupError Engine :=
  let engine : Engine :=
    { Engine.new setup.settings setup.clock with
      usesBus := setup.usesBus
      usesResolver := setup.usesResolver
      sink := setup.sink
      logLevel := setup.logLevel }
  match setup.queue with
  | .none => .ok { engine with queueLink := .none }
  | .memory => .ok { engine with queueLink := .memory }
  | .timed name capacity =>
    if setup.hasRuntime then
      let queue := TimedQueue.start name capacity
      .ok ({ engine with queueLink := .timed, timed := some queue }.record (.log queue.startEvent))
    else .error .noRuntime

/-- The target of the log events about assembling an application. -/
def assemblyTarget : String := "junction_runtime::junction"

/-- The engine of an application with the given settings. -/
def assemble (settings : Settings) (hasRuntime : Bool) (clock : UInt64) (logLevel : Option Level) :
    Except SetupError Engine :=
  match settings.validated with
  | .error error => .error (.settings error)
  | .ok settings =>
    let engine : Engine :=
      { Engine.new settings.dispatch clock with
        sharesBreaker := false
        usesResolver := false
        usesBus := false
        queueLink := if hasRuntime then .timed else .none
        timed :=
          if hasRuntime then
            some (.start settings.queue.defaultQueue settings.queue.capacity.toNat)
          else none
        sink := .log
        logLevel }
    let queueEvent : LogEvent :=
      match engine.timed with
      | some queue => queue.startEvent
      | none =>
        ⟨.debug, assemblyTarget, .message "No tokio runtime, queue worker not started", []⟩
    let summary : LogEvent :=
      ⟨.info, assemblyTarget, .message "Junction assembled",
        [("graceful", .bool settings.modes.graceful), ("strict", .bool settings.modes.strict),
         ("debug", .bool settings.modes.debug), ("breaker", .bool settings.circuit.enabled),
         ("queue", .bool hasRuntime)]⟩
    .ok ((engine.record (.log queueEvent)).record (.log summary))

/-- What the queue did, with the handler runs since the last report. -/
def report : EngineM StepAnswer := do
  match (← get).timed with
  | some queue => return .report queue.stats queue.closed (← Engine.takeRuns)
  | none => return .answer .unsupported

def perform (nesting : Nat) : Step → EngineM StepAnswer
  | .command command => return .answer (← Engine.perform nesting command)
  | .drain => do
    Engine.drainTimed nesting
    report
  | .shutdown => do
    Engine.shutdownTimed
    report
  | .stats => report
  | .queueName => do
    match (← get).timed with
    | some queue => return .answer (.text queue.name)
    | none => return .answer .unsupported
  | .wait milliseconds => do
    Engine.waitTimed nesting milliseconds
    return .answer .done
  | .elapse nanoseconds => do
    modify fun engine => { engine with uptime := engine.uptime + nanoseconds }
    return .answer .done

/-- How a step that was stopped reads. -/
def stopText : Abort → String
  | .panic message => message
  | .exhausted => "stack exhausted"

/-- Performs one step and takes the events noticed so far. -/
def step (nesting : Nat) (engine : Engine) (step : Step) : Engine × StepAnswer × List Event :=
  let (outcome, engine) := (perform nesting step).run.run engine
  let answer :=
    match outcome with
    | .ok answer => answer
    | .error abort => .panicked (stopText abort)
  ({ engine with events := [] }, answer, engine.events.reverse)

def run (nesting : Nat) (engine : Engine) : List Step → List (StepAnswer × List Event)
  | [] => []
  | first :: rest =>
    let (engine, answer, events) := step nesting engine first
    (answer, events) :: run nesting engine rest

end Session
end Plugboard
