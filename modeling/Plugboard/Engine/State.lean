import Plugboard.Engine.Command
/-!
# The state of an engine

An engine is a registry with everything that a dispatcher over it uses: the breaker and
its clock, a resolver for deferred handlers, queues, listeners, and the sets of muted and
silenced.  A run of code over it may stop in a panic, which leaves the state as it was at
that moment.
-/

namespace Plugboard

/-- Where handlers come from that are registered by id: a new instance each time, or
always the same. -/
inductive Source where
  | factory (code : HandlerCode Behaviour)
  | shared (handler : Handler Behaviour)

/-- A listener is told about every point of its kind, and may give a command then. -/
structure Listener where
  kind : PointKind
  name : String
  reaction : Option (Command Behaviour)

/-- Where timelines go. -/
inductive Sink where
  | events
  | log
  deriving DecidableEq, Repr

/-- The queue that a dispatcher hands calls to. -/
inductive QueueLink where
  | none
  | memory
  | timed
  /-- A queue of the user's own in front of the memory queue, which refuses every call. -/
  | refusing (error : QueueError)
  deriving DecidableEq, Repr

/-- The link once the user's own queue refuses calls, or hands them on to the memory queue
again.  A dispatcher without that queue keeps its link. -/
def QueueLink.refuse (link : QueueLink) (error : Option QueueError) : QueueLink :=
  match link, error with
  | .memory, some error | .refusing _, some error => .refusing error
  | .refusing _, Option.none => .memory
  | link, _ => link

/-- A run of a handler that came to its end. -/
structure HandlerRun where
  handler : HandlerId
  /-- Nanoseconds since the latest dispatch began. -/
  after : Nat
  outcome : HandlerResult

/-- An engine. -/
structure Engine where
  registry : Registry Behaviour
  breaker : Breaker
  clock : UInt64
  /-- The breaker reads the engine's clock and shares its store. -/
  sharesBreaker : Bool
  /-- Circuits stored apart while the breaker keeps its own. -/
  spareCircuits : Table HandlerId CircuitRecord
  settings : DispatchSettings
  usesResolver : Bool
  sources : Table HandlerId Source
  queueLink : QueueLink
  memory : MemoryQueue Behaviour
  timed : Option (TimedQueue Behaviour)
  /-- What the system's clock reads, in nanoseconds.  Unique keys expire by it, whatever time
  the worker waits by. -/
  uptime : Nat
  usesBus : Bool
  listeners : Table PointKind (List Listener)
  sink : Sink
  muted : Bag HandlerId
  silenced : Bool
  silenceDepth : Nat
  kept : Table (PointKind × String) PointBody
  nextSerial : Nat
  counters : Table Nat Nat
  runs : List HandlerRun
  dispatchedAt : Nat
  logLevel : Option Level
  /-- Events in the reverse of their order. -/
  events : List Event

/-- Why a run of code stops. -/
inductive Abort where
  | panic (message : String)
  /-- Behaviours are nested deeper than the evaluator follows. -/
  | exhausted
  deriving DecidableEq, Repr

/-- Code over an engine. -/
abbrev EngineM := ExceptT Abort (StateM Engine)

namespace Engine

def new (settings : DispatchSettings) (clock : UInt64) : Engine :=
  { registry := .empty
    breaker := ⟨settings.circuit, []⟩
    clock
    sharesBreaker := true
    spareCircuits := []
    settings
    usesResolver := true
    sources := []
    queueLink := .memory
    memory := .empty
    timed := none
    uptime := 0
    usesBus := true
    listeners := []
    sink := .events
    muted := []
    silenced := false
    silenceDepth := 0
    kept := []
    nextSerial := 0
    counters := []
    runs := []
    dispatchedAt := 0
    logLevel := none
    events := [] }

/-- The dispatcher is silenced by hand or by an open scope. -/
def isSilenced (engine : Engine) : Bool := engine.silenced || decide (0 < engine.silenceDepth)

def breakerTime (engine : Engine) : UInt64 := if engine.sharesBreaker then engine.clock else 0

/-- Time by which the handler runs are dated. -/
def time (engine : Engine) : Nat := (engine.timed.map TimedQueue.time).getD 0

/-- The event is kept, unless it is a log event that is not wanted. -/
def record (engine : Engine) (event : Event) : Engine :=
  match event with
  | .log entry =>
    match engine.logLevel with
    | some level =>
      if entry.level.rank ≤ level.rank then { engine with events := event :: engine.events }
      else engine
    | none => engine
  | _ => { engine with events := event :: engine.events }

def announce (event : Event) : EngineM Unit := modify fun engine => engine.record event

def log (event : LogEvent) : EngineM Unit := announce (.log event)

def logAll (events : List LogEvent) : EngineM Unit := events.forM log

/-- Runs code and then restores something, also if the code stops. -/
def leaving {α : Type} (code : EngineM α) (leave : Engine → Engine) : EngineM α :=
  ExceptT.mk fun engine =>
    let (outcome, engine) := code.run.run engine
    (outcome, leave engine)

/-- Runs code and turns a stop into a value. -/
def caught {α : Type} (code : EngineM α) : EngineM (Except Abort α) :=
  ExceptT.mk fun engine =>
    let (outcome, engine) := code.run.run engine
    (.ok outcome, engine)

/-- Makes an instance of a handler. -/
def instantiate (code : HandlerCode Behaviour) : EngineM (Handler Behaviour) := do
  let serial := (← get).nextSerial
  modify fun engine => { engine with nextSerial := serial + 1 }
  return { code with serial }

def nextCount (serial : Nat) : EngineM Nat := do
  let count := ((← get).counters.get? serial).getD 0
  modify fun engine => { engine with counters := engine.counters.set serial (count + 1) }
  return count

def resolve (id : HandlerId) : EngineM (Option (Handler Behaviour)) := do
  match (← get).sources.get? id with
  | none => return none
  | some (.shared handler) => return some handler
  | some (.factory code) => return some (← instantiate code)

def view (kind : PointKind) : EngineM (List (Entry Behaviour)) := do
  let registry := (← get).registry
  let entries := registry.view kind
  if registry.isForgotten kind then log (Registry.viewEvent kind entries.length)
  modify fun engine => { engine with registry := engine.registry.remember kind }
  return entries

/-! ## The breaker -/

def changeBreaker (change : Breaker → Breaker) : EngineM Unit :=
  modify fun engine => { engine with breaker := change engine.breaker }

def recordFailure (id : HandlerId) : EngineM Unit := do
  let now := (← get).breakerTime
  logAll ((← get).breaker.failureEvents now id)
  changeBreaker fun breaker => breaker.recordFailure now id

def recordSuccess (id : HandlerId) : EngineM Unit := do
  let now := (← get).breakerTime
  logAll ((← get).breaker.successEvents now id)
  changeBreaker fun breaker => breaker.recordSuccess now id

def recordOutcome (id : HandlerId) : HandlerResult → EngineM Unit
  | .ok _ => recordSuccess id
  | .error _ => recordFailure id

/-! ## Queues -/

/-- Hands a call to the queue that the dispatcher uses. -/
def enqueue (call : QueuedCall Behaviour) : EngineM (Except QueueError Unit) := do
  let engine ← get
  match engine.queueLink with
  | .none => return .error (.notConfigured call.handler.id)
  | .refusing error => return .error error
  | .memory =>
    modify fun engine => { engine with memory := engine.memory.enqueue call }
    return .ok ()
  | .timed =>
    match engine.timed with
    | none => return .error (.notConfigured call.handler.id)
    | some queue =>
      let (queue, outcome) := queue.enqueue engine.uptime call
      modify fun engine => { engine with timed := some queue }
      match outcome with
      | none => throw (.panic TimedQueue.overflowMessage)
      | some outcome =>
        logAll (queue.enqueueEvents call outcome)
        return outcome

end Engine
end Plugboard
