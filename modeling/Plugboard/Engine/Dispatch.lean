import Plugboard.Engine.State
/-!
# Dispatching

A dispatch takes the view of its kind once and visits the entries in order.  An entry
is skipped if its handler is muted or its circuit is open, handed to the queue if it is
queued, and run otherwise.  An error ends the dispatch unless it is graceful; a veto,
an interruption, or a satisfied strategy ends it early.
-/

namespace Plugboard

/-- How code outside the dispatcher is run: handlers on points, the resolver of deferred
handlers, the queue, and listeners. -/
structure Runner where
  run : Handler Behaviour → Point → EngineM (Point × HandlerResult)
  resolve : HandlerId → EngineM (Option (Handler Behaviour))
  enqueue : QueuedCall Behaviour → EngineM (Except QueueError Unit)
  tell : Listener → Point → EngineM Unit

/-- What one dispatch is asked to do. -/
structure DispatchPlan where
  flags : DispatchFlags
  notify : Bool
  strategy : Option Aggregation

/-- What a visit of an entry met. -/
inductive Encounter where
  | skipped (reason : SkipReason)
  /-- The handler could not be resolved or queued. -/
  | unprepared (error : DispatchError)
  | ran (outcome : HandlerResult)

/-- How a visit ends. -/
inductive VisitStep where
  /-- Recorded, and the next entry follows. -/
  | proceed (visit : Visit)
  /-- Recorded, and no entry follows. -/
  | stop (visit : Visit) (interruptedBy : Option HandlerId)
  /-- The dispatch fails; a handler that ran is recorded. -/
  | abort (visit : Option Visit) (error : DispatchError)

/-- What all visits together came to. -/
structure Tour where
  visits : List Visit
  interruptedBy : Option HandlerId
  error : Option DispatchError
  point : Point

namespace Tour

def still (point : Point) : Tour := ⟨[], none, none, point⟩

/-- The tour with one visit more in front. -/
def after (visit : Visit) (tour : Tour) : Tour := { tour with visits := visit :: tour.visits }

/-- What a tour for points of a kind recorded. -/
def result (kind : PointKind) (tour : Tour) : DispatchResult :=
  ⟨kind.name, tour.visits, tour.interruptedBy⟩

def timeline (kind : PointKind) (tour : Tour) : Timeline :=
  .ofVisits kind.name tour.visits tour.interruptedBy

end Tour

/-- The strategy of the plan, if it has one, needs no result after the value. -/
def DispatchPlan.isSatisfiedBy (plan : DispatchPlan) (value : Value) : Bool :=
  plan.strategy.any (fun strategy => strategy.isSatisfiedBy value)

namespace Dispatch

/-- The target of the dispatcher's log events. -/
def target : String := "junction_core::dispatcher"

def event (level : Level) (message : String) (fields : List (String × Value)) : LogEvent :=
  ⟨level, target, .message message, fields⟩

def about (handler : HandlerId) : String × Value := ("handler", .string handler)

/-! ## What a visit meets -/

/-- The handler that the resolver, if there is one, knows by an id. -/
def lookUp (runner : Runner) (id : HandlerId) : EngineM (Option (Handler Behaviour)) := do
  if (← get).usesResolver then runner.resolve id else return none

/-- The handler of an entry, which has to accept the point. -/
def handlerOf (runner : Runner) (kind : PointKind) (entry : Entry Behaviour) :
    EngineM (Except DispatchError (Handler Behaviour)) := do
  match entry.handler with
  | .live handler => return .ok handler
  | .deferred id =>
    match ← lookUp runner id with
    | none => return .error (.unresolved id)
    | some handler =>
      match checkSignature kind handler.toHandlerCode with
      | .ok () => return .ok handler
      | .error error => return .error (.registry error)

/-- The call that a copy of the point becomes. -/
def callOf (settings : DispatchSettings) (handler : Handler Behaviour) (plan : QueuePlan)
    (point : Point) : QueuedCall Behaviour :=
  { handler, payload := point, copies := plan.copies
    queue := plan.options.queue.getD settings.defaultQueue
    options := plan.options }

/-- Offers a copy of the point to the queue. -/
def offer (runner : Runner) (handler : Handler Behaviour) (plan : QueuePlan) (point : Point) :
    EngineM (Except QueueError Unit) := do
  let engine ← get
  if engine.queueLink = .none then return .error (.notConfigured handler.id)
  else if point.kind ≠ plan.copies then return .error (.payload point.kind.name)
  else runner.enqueue (callOf engine.settings handler plan point)

/-- Hands an entry to the queue.  A duplicate counts as queued. -/
def handOver (runner : Runner) (id : HandlerId) (handler : Handler Behaviour)
    (plan : QueuePlan) (point : Point) : EngineM Encounter := do
  match ← offer runner handler plan point with
  | .ok () =>
    Engine.log (event .trace "Handler queued" [about id])
    return .skipped .queued
  | .error (.duplicate key) =>
    Engine.log (event .debug "Duplicate job dropped" [about id, ("unique_key", .string key)])
    return .skipped .queued
  | .error error => return .unprepared (.queue error)

/-- The point after a handler ran on it: the value false interrupts, if the kind shows its
interruption. -/
def vetoed (kind : PointKind) (id : HandlerId) (outcome : HandlerResult) (point : Point) :
    Point :=
  match outcome with
  | .ok value =>
    if kind.access != .hidden && value == .bool false then
      point.modifyInterruption (fun state => state.interrupt id)
    else point
  | .error _ => point

def invoke (runner : Runner) (entry : Entry Behaviour) (handler : Handler Behaviour)
    (point : Point) : EngineM (Encounter × Point) := do
  Engine.log (event .trace "Invoking handler"
    [about entry.id, ("priority", .ofInt entry.priority)])
  let (left, outcome) ← runner.run handler point
  Engine.recordOutcome entry.id outcome
  return (.ran outcome, vetoed point.kind entry.id outcome left)

/-- Skips an entry, hands it to the queue, or runs it. -/
def encounter (runner : Runner) (entry : Entry Behaviour) (point : Point) :
    EngineM (Encounter × Point) := do
  let engine ← get
  if engine.muted.contains entry.id then
    Engine.log (event .trace "Handler muted, skipping" [about entry.id])
    return (.skipped .muted, point)
  else if !engine.breaker.isAvailable engine.breakerTime entry.id then
    Engine.log (event .debug "Circuit open, skipping" [about entry.id])
    return (.skipped .circuitOpen, point)
  else
    match ← handlerOf runner point.kind entry with
    | .error error => return (.unprepared error, point)
    | .ok handler =>
      match entry.queue with
      | some queuePlan => return (← handOver runner entry.id handler queuePlan point, point)
      | none => invoke runner entry handler point

/-! ## What follows from it -/

def haltOr (point : Point) (visit : Visit) (otherwise : VisitStep) : VisitStep :=
  match point.interrupter? with
  | some interrupter => .stop visit (some interrupter)
  | none => otherwise

/-- What follows from an encounter that left the point. -/
def verdict (plan : DispatchPlan) (id : HandlerId) (met : Encounter) (point : Point) :
    VisitStep :=
  match met with
  | .skipped reason => .proceed ⟨id, .skipped reason⟩
  | .unprepared error =>
    if plan.flags.graceful then .proceed ⟨id, .failure (.dispatch error)⟩
    else .abort none error
  | .ran (.ok value) =>
    haltOr point ⟨id, .success value⟩
      (if plan.isSatisfiedBy value then .stop ⟨id, .success value⟩ none
       else .proceed ⟨id, .success value⟩)
  | .ran (.error failure) =>
    if plan.flags.graceful then
      haltOr point ⟨id, .failure failure⟩ (.proceed ⟨id, .failure failure⟩)
    else .abort (some ⟨id, .failure failure⟩) (.handler id failure)

/-- What is logged of an interruption. -/
def haltEvents (point : Point) (otherwise : List LogEvent) : List LogEvent :=
  match point.interrupter? with
  | some interrupter => [event .debug "Dispatch interrupted" [about interrupter]]
  | none => otherwise

/-- What is logged of an encounter that left the point. -/
def verdictEvents (plan : DispatchPlan) (id : HandlerId) (met : Encounter) (point : Point) :
    List LogEvent :=
  match met with
  | .skipped _ => []
  | .unprepared error =>
    if plan.flags.graceful then
      [event .warn "Handler could not run, continuing"
        [about id, ("error", .string error.message)]]
    else []
  | .ran (.ok value) =>
    haltEvents point
      (if plan.isSatisfiedBy value then
        [event .trace "Result strategy satisfied, stopping" [about id]]
       else [])
  | .ran (.error failure) =>
    if plan.flags.graceful then
      event .warn "Handler failed, continuing"
        [about id, ("error", .string failure.message)] :: haltEvents point []
    else []

def visit (runner : Runner) (plan : DispatchPlan) (entry : Entry Behaviour) (point : Point) :
    EngineM (VisitStep × Point) := do
  let (met, left) ← encounter runner entry point
  Engine.logAll (verdictEvents plan entry.id met left)
  return (verdict plan entry.id met left, left)

/-- Visits entries until one stops or aborts. -/
def tour (runner : Runner) (plan : DispatchPlan) :
    List (Entry Behaviour) → Point → EngineM Tour
  | [], point => return .still point
  | entry :: rest, point => do
    let (step, left) ← visit runner plan entry point
    match step with
    | .stop record interruptedBy => return ⟨[record], interruptedBy, none, left⟩
    | .abort record error => return ⟨record.toList, none, some error, left⟩
    | .proceed record => return (← tour runner plan rest left).after record

/-! ## A whole dispatch -/

/-- Tells each listener for points of its kind about a point. -/
def tellAll (runner : Runner) (point : Point) : List Listener → EngineM Unit
  | [] => return ()
  | listener :: rest => do
    if listener.kind = point.kind then runner.tell listener point
    tellAll runner point rest

def notify (runner : Runner) (key : PointKind) (point : Point) : EngineM Unit := do
  match (← get).listeners.get? key with
  | none => return ()
  | some listeners =>
    Engine.log ⟨.trace, "junction_core::notify", .message "Notifying listeners",
      [("point", .string key.name), ("listeners", .ofNat listeners.length)]⟩
    tellAll runner point listeners

/-- Hands a timeline to the sink. -/
def report (timeline : Timeline) : EngineM Unit := do
  match (← get).sink with
  | .events => Engine.announce (.timeline timeline)
  | .log => Engine.logAll timeline.events

/-- The log event that a dispatch begins with. -/
def spanEvent (kind : PointKind) : LogEvent :=
  ⟨.debug, target, .span "dispatch", [("point", .string kind.name)]⟩

/-- The log event that a dispatch over so many entries ends with. -/
def completionEvent (entries : Nat) (result : DispatchResult) : LogEvent :=
  event .debug "Dispatch complete"
    [("handlers", .ofNat entries),
     ("succeeded", .ofNat result.successes.length),
     ("failed", .ofNat result.errors.length),
     ("skipped", .ofNat result.skipped.length),
     ("interrupted", .bool result.isInterrupted)]

/-- Hands the timeline of a tour to the sink, if the dispatch keeps one. -/
def reportTour (plan : DispatchPlan) (kind : PointKind) (tour : Tour) : EngineM Unit :=
  if plan.flags.debug then report (tour.timeline kind) else return ()

/-- Tells the listeners about a point, if the dispatch notifies. -/
def notifyOf (runner : Runner) (plan : DispatchPlan) (kind : PointKind) (point : Point) :
    EngineM Unit := do
  if plan.notify && (← get).usesBus then notify runner kind point

/-- Reports, notifies and answers once the visits to so many entries are over. -/
def conclude (runner : Runner) (plan : DispatchPlan) (kind : PointKind) (entries : Nat)
    (tour : Tour) : EngineM (Except DispatchError DispatchResult) := do
  reportTour plan kind tour
  match tour.error with
  | some error => return .error error
  | none =>
    notifyOf runner plan kind tour.point
    Engine.log (completionEvent entries (tour.result kind))
    return .ok (tour.result kind)

/-- One dispatch.  Gives the point back with the result or the error. -/
def dispatch (runner : Runner) (plan : DispatchPlan) (point : Point) :
    EngineM (Point × Except DispatchError DispatchResult) := do
  let kind := point.kind
  Engine.log (spanEvent kind)
  if (← get).isSilenced then
    Engine.log (event .trace "Dispatcher silenced, skipping" [])
    return (point, .ok (.empty kind.name))
  else
    let entries ← Engine.view kind
    if plan.flags.strict && entries.isEmpty then
      return (point, .error (.unhandled kind.name))
    else
      let tour ← tour runner plan entries (point.modifyInterruption fun _ => .fresh)
      return (tour.point, ← conclude runner plan kind entries.length tour)

end Dispatch
end Plugboard
