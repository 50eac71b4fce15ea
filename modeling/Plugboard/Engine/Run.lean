import Plugboard.Engine.Dispatch
import Plugboard.Clock
/-!
# Running behaviours and commands

Behaviours give commands and commands run behaviours.  The two are tied together by
`Powers`: what code that runs now can ask of the engine.  `Powers.within` builds them by
recursion on how deep the evaluator still follows.
-/

namespace Plugboard

/-- What running code can ask for: a command, and a dispatch of a blank point. -/
structure Powers where
  perform : Command Behaviour → EngineM Answer
  propagate : PointKind → Bool → EngineM (Except DispatchError DispatchResult)

namespace Behaviour

/-- Runs a behaviour of the handler instance `serial`. -/
def run (powers : Powers) (serial : Nat) : Behaviour → EngineM (PointBody × HandlerResult)
  | .finish body result => return (body, result)
  | .panic message => throw (.panic message)
  | .count resume => do
    let count ← Engine.nextCount serial
    run powers serial (resume count)
  | .announce event resume => do
    Engine.announce event
    run powers serial resume
  | .operate command resume => do
    let answer ← powers.perform command
    run powers serial (resume answer)
  | .propagate kind strict resume => do
    let outcome ← powers.propagate kind strict
    run powers serial (resume outcome)

end Behaviour

namespace Handler

/-- Runs a handler on a point.  A point of another kind is left alone. -/
def run (powers : Powers) (handler : Handler Behaviour) (point : Point) :
    EngineM (Point × HandlerResult) := do
  if handler.accepts = point.kind then
    let (body, outcome) ← (handler.react point.body).run powers handler.serial
    modify fun engine =>
      { engine with
        runs := engine.runs ++ [⟨handler.id, engine.time - engine.dispatchedAt, outcome⟩] }
    return ({ point with body }, outcome)
  else
    return (point, .error (.registry (.mismatch handler.id handler.accepts.name foreignPoint)))

end Handler

namespace QueuedCall

/-- Runs a queued call on a fresh copy of its payload. -/
def run (powers : Powers) (call : QueuedCall Behaviour) : EngineM HandlerResult := do
  match call.copy? with
  | some point => return (← call.handler.run powers point).2
  | none => return .error call.mismatch

def runs (powers : Powers) (call : QueuedCall Behaviour) : Nat → EngineM (List HandlerResult)
  | 0 => return []
  | times + 1 => do
    let first ← call.run powers
    return first :: (← runs powers call times)

end QueuedCall

namespace Powers

/-- How the dispatcher runs code outside itself. -/
def runner (powers : Powers) : Runner where
  run := Handler.run powers
  resolve := Engine.resolve
  enqueue := Engine.enqueue
  tell := fun listener point => do
    Engine.announce (.heard listener.name point)
    match listener.reaction with
    | some command => Engine.announce (.nested (← powers.perform command))
    | none => return ()

/-! ## Commands of the parts -/

def performBreaker : BreakerCommand → EngineM Answer
  | .isEnabled => return .flag (← get).breaker.settings.enabled
  | .settings => return .circuitSettings (← get).breaker.settings
  | .isAvailable id => do
    let engine ← get
    return .flag (engine.breaker.isAvailable engine.breakerTime id)
  | .state id => return .circuitState (← effective id).state
  | .effective id => return .circuit (← effective id)
  | .stored id => return (((← stored).get? id).map Answer.circuit).getD .nothing
  | .storedSize => return .size (← stored).length
  | .preset _ none => return .malformed
  | .preset id (some record) => do
    modify fun engine =>
      if engine.sharesBreaker then { engine with breaker := engine.breaker.save id record }
      else { engine with spareCircuits := engine.spareCircuits.set id record }
    return .done
  | .failure id times => do
    repeated (Engine.recordFailure id) times
    return .circuit (← effective id)
  | .success id times => do
    repeated (Engine.recordSuccess id) times
    return .circuit (← effective id)
  | .trip id => do
    let now := (← get).breakerTime
    Engine.logAll (Breaker.openEvents id)
    Engine.changeBreaker fun breaker => breaker.openCircuit now id
    return .circuit (← effective id)
  | .close id => do
    Engine.logAll (Breaker.closeEvents id)
    Engine.changeBreaker fun breaker => breaker.closeCircuit id
    return .circuit (← effective id)
  | .reset id => do
    Engine.logAll (Breaker.resetEvents id)
    Engine.changeBreaker fun breaker => breaker.reset id
    return .circuit (← effective id)
where
  effective (id : HandlerId) : EngineM CircuitRecord := do
    let engine ← get
    return engine.breaker.effective engine.breakerTime id
  stored : EngineM (Table HandlerId CircuitRecord) := do
    let engine ← get
    return if engine.sharesBreaker then engine.breaker.circuits else engine.spareCircuits
  repeated (code : EngineM Unit) : Nat → EngineM Unit
    | 0 => return ()
    | times + 1 => do
      code
      repeated code times

/-- Adds a registration and reports it. -/
def insert (registration : Registration Behaviour) : EngineM Nat := do
  let (registry, handle) := (← get).registry.insert registration
  Engine.log (Registry.insertEvent registration handle)
  modify fun engine => { engine with registry }
  return handle

def performRegistry : RegistryCommand Behaviour → EngineM Answer
  | .register code priority => do
    let handler ← Engine.instantiate code
    return .registered (← insert (.live handler priority))
  | .registerQueued code priority options => do
    let handler ← Engine.instantiate code
    return .registered (← insert ((Registration.live handler priority).queued options))
  | .registerDeferred kind id priority =>
    return .registered (← insert (.deferred kind id priority))
  | .registerFor kind code priority => do
    let handler ← Engine.instantiate code
    insertIf (Registry.registrationFor kind handler priority)
  | .registerNamed name code priority => do
    let handler ← Engine.instantiate code
    insertIf ((← get).registry.registrationNamed name handler priority)
  | .registerInScope scope code priority => do
    let handler ← Engine.instantiate code
    return .registered (← insert ((Registration.live handler priority).inScope scope))
  | .registerInGroup group code priority options => do
    let handler ← Engine.instantiate code
    let registration := Registration.live handler priority
    let registration :=
      match options with
      | some options => registration.queued options
      | none => registration
    return .registered (← insert (registration.inGroup group))
  | .registerDeferredInGroup group kind id priority => do
    let handle ← insert ((Registration.deferred kind id priority).inGroup group)
    return .registeredInGroup handle group
  | .declare kind => do
    change fun registry => registry.declare kind
    return .text kind.name
  | .declared name => do
    return (((← get).registry.declared.get? name).map Answer.declared).getD .nothing
  | .view kind full => do
    let views := (← Engine.view kind).map Entry.view
    return if full then .entries views else .view views
  | .hasHandlers kind => return .flag (!(← Engine.view kind).isEmpty)
  | .entry handle =>
    return (((← get).registry.entry? handle).map (fun entry => Answer.entry entry.view)).getD
      .nothing
  | .handleText handle => return .text (Registry.handleText handle)
  | .size => return .size (← get).registry.size
  | .stats => return .stats (← get).registry.stats
  | .hasTag handle tag =>
    return (((← get).registry.entry? handle).map (fun entry =>
      Answer.flag (entry.hasTag tag))).getD .nothing
  | .tag handle tags => do attempt ((← get).registry.tag handle tags)
  | .untag handle tag => do attempt ((← get).registry.untag handle tag)
  | .tagged tag => return .view (((← get).registry.tagged tag).map Entry.view)
  | .disableTag tag => do
    Engine.log (Registry.tagEvent "Disabling tag" tag)
    change fun registry => registry.disableTag tag
    return .done
  | .enableTag tag => do
    Engine.log (Registry.tagEvent "Enabling tag" tag)
    change fun registry => registry.enableTag tag
    return .done
  | .isTagDisabled tag => return .flag ((← get).registry.disabledTags.contains tag)
  | .groupMembers group => return .view (((← get).registry.groupMembers group).map Entry.view)
  | .disableGroup group => do
    Engine.log (Registry.groupEvent "Disabling group" group)
    change fun registry => registry.disableGroup group
    return .done
  | .enableGroup group => do
    Engine.log (Registry.groupEvent "Enabling group" group)
    change fun registry => registry.enableGroup group
    return .done
  | .isGroupDisabled group => return .flag ((← get).registry.disabledGroups.contains group)
  | .removeGroup group => do
    let (registry, removed) := (← get).registry.removeGroup group
    change fun _ => registry
    return .count removed
  | .clearScope scope => do
    let (registry, removed) := (← get).registry.clearScope scope
    change fun _ => registry
    Engine.log (Registry.scopeEvent scope removed)
    return .count removed
  | .remove handle => do attempt ((← get).registry.remove handle)
  | .removeHandler kind id => do
    let (registry, removed) := (← get).registry.removeHandler kind id
    change fun _ => registry
    return .count removed
  | .forget kind => do
    change fun registry => registry.forget kind
    return .done
  | .clear => do
    change fun registry => registry.clear
    return .done
where
  change (f : Registry Behaviour → Registry Behaviour) : EngineM Unit :=
    modify fun engine => { engine with registry := f engine.registry }
  attempt (outcome : Except RegistryError (Registry Behaviour)) : EngineM Answer := do
    match outcome with
    | .ok registry =>
      change fun _ => registry
      return .done
    | .error error => return .refused error
  insertIf (registration : Except RegistryError (Registration Behaviour)) :
      EngineM Answer := do
    match registration with
    | .ok registration => return .registered (← insert registration)
    | .error error => return .refused error

/-! ## Dispatching -/

/-- The point of a request: the one kept under its slot, or a new one. -/
def takePoint (request : DispatchRequest) : EngineM Point := do
  match request.slot with
  | none => return ⟨request.kind, request.body⟩
  | some slot =>
    let key := (request.kind, slot)
    match (← get).kept.get? key with
    | none => return ⟨request.kind, request.body⟩
    | some body =>
      modify fun engine => { engine with kept := engine.kept.remove key }
      return ⟨request.kind, body⟩

/-- Keeps the point of a request under its slot. -/
def keepPoint (request : DispatchRequest) (point : Point) : EngineM Unit :=
  match request.slot with
  | none => return ()
  | some slot =>
    modify fun engine => { engine with kept := engine.kept.set (request.kind, slot) point.body }

/-- What a result says about one handler. -/
def lookup (result : DispatchResult) (id : HandlerId) : HandlerLookup :=
  ⟨result.success? id, result.error? id, result.skipReason? id⟩

def answerResult (request : DispatchRequest) (result : DispatchResult) (point : Point) : Answer :=
  match request.mode with
  | .plain | .silent => .completed point
  | .interruptible | .interruptibleSilent => .verdict (!result.isInterrupted) point
  | .results =>
    .results result (request.lookup.map fun ids => ids.map (lookup result))
      (request.strategy.map result.aggregate) point
  | .aggregate =>
    match request.strategy with
    | some strategy => .aggregated (result.aggregate strategy) point
    | none => .unsupported

def performDispatch (powers : Powers) (request : DispatchRequest) : EngineM Answer := do
  modify fun engine => { engine with dispatchedAt := engine.time }
  let point ← takePoint request
  let flags := DispatchFlags.ofSettings (← get).settings
  let plan : DispatchPlan :=
    { flags := (request.flags.map flags.choose).getD flags
      notify := request.mode.notifies
      strategy := if request.mode = .aggregate then request.strategy.map Strategy.aggregation
        else none }
  let (point, outcome) ← Dispatch.dispatch powers.runner plan point
  match outcome with
  | .ok result =>
    keepPoint request point
    return answerResult request result point
  | .error error =>
    if request.mode.consumesPoint then return .failed error none
    else
      keepPoint request point
      return .failed error (some point)

/-- Dispatches a blank point of a kind in the middle of a handler's run. -/
def propagateBlank (powers : Powers) (kind : PointKind) (strict : Bool) :
    EngineM (Except DispatchError DispatchResult) := do
  let flags := DispatchFlags.ofSettings (← get).settings
  let plan : DispatchPlan := ⟨{ flags with strict }, true, none⟩
  return (← Dispatch.dispatch powers.runner plan (.blank kind)).2

/-! ## Scopes -/

/-- Mutes those handlers that are not muted yet, and returns them. -/
def muteAll (ids : List HandlerId) : EngineM (List HandlerId) := do
  let before := (← get).muted
  let after := ids.foldl (fun muted id => Bag.add id muted) before
  modify fun engine => { engine with muted := after }
  return List.drop before.length after

def performAll (powers : Powers) : List (Command Behaviour) → EngineM (List Answer)
  | [] => return []
  | command :: rest => do
    let answer ← powers.perform command
    return answer :: (← performAll powers rest)

/-! ## Queues -/

def drainMemory : EngineM (List (QueuedCall Behaviour)) := do
  let (calls, memory) := (← get).memory.drain
  modify fun engine => { engine with memory }
  return calls

def drained (powers : Powers) (times : Nat) :
    List (QueuedCall Behaviour) → EngineM (List DrainedCall)
  | [] => return []
  | call :: rest => do
    let runs ← call.runs powers times
    let record : DrainedCall :=
      ⟨call.handler.id, call.payload.kind.name, call.queue, call.options, runs⟩
    return record :: (← drained powers times rest)

def runAll (powers : Powers) :
    List (QueuedCall Behaviour) → EngineM (List (HandlerId × HandlerResult))
  | [] => return []
  | call :: rest => do
    let outcome ← call.run powers
    return (call.handler.id, outcome) :: (← runAll powers rest)

/-! ## Everything -/

def inspectBus (engine : Engine) : String :=
  Text.inspectRecord "EventBus"
    [("point_types", toString engine.listeners.length),
     ("listeners", toString (engine.listeners.foldl (fun count entry => count + entry.2.length) 0))]

def inspectDispatcher (engine : Engine) : String :=
  Text.inspectRecord "Dispatcher"
    [("registry", engine.registry.inspect), ("breaker", engine.breaker.inspect),
     ("config", engine.settings.inspect), ("muted", toString engine.muted.length),
     ("silenced", Text.inspectBool engine.isSilenced)]

def inspectHandler (code : HandlerCode Behaviour) : String :=
  Text.inspectRecord "ErasedHandler"
    [("id", Text.inspectVariant "HandlerId" [Text.inspectString code.id]),
     ("accepts", Text.inspectString code.accepts.name)]

def inspectAnswer (engine : Engine) : Inspection Behaviour → Answer
  | .registry => .text engine.registry.inspect
  | .dispatcher => .text (inspectDispatcher engine)
  | .call choice => .text ((DispatchFlags.ofSettings engine.settings).choose choice).inspect
  | .breaker => .text engine.breaker.inspect
  | .bus => .text (inspectBus engine)
  | .resolver =>
    .text (Text.inspectRecord "FactoryResolver"
      [("factory_count", toString engine.sources.length)])
  | .queue => .text engine.memory.inspect
  | .timedQueue => .text (Text.inspectOption (engine.timed.map TimedQueue.inspect))
  | .handler code => .text (inspectHandler code)
  | .entry handle =>
    ((engine.registry.entry? handle).map (fun entry => Answer.text entry.view.inspect)).getD
      .nothing

def performWith (powers : Powers) : Command Behaviour → EngineM Answer
  | .registry command => performRegistry command
  | .breaker command => performBreaker command
  | .advanceClock elapsed => do
    modify fun engine => { engine with clock := Clock.advance engine.clock elapsed }
    return .time (← get).clock
  | .setClock time => do
    modify fun engine => { engine with clock := time }
    return .time time
  | .mute id => do
    Engine.log (Dispatch.event .debug "Handler muted" [Dispatch.about id])
    modify fun engine => { engine with muted := Bag.add id engine.muted }
    return .done
  | .unmute id => do
    modify fun engine => { engine with muted := Bag.drop id engine.muted }
    return .done
  | .isMuted id => return .flag ((← get).muted.contains id)
  | .muted ids commands => do
    let added ← muteAll ids
    let answers ← Engine.leaving (performAll powers commands) fun engine =>
      { engine with muted := added.foldl (fun muted id => Bag.drop id muted) engine.muted }
    return .list answers
  | .silence commands => do
    modify fun engine => { engine with silenceDepth := engine.silenceDepth + 1 }
    let answers ← Engine.leaving (performAll powers commands) fun engine =>
      { engine with silenceDepth := engine.silenceDepth - 1 }
    return .list answers
  | .silenceOn => do
    Engine.log (Dispatch.event .debug "Dispatcher silenced" [])
    modify fun engine => { engine with silenced := true }
    return .done
  | .resume => do
    Engine.log (Dispatch.event .debug "Dispatcher resumed" [])
    modify fun engine => { engine with silenced := false }
    return .done
  | .isSilenced => return .flag (← get).isSilenced
  | .subscribe kind name reaction => do
    modify fun engine =>
      let before := (engine.listeners.get? kind).getD []
      { engine with listeners := engine.listeners.set kind (before ++ [⟨kind, name, reaction⟩]) }
    return .done
  | .listenerCount kind => return .count (((← get).listeners.get? kind).getD []).length
  | .unsubscribeAll kind => do
    modify fun engine => { engine with listeners := engine.listeners.remove kind }
    return .done
  | .notify key point => do
    Dispatch.notify powers.runner key point
    return .done
  | .addFactory id code => do
    modify fun engine => { engine with sources := engine.sources.set id (.factory code) }
    return .done
  | .addInstance id code => do
    let handler ← Engine.instantiate code
    modify fun engine => { engine with sources := engine.sources.set id (.shared handler) }
    return .done
  | .canResolve id => return .flag ((← get).sources.has id)
  | .resolve id => do
    match ← Engine.resolve id, ← Engine.resolve id with
    | some first, some second =>
      return .resolved first.id first.accepts (first.serial == second.serial)
    | _, _ => return .nothing
  | .refuseCalls error => do
    modify fun engine => { engine with queueLink := engine.queueLink.refuse error }
    return .done
  | .queueSize => return .size (← get).memory.calls.length
  | .drainQueue times => do
    let calls ← drainMemory
    return .drained (← drained powers times calls)
  | .queuePayloads kind => do
    let calls ← drainMemory
    return .payloads (calls.map fun call =>
      if call.payload.kind = kind then some call.payload else none)
  | .runPending => do
    let calls ← drainMemory
    return .outcomes (← runAll powers calls)
  | .dispatch request => performDispatch powers request
  | .peek kind slot =>
    return (((← get).kept.get? (kind, slot)).map (fun body => Answer.point ⟨kind, body⟩)).getD
      .nothing
  | .settings => return .settings (← get).settings
  | .call code point => do
    let handler ← Engine.instantiate code
    let (point, outcome) ← handler.run powers point
    return .called outcome point
  | .checkSignature code kind =>
    match checkSignature kind code with
    | .ok () => return .done
    | .error error => return .refused error
  | .inspect what => return inspectAnswer (← get) what

/-- The powers of code that runs in a command at nesting `depth`, where commands nest as deep
as `nesting` and no deeper, for an evaluator that follows `fuel` more levels. -/
def within (nesting : Nat) : (fuel depth : Nat) → Powers
  | 0, _ =>
    { perform := fun _ => throw .exhausted, propagate := fun _ _ => throw .exhausted }
  | fuel + 1, depth =>
    { perform := fun command =>
        if depth < nesting then performWith (within nesting fuel (depth + 1)) command
        else return .tooDeep
      propagate := propagateBlank (within nesting fuel depth) }

end Powers

namespace Engine

/-- Levels of nesting that the evaluator follows. -/
def fuel : Nat := 400

/-- Performs a command that is not part of another. -/
def perform (nesting : Nat) (command : Command Behaviour) : EngineM Answer :=
  Powers.performWith (Powers.within nesting fuel 1) command

end Engine
end Plugboard
