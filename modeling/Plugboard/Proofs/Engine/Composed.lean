import Plugboard.Proofs.Engine.Program

/-!
# Code and its steps

All code over an engine is put together from a few kinds of steps: what handlers do, dispatches,
and commands, however deep they are nested.  So a property that comes through sequencing and that
these steps have is one of everything that an engine is used for.
-/

namespace Plugboard

open Engine

/-- What most steps leave alone: the registry, the calls in the queues, the bus, and what is muted
or silenced. -/
def Engine.essence (engine : Engine) :
    Registry Behaviour × List (QueuedCall Behaviour) × Option (TimedQueue Behaviour) ×
      Bool × Table PointKind (List Listener) × Bag HandlerId × Bool × Nat :=
  (engine.registry, engine.memory.calls, engine.timed, engine.usesBus, engine.listeners,
    engine.muted, engine.silenced, engine.silenceDepth)

/-- A property of code that comes through sequencing and that the smallest steps have. -/
structure CodeProperty where
  holds : {α : Type} → EngineM α → Prop
  value : ∀ {α : Type} (value : α), holds (pure value)
  stop : ∀ {α : Type} (abort : Abort), holds (throw abort : EngineM α)
  look : holds get
  bind : ∀ {α β : Type} {first : EngineM α} {next : α → EngineM β}, holds first →
    (∀ given, holds (next given)) → holds (first >>= next)
  change : ∀ {change : Engine → Engine}, (∀ engine, (change engine).essence = engine.essence) →
    holds (modify change)
  deed : ∀ deed : Deed, holds (modify deed.apply)
  around : ∀ {α : Type} {code : EngineM α} (scope : Scope), holds code → holds (scope.around code)
  registry : ∀ command, holds (Powers.performRegistry command)
  view : ∀ kind, holds (Engine.view kind)
  subscribe : ∀ listener : Listener, holds (modify fun engine =>
    { engine with
      listeners := engine.listeners.set listener.kind
        ((engine.listeners.get? listener.kind).getD [] ++ [listener]) })
  unsubscribeAll : ∀ kind, holds (modify fun engine =>
    { engine with listeners := engine.listeners.remove kind })
  enqueue : ∀ call, holds (Engine.enqueue call)
  drain : holds Powers.drainMemory

namespace Engine

theorem essence_of_bare_eq {before after : Engine} (hbare : after.bare = before.bare) :
    after.essence = before.essence :=
  eq_of_bare_eq essence (fun _ => rfl) hbare

section

variable {property : CodeProperty} {α β : Type}

def Has (property : CodeProperty) (code : EngineM α) : Prop := property.holds code

theorem has_pure (value : α) : Has property (pure value) := property.value value

theorem has_throw (abort : Abort) : Has property (throw abort : EngineM α) := property.stop abort

theorem has_get : Has property get := property.look

theorem has_modify {change : Engine → Engine}
    (hsame : ∀ engine, (change engine).essence = engine.essence) :
    Has property (modify change) :=
  property.change hsame

theorem Has.bind {first : EngineM α} {next : α → EngineM β} (hfirst : Has property first)
    (hnext : ∀ given, Has property (next given)) : Has property (first >>= next) :=
  property.bind hfirst hnext

theorem Has.around {code : EngineM α} (hcode : Has property code) (scope : Scope) :
    Has property (scope.around code) :=
  property.around scope hcode

theorem has_announce (event : Event) : Has property (announce event) :=
  has_modify fun engine => essence_of_bare_eq (bare_record engine event)

theorem has_log (event : LogEvent) : Has property (log event) := has_announce _

theorem has_logAll (events : List LogEvent) : Has property (logAll events) := by
  induction events with
  | nil => exact has_pure PUnit.unit
  | cons event rest ih =>
      change Has property (log event >>= fun _ => logAll rest)
      exact (has_log event).bind fun _ => ih

/-! ## Parts of the engine -/

theorem has_instantiate (code : HandlerCode Behaviour) : Has property (instantiate code) :=
  .bind has_get fun _ =>
    .bind (has_modify fun _ => rfl) fun _ => has_pure _

theorem has_nextCount (serial : Nat) : Has property (nextCount serial) :=
  .bind has_get fun _ =>
    .bind (has_modify fun _ => rfl) fun _ => has_pure _

theorem has_resolve (id : HandlerId) : Has property (resolve id) := by
  refine .bind has_get fun engine => ?_
  split
  · exact has_pure _
  · exact has_pure _
  · exact .bind (has_instantiate _) fun _ => has_pure _

theorem has_view (kind : PointKind) : Has property (view kind) :=
  property.view kind

theorem has_changeBreaker (change : Breaker → Breaker) : Has property (changeBreaker change) :=
  has_modify fun _ => rfl

theorem has_recordFailure (id : HandlerId) : Has property (recordFailure id) :=
  .bind has_get fun _ => .bind has_get fun _ =>
    .bind (has_logAll _) fun _ => has_changeBreaker _

theorem has_recordSuccess (id : HandlerId) : Has property (recordSuccess id) :=
  .bind has_get fun _ => .bind has_get fun _ =>
    .bind (has_logAll _) fun _ => has_changeBreaker _

theorem has_recordOutcome (id : HandlerId) (outcome : HandlerResult) :
    Has property (recordOutcome id outcome) := by
  cases outcome with
  | ok value => exact has_recordSuccess id
  | error failure => exact has_recordFailure id

theorem has_enqueue (call : QueuedCall Behaviour) : Has property (enqueue call) :=
  property.enqueue call

end

end Engine

open Engine

variable {property : CodeProperty}

/-! ## Dispatches -/

/-- The code outside the dispatcher has the property. -/
structure Runner.Having (property : CodeProperty) (runner : Runner) : Prop where
  run : ∀ handler point, Has property (runner.run handler point)
  resolve : ∀ id, Has property (runner.resolve id)
  enqueue : ∀ call, Has property (runner.enqueue call)
  tell : ∀ listener point, Has property (runner.tell listener point)

namespace Dispatch

variable {runner : Runner} (hrunner : runner.Having property)

include hrunner

theorem has_handlerOf (kind : PointKind) (entry : Entry Behaviour) :
    Has property (handlerOf runner kind entry) := by
  have hlookup (id : HandlerId) : Has property (lookUp runner id) := by
    refine .bind has_get fun engine => ?_
    split
    · exact hrunner.resolve id
    · exact has_pure _
  unfold handlerOf
  split
  · exact has_pure _
  · refine .bind (hlookup _) fun found => ?_
    split
    · exact has_pure _
    · split <;> exact has_pure _

theorem has_handOver (id : HandlerId) (handler : Handler Behaviour) (plan : QueuePlan)
    (point : Point) : Has property (handOver runner id handler plan point) := by
  have hoffer : Has property (offer runner handler plan point) := by
    refine .bind has_get fun engine => ?_
    split
    · exact has_pure _
    · split
      · exact has_pure _
      · exact hrunner.enqueue _
  refine .bind hoffer fun outcome => ?_
  split
  · exact .bind (has_log _) fun _ => has_pure _
  · exact .bind (has_log _) fun _ => has_pure _
  · exact has_pure _

theorem has_invoke (entry : Entry Behaviour) (handler : Handler Behaviour) (point : Point) :
    Has property (invoke runner entry handler point) :=
  .bind (has_log _) fun _ => .bind (hrunner.run handler point) fun _ =>
    .bind (has_recordOutcome _ _) fun _ => has_pure _

theorem has_encounter (entry : Entry Behaviour) (point : Point) :
    Has property (encounter runner entry point) := by
  refine .bind has_get fun engine => ?_
  split
  · exact .bind (has_log _) fun _ => has_pure _
  · split
    · exact .bind (has_log _) fun _ => has_pure _
    · refine .bind (has_handlerOf hrunner _ _) fun found => ?_
      split
      · exact has_pure _
      · split
        · exact .bind (has_handOver hrunner _ _ _ _) fun _ => has_pure _
        · exact has_invoke hrunner _ _ _

theorem has_visit (plan : DispatchPlan) (entry : Entry Behaviour) (point : Point) :
    Has property (visit runner plan entry point) :=
  .bind (has_encounter hrunner entry point) fun _ =>
    .bind (has_logAll _) fun _ => has_pure _

theorem has_tour (plan : DispatchPlan) (entries : List (Entry Behaviour)) (point : Point) :
    Has property (tour runner plan entries point) := by
  induction entries generalizing point with
  | nil => exact has_pure _
  | cons entry rest ih =>
      refine .bind (has_visit hrunner plan entry point) fun ⟨step, left⟩ => ?_
      cases step with
      | stop | abort => exact has_pure _
      | proceed => exact .bind (ih _) fun _ => has_pure _

theorem has_notify (key : PointKind) (point : Point) : Has property (notify runner key point) := by
  have htell (listeners : List Listener) : Has property (tellAll runner point listeners) := by
    induction listeners with
    | nil => exact has_pure _
    | cons listener rest ih =>
        unfold tellAll
        split
        · exact .bind (hrunner.tell listener point) fun _ => ih
        · exact ih
  refine .bind has_get fun engine => ?_
  split
  · exact has_pure _
  · exact .bind (has_log _) fun _ => htell _

omit hrunner in
theorem has_reportTour (plan : DispatchPlan) (kind : PointKind) (tour : Tour) :
    Has property (reportTour plan kind tour) := by
  unfold reportTour
  split
  · refine .bind has_get fun engine => ?_
    split
    · exact has_announce _
    · exact has_logAll _
  · exact has_pure _

theorem has_conclude (plan : DispatchPlan) (kind : PointKind) (entries : Nat) (tour : Tour) :
    Has property (conclude runner plan kind entries tour) := by
  have hnotify : Has property (notifyOf runner plan kind tour.point) := by
    refine .bind has_get fun engine => ?_
    split
    · exact has_notify hrunner _ _
    · exact has_pure _
  refine .bind (has_reportTour _ _ _) fun _ => ?_
  split
  · exact has_pure _
  · exact .bind hnotify fun _ => .bind (has_log _) fun _ => has_pure _

/-- A dispatch has the property if the code outside the dispatcher has it. -/
theorem has_dispatch (plan : DispatchPlan) (point : Point) :
    Has property (dispatch runner plan point) := by
  refine .bind (has_log _) fun _ => .bind has_get fun engine => ?_
  split
  · exact .bind (has_log _) fun _ => has_pure _
  · refine .bind (has_view _) fun entries => ?_
    split
    · exact has_pure _
    · exact .bind (has_tour hrunner _ _ _) fun _ =>
        .bind (has_conclude hrunner _ _ _ _) fun _ => has_pure _

end Dispatch

/-! ## Handlers -/

/-- What code can ask for has the property. -/
structure Powers.Having (property : CodeProperty) (powers : Powers) : Prop where
  perform : ∀ command, Has property (powers.perform command)
  propagate : ∀ kind strict, Has property (powers.propagate kind strict)

section

variable {powers : Powers} (hpowers : powers.Having property)

include hpowers

/-- A behaviour has the property if what it can ask for has it. -/
theorem Behaviour.has_run (serial : Nat) :
    ∀ behaviour : Behaviour, Has property (behaviour.run powers serial)
  | .finish _ _ => has_pure _
  | .panic _ => has_throw _
  | .count resume =>
      .bind (has_nextCount serial) fun count => has_run serial (resume count)
  | .announce event resume =>
      .bind (has_announce event) fun _ => has_run serial resume
  | .operate command resume =>
      .bind (hpowers.perform command) fun answer => has_run serial (resume answer)
  | .propagate kind strict resume =>
      .bind (hpowers.propagate kind strict) fun outcome => has_run serial (resume outcome)

theorem Handler.has_run (handler : Handler Behaviour) (point : Point) :
    Has property (handler.run powers point) := by
  unfold Handler.run
  split
  · exact .bind (Behaviour.has_run hpowers _ _) fun _ =>
      .bind (has_modify fun _ => rfl) fun _ => has_pure _
  · exact has_pure _

theorem QueuedCall.has_run (call : QueuedCall Behaviour) :
    Has property (call.run powers) := by
  unfold QueuedCall.run
  split
  · exact .bind (Handler.has_run hpowers _ _) fun _ => has_pure _
  · exact has_pure _

theorem QueuedCall.has_runs (call : QueuedCall Behaviour) (times : Nat) :
    Has property (call.runs powers times) := by
  induction times with
  | zero => exact has_pure _
  | succ times ih =>
      exact .bind (QueuedCall.has_run hpowers call) fun _ =>
        .bind ih fun _ => has_pure _

end

/-! ## Commands -/

namespace Powers

theorem has_performBreaker (command : BreakerCommand) :
    Has property (performBreaker command) := by
  have heffective (id : HandlerId) : Has property (performBreaker.effective id) :=
    .bind has_get fun _ => has_pure _
  have hstored : Has property performBreaker.stored :=
    .bind has_get fun _ => has_pure _
  have hrepeated {code : EngineM Unit} (hcode : Has property code) (times : Nat) :
      Has property (performBreaker.repeated code times) := by
    induction times with
    | zero => exact has_pure _
    | succ times ih => exact .bind hcode fun _ => ih
  cases command with
  | isEnabled | settings | isAvailable id => exact .bind has_get fun _ => has_pure _
  | state id | effective id => exact .bind (heffective id) fun _ => has_pure _
  | stored id | storedSize => exact .bind hstored fun _ => has_pure _
  | preset id record =>
      cases record with
      | none => exact has_pure _
      | some record =>
          refine .bind (has_modify fun engine => ?_) fun _ => has_pure _
          split <;> rfl
  | failure id times =>
      exact .bind (hrepeated (has_recordFailure id) times) fun _ =>
        .bind (heffective id) fun _ => has_pure _
  | success id times =>
      exact .bind (hrepeated (has_recordSuccess id) times) fun _ =>
        .bind (heffective id) fun _ => has_pure _
  | trip id =>
      exact .bind has_get fun _ => .bind (has_logAll _) fun _ =>
        .bind (has_changeBreaker _) fun _ =>
          .bind (heffective id) fun _ => has_pure _
  | close id | reset id =>
      exact .bind (has_logAll _) fun _ => .bind (has_changeBreaker _) fun _ =>
        .bind (heffective id) fun _ => has_pure _

theorem has_takePoint (request : DispatchRequest) : Has property (takePoint request) := by
  unfold takePoint
  split
  · exact has_pure _
  · refine .bind has_get fun engine => ?_
    split
    · exact has_pure _
    · exact .bind (has_modify fun _ => rfl) fun _ => has_pure _

theorem has_keepPoint (request : DispatchRequest) (point : Point) :
    Has property (keepPoint request point) := by
  unfold keepPoint
  split
  · exact has_pure _
  · exact has_modify fun _ => rfl

theorem has_drainMemory : Has property drainMemory := property.drain

/-- Muting for some commands is a scope around them. -/
theorem performWith_muted (powers : Powers) (ids : List HandlerId)
    (commands : List (Command Behaviour)) :
    performWith powers (.muted ids commands) =
      (Scope.muted ids).around (performAll powers commands) >>= fun answers =>
        pure (.list answers) := by
  simp only [performWith, Scope.around, bind_assoc]

theorem performWith_silence (powers : Powers) (commands : List (Command Behaviour)) :
    performWith powers (.silence commands) =
      Scope.silence.around (performAll powers commands) >>= fun answers =>
        pure (.list answers) := by
  simp only [performWith, Scope.around, bind_assoc]

variable {powers : Powers} (hpowers : powers.Having property)

include hpowers

/-- The code outside the dispatcher has the property if what it can ask for has it. -/
theorem has_runner : powers.runner.Having property where
  run := Handler.has_run hpowers
  resolve := has_resolve
  enqueue := has_enqueue
  tell := by
    intro listener point
    refine .bind (has_announce _) fun _ => ?_
    split
    · exact .bind (hpowers.perform _) fun _ => has_announce _
    · exact has_pure _

theorem has_performDispatch (request : DispatchRequest) :
    Has property (performDispatch powers request) := by
  refine .bind (has_modify fun _ => rfl) fun _ =>
    .bind (has_takePoint request) fun point => .bind has_get fun engine =>
      .bind (Dispatch.has_dispatch (has_runner hpowers) _ _) fun result => ?_
  dsimp only
  split
  · exact .bind (has_keepPoint _ _) fun _ => has_pure _
  · split
    · exact has_pure _
    · exact .bind (has_keepPoint _ _) fun _ => has_pure _

theorem has_propagateBlank (kind : PointKind) (strict : Bool) :
    Has property (propagateBlank powers kind strict) :=
  .bind has_get fun _ =>
    .bind (Dispatch.has_dispatch (has_runner hpowers) _ _) fun _ => has_pure _

theorem has_performAll (commands : List (Command Behaviour)) :
    Has property (performAll powers commands) := by
  induction commands with
  | nil => exact has_pure _
  | cons command rest ih =>
      exact .bind (hpowers.perform command) fun _ => .bind ih fun _ => has_pure _

theorem has_drained (times : Nat) (calls : List (QueuedCall Behaviour)) :
    Has property (drained powers times calls) := by
  induction calls with
  | nil => exact has_pure _
  | cons call rest ih =>
      exact .bind (QueuedCall.has_runs hpowers call times) fun _ =>
        .bind ih fun _ => has_pure _

theorem has_runAll (calls : List (QueuedCall Behaviour)) :
    Has property (runAll powers calls) := by
  induction calls with
  | nil => exact has_pure _
  | cons call rest ih =>
      exact .bind (QueuedCall.has_run hpowers call) fun _ =>
        .bind ih fun _ => has_pure _

/-- Every command has the property if what it can ask for has it. -/
theorem has_performWith (command : Command Behaviour) :
    Has property (performWith powers command) := by
  cases command with
  | registry command => exact property.registry command
  | breaker command => exact has_performBreaker command
  | advanceClock elapsed =>
      exact .bind (has_modify fun _ => rfl) fun _ =>
        .bind has_get fun _ => has_pure _
  | mute id =>
      exact .bind (has_log _) fun _ => .bind (property.deed (.mute id)) fun _ => has_pure _
  | unmute id => exact .bind (property.deed (.unmute id)) fun _ => has_pure _
  | silenceOn =>
      exact .bind (has_log _) fun _ => .bind (property.deed .silenceOn) fun _ => has_pure _
  | resume =>
      exact .bind (has_log _) fun _ => .bind (property.deed .resume) fun _ => has_pure _
  | subscribe kind name reaction =>
      exact .bind (property.subscribe ⟨kind, name, reaction⟩) fun _ => has_pure _
  | unsubscribeAll kind => exact .bind (property.unsubscribeAll kind) fun _ => has_pure _
  | setClock time | addFactory id code | refuseCalls error =>
      exact .bind (has_modify fun _ => rfl) fun _ => has_pure _
  | isMuted id | isSilenced | listenerCount kind | canResolve id | queueSize | peek kind slot
  | settings | inspect what => exact .bind has_get fun _ => has_pure _
  | muted ids commands =>
      rw [performWith_muted]
      exact .bind ((has_performAll hpowers commands).around _) fun _ => has_pure _
  | silence commands =>
      rw [performWith_silence]
      exact .bind ((has_performAll hpowers commands).around _) fun _ => has_pure _
  | notify key point =>
      exact .bind (Dispatch.has_notify (has_runner hpowers) key point) fun _ =>
        has_pure _
  | addInstance id code =>
      exact .bind (has_instantiate code) fun _ =>
        .bind (has_modify fun _ => rfl) fun _ => has_pure _
  | resolve id =>
      refine .bind (has_resolve id) fun first => .bind (has_resolve id) fun second => ?_
      split <;> exact has_pure _
  | drainQueue times =>
      exact .bind has_drainMemory fun _ =>
        .bind (has_drained hpowers times _) fun _ => has_pure _
  | queuePayloads kind => exact .bind has_drainMemory fun _ => has_pure _
  | runPending =>
      exact .bind has_drainMemory fun _ =>
        .bind (has_runAll hpowers _) fun _ => has_pure _
  | dispatch request => exact has_performDispatch hpowers request
  | call code point =>
      exact .bind (has_instantiate code) fun _ =>
        .bind (Handler.has_run hpowers _ _) fun _ => has_pure _
  | checkSignature code kind =>
      simp only [performWith]
      split <;> exact has_pure _

omit hpowers in
/-- All code has the property, whatever the nesting. -/
theorem has_within (nesting fuel depth : Nat) :
    (within nesting fuel depth).Having property := by
  induction fuel generalizing depth with
  | zero => exact ⟨fun _ => has_throw _, fun _ _ => has_throw _⟩
  | succ fuel ih =>
      refine ⟨fun command => ?_, fun kind strict => has_propagateBlank (ih depth) kind strict⟩
      simp only [within]
      split
      · exact has_performWith (ih _) command
      · exact has_pure _

end Powers
end Plugboard
