import Plugboard.Engine.State

/-!
# Runs of code over an engine

Code over an engine runs from one engine to another and gives a value, or it stops.  A run
of several steps is taken apart into the runs of the steps.
-/

namespace Plugboard.Engine

variable {α β : Type}

/-- The code comes to its end, gives the value and leaves the engine behind. -/
def Runs (code : EngineM α) (before : Engine) (value : α) (after : Engine) : Prop :=
  code.run.run before = (.ok value, after)

/-- Code gives one value and leaves one engine. -/
theorem Runs.unique {code : EngineM α} {before after other : Engine} {value another : α}
    (hrun : Runs code before value after) (hother : Runs code before another other) :
    another = value ∧ other = after := by
  have hsame : (Except.ok another, other) = ((.ok value, after) : Except Abort α × Engine) :=
    hother.symm.trans hrun
  simpa using hsame

@[simp]
theorem runs_pure {value given : α} {before after : Engine} :
    Runs (pure given) before value after ↔ value = given ∧ after = before := by
  change ((Except.ok given, before) = (Except.ok value, after)) ↔ _
  simp [eq_comm]

theorem run_bind (first : EngineM α) (next : α → EngineM β) (before : Engine) :
    (first >>= next).run.run before =
      match first.run.run before with
      | (.ok given, middle) => (next given).run.run middle
      | (.error abort, middle) => (.error abort, middle) := by
  simp only [ExceptT.run, StateT.run, bind, ExceptT.bind, ExceptT.mk, StateT.bind, ExceptT.bindCont]
  cases first before with
  | mk outcome middle => cases outcome <;> rfl

/-- After code that comes to its end, everything that follows runs from where it came to. -/
theorem Runs.run_then {first : EngineM α} {next : α → EngineM β} {before middle : Engine}
    {given : α} (hfirst : Runs first before given middle) :
    (first >>= next).run.run before = (next given).run.run middle := by
  rw [Engine.run_bind, show first.run.run before = (.ok given, middle) from hfirst]

/-- Code in sequence runs as its parts do, one after the other. -/
theorem runs_bind {first : EngineM α} {next : α → EngineM β} {before after : Engine} {value : β} :
    Runs (first >>= next) before value after ↔
      ∃ given middle, Runs first before given middle ∧ Runs (next given) middle value after := by
  rw [Runs, run_bind]
  constructor
  · intro hrun
    split at hrun
    · rename_i given middle hfirst
      exact ⟨given, middle, hfirst, hrun⟩
    · cases hrun
  · rintro ⟨given, middle, hfirst, hnext⟩
    rw [Runs] at hfirst
    rw [hfirst]
    exact hnext

/-- What follows a run goes on from where it came to. -/
theorem Runs.bind {first : EngineM α} {next : α → EngineM β} {before middle after : Engine}
    {given : α} {value : β} (hfirst : Runs first before given middle)
    (hnext : Runs (next given) middle value after) : Runs (first >>= next) before value after :=
  runs_bind.mpr ⟨given, middle, hfirst, hnext⟩

@[simp]
theorem runs_get {before value after : Engine} :
    Runs get before value after ↔ value = before ∧ after = before := by
  change ((Except.ok before, before) = (Except.ok value, after)) ↔ _
  simp [eq_comm]

@[simp]
theorem runs_modify {change : Engine → Engine} {before after : Engine} {value : Unit} :
    Runs (modify change) before value after ↔ after = change before := by
  change ((Except.ok (), change before) = (Except.ok value, after)) ↔ _
  simp [eq_comm]

@[simp]
theorem runs_log {event : LogEvent} {before after : Engine} {value : Unit} :
    Runs (log event) before value after ↔ after = before.record (.log event) :=
  runs_modify

@[simp]
theorem runs_get_then {next : Engine → EngineM α} {before after : Engine} {value : α} :
    Runs (get >>= next) before value after ↔ Runs (next before) before value after := by
  rw [runs_bind]
  constructor
  · rintro ⟨given, middle, hget, hrest⟩
    obtain ⟨rfl, rfl⟩ := runs_get.mp hget
    exact hrest
  · intro hrest
    exact ⟨before, before, runs_get.mpr ⟨rfl, rfl⟩, hrest⟩

/-- Code that only changes the engine passes the changed engine on. -/
theorem runs_then {code : EngineM Unit} {change : Engine → Engine}
    (hcode : ∀ {before value after}, Runs code before value after ↔ after = change before)
    {next : Unit → EngineM α} {before after : Engine} {value : α} :
    Runs (code >>= next) before value after ↔ Runs (next ()) (change before) value after := by
  rw [runs_bind]
  constructor
  · rintro ⟨given, middle, hchange, hrest⟩
    rw [hcode] at hchange
    rwa [hchange] at hrest
  · intro hrest
    exact ⟨(), _, hcode.mpr rfl, hrest⟩

@[simp]
theorem runs_modify_then {change : Engine → Engine} {next : Unit → EngineM α}
    {before after : Engine} {value : α} :
    Runs (modify change >>= next) before value after ↔
      Runs (next ()) (change before) value after :=
  runs_then runs_modify

@[simp]
theorem runs_log_then {event : LogEvent} {next : Unit → EngineM α} {before after : Engine}
    {value : α} :
    Runs (log event >>= next) before value after ↔
      Runs (next ()) (before.record (.log event)) value after :=
  runs_then runs_log

/-! ## Events -/

def recordAll (engine : Engine) (events : List LogEvent) : Engine :=
  events.foldl (fun engine event => engine.record (.log event)) engine

@[simp]
theorem recordAll_nil (engine : Engine) : engine.recordAll [] = engine := rfl

@[simp]
theorem recordAll_cons (engine : Engine) (event : LogEvent) (events : List LogEvent) :
    engine.recordAll (event :: events) = (engine.record (.log event)).recordAll events := rfl

@[simp]
theorem runs_logAll {events : List LogEvent} {before after : Engine} {value : Unit} :
    Runs (logAll events) before value after ↔ after = before.recordAll events := by
  induction events generalizing before with
  | nil =>
      change Runs (pure PUnit.unit) before value after ↔ _
      simp
  | cons event events ih =>
      change Runs (log event >>= fun _ => logAll events) before value after ↔ _
      rw [runs_bind]
      constructor
      · rintro ⟨given, middle, hlog, hrest⟩
        rw [runs_log] at hlog
        rw [ih] at hrest
        rw [hrest, hlog, recordAll_cons]
      · intro hafter
        exact ⟨(), _, runs_log.mpr rfl, ih.mpr hafter⟩

@[simp]
theorem runs_logAll_then {events : List LogEvent} {next : Unit → EngineM α}
    {before after : Engine} {value : α} :
    Runs (logAll events >>= next) before value after ↔
      Runs (next ()) (before.recordAll events) value after :=
  runs_then runs_logAll

def bare (engine : Engine) : Engine := { engine with events := [] }

@[simp]
theorem bare_record (engine : Engine) (event : Event) : (engine.record event).bare = engine.bare := by
  cases event with
  | log entry =>
      simp only [record]
      split
      · split <;> rfl
      · rfl
  | _ => rfl

@[simp]
theorem bare_recordAll (engine : Engine) (events : List LogEvent) :
    (engine.recordAll events).bare = engine.bare := by
  induction events generalizing engine with
  | nil => rfl
  | cons event events ih => rw [recordAll_cons, ih, bare_record]

/-- What does not depend on events is the same where engines differ in events only. -/
theorem eq_of_bare_eq (view : Engine → β) (hview : ∀ engine, view engine = view engine.bare)
    {engine other : Engine} (hbare : engine.bare = other.bare) : view engine = view other := by
  rw [hview, hbare, ← hview]

@[simp]
theorem registry_record (engine : Engine) (event : Event) :
    (engine.record event).registry = engine.registry :=
  eq_of_bare_eq registry (fun _ => rfl) (bare_record engine event)

@[simp]
theorem isSilenced_record (engine : Engine) (event : Event) :
    (engine.record event).isSilenced = engine.isSilenced :=
  eq_of_bare_eq isSilenced (fun _ => rfl) (bare_record engine event)

@[simp]
theorem breaker_recordAll (engine : Engine) (events : List LogEvent) :
    (engine.recordAll events).breaker = engine.breaker :=
  eq_of_bare_eq breaker (fun _ => rfl) (bare_recordAll engine events)

/-! ## Steps of the dispatcher -/

def outcomeEvents (engine : Engine) (id : HandlerId) : HandlerResult → List LogEvent
  | .ok _ => engine.breaker.successEvents engine.breakerTime id
  | .error _ => engine.breaker.failureEvents engine.breakerTime id

def breakerAfter (engine : Engine) (id : HandlerId) : HandlerResult → Breaker
  | .ok _ => engine.breaker.recordSuccess engine.breakerTime id
  | .error _ => engine.breaker.recordFailure engine.breakerTime id

def afterOutcome (engine : Engine) (id : HandlerId) (outcome : HandlerResult) : Engine :=
  { engine.recordAll (engine.outcomeEvents id outcome) with
    breaker := engine.breakerAfter id outcome }

theorem runs_recordOutcome {id : HandlerId} {outcome : HandlerResult} {before after : Engine}
    {value : Unit} :
    Runs (recordOutcome id outcome) before value after ↔
      after = before.afterOutcome id outcome := by
  rw [afterOutcome]
  cases outcome with
  | ok given =>
      rw [recordOutcome, recordSuccess, runs_get_then, runs_get_then, runs_logAll_then,
        changeBreaker, runs_modify, breaker_recordAll]
      rfl
  | error failure =>
      rw [recordOutcome, recordFailure, runs_get_then, runs_get_then, runs_logAll_then,
        changeBreaker, runs_modify, breaker_recordAll]
      rfl

def viewed (engine : Engine) (kind : PointKind) : Engine :=
  let entries := engine.registry.view kind
  { engine.recordAll
      (if engine.registry.isForgotten kind then [Registry.viewEvent kind entries.length] else [])
    with registry := engine.registry.remember kind }

theorem runs_view {kind : PointKind} {before after : Engine} {entries : List (Entry Behaviour)} :
    Runs (view kind) before entries after ↔
      entries = before.registry.view kind ∧ after = before.viewed kind := by
  rw [view, viewed, runs_get_then]
  dsimp only
  cases before.registry.isForgotten kind with
  | true =>
      simp only [if_true, runs_log_then, runs_modify_then, runs_pure, recordAll_cons, recordAll_nil,
        registry_record]
  | false =>
      simp only [Bool.false_eq_true, if_false, runs_modify_then, runs_pure, recordAll_nil]

/-! ## Handing calls to a queue -/

def besideQueues (engine : Engine) : Engine :=
  { engine with memory := .empty, timed := none, events := [] }

theorem besideQueues_of_bare_eq {engine other : Engine} (hbare : engine.bare = other.bare) :
    engine.besideQueues = other.besideQueues :=
  eq_of_bare_eq besideQueues (fun _ => rfl) hbare

def collecting (engine : Engine) (call : QueuedCall Behaviour) : Engine :=
  { engine with memory := engine.memory.enqueue call }

/-- The engine once the call was offered to its timed queue. -/
def offering (engine : Engine) (queue : TimedQueue Behaviour) (call : QueuedCall Behaviour) :
    Engine :=
  { engine with timed := some (queue.enqueue engine.uptime call).1 }

/-- How handing a call to the queue of an engine comes out. -/
inductive Enqueued (engine : Engine) (call : QueuedCall Behaviour) :
    Except Abort (Except QueueError Unit) → Engine → Prop where
  | unlinked (hlink : engine.queueLink = .none) :
      Enqueued engine call (.ok (.error (.notConfigured call.handler.id))) engine
  | refused {error : QueueError} (hlink : engine.queueLink = .refusing error) :
      Enqueued engine call (.ok (.error error)) engine
  | collected (hlink : engine.queueLink = .memory) :
      Enqueued engine call (.ok (.ok ())) (engine.collecting call)
  | missing (hlink : engine.queueLink = .timed) (htimed : engine.timed = none) :
      Enqueued engine call (.ok (.error (.notConfigured call.handler.id))) engine
  | offered {queue : TimedQueue Behaviour} {answer : Except QueueError Unit}
      (hlink : engine.queueLink = .timed) (htimed : engine.timed = some queue)
      (hanswer : (queue.enqueue engine.uptime call).2 = some answer) :
      Enqueued engine call (.ok answer)
        ((engine.offering queue call).recordAll
          ((queue.enqueue engine.uptime call).1.enqueueEvents call answer))
  | crashed {queue : TimedQueue Behaviour} (hlink : engine.queueLink = .timed)
      (htimed : engine.timed = some queue)
      (hcrashed : (queue.enqueue engine.uptime call).2 = none) :
      Enqueued engine call (.error (.panic TimedQueue.overflowMessage))
        (engine.offering queue call)

theorem Enqueued.run_eq {engine after : Engine} {call : QueuedCall Behaviour}
    {outcome : Except Abort (Except QueueError Unit)}
    (henqueued : Enqueued engine call outcome after) :
    (enqueue call).run.run engine = (outcome, after) := by
  rw [enqueue, run_bind]
  change StateT.run (m := Id) (ExceptT.run _) engine = _
  cases henqueued with
  | unlinked hlink =>
      rw [hlink]
      rfl
  | refused hlink =>
      rw [hlink]
      rfl
  | collected hlink =>
      rw [hlink]
      rfl
  | missing hlink htimed =>
      rw [hlink, htimed]
      rfl
  | @offered queue answer hlink htimed hanswer =>
      have hrun : Runs (logAll ((queue.enqueue engine.uptime call).1.enqueueEvents call answer) >>=
          fun _ => pure answer) (engine.offering queue call) answer _ :=
        runs_logAll_then.mpr (runs_pure.mpr ⟨rfl, rfl⟩)
      rw [hlink, htimed]
      dsimp only
      rw [hanswer]
      exact hrun
  | crashed hlink htimed hcrashed =>
      rw [hlink, htimed]
      dsimp only
      rw [hcrashed]
      rfl

/-- Handing a call to the queue comes out in one of the ways told. -/
theorem enqueued_enqueue (engine : Engine) (call : QueuedCall Behaviour) :
    Enqueued engine call ((enqueue call).run.run engine).1 ((enqueue call).run.run engine).2 := by
  have henqueued : ∃ outcome after, Enqueued engine call outcome after := by
    cases hlink : engine.queueLink with
    | none => exact ⟨_, _, .unlinked hlink⟩
    | refusing error => exact ⟨_, _, .refused hlink⟩
    | memory => exact ⟨_, _, .collected hlink⟩
    | timed =>
        cases htimed : engine.timed with
        | none => exact ⟨_, _, .missing hlink htimed⟩
        | some queue =>
            cases hanswer : (queue.enqueue engine.uptime call).2 with
            | none => exact ⟨_, _, .crashed hlink htimed hanswer⟩
            | some answer => exact ⟨_, _, .offered hlink htimed hanswer⟩
  obtain ⟨outcome, after, henqueued⟩ := henqueued
  rwa [henqueued.run_eq]

theorem Enqueued.besideQueues {engine after : Engine} {call : QueuedCall Behaviour}
    {outcome : Except Abort (Except QueueError Unit)}
    (henqueued : Enqueued engine call outcome after) :
    after.besideQueues = engine.besideQueues := by
  cases henqueued with
  | unlinked | refused | collected | missing | crashed => rfl
  | offered hlink htimed hanswer =>
      exact (besideQueues_of_bare_eq (bare_recordAll _ _)).trans rfl

/-- Handing a call to the queue changes nothing but queues and events. -/
theorem besideQueues_enqueue (call : QueuedCall Behaviour) (before : Engine) :
    ((enqueue call).run.run before).2.besideQueues = before.besideQueues :=
  (enqueued_enqueue before call).besideQueues

end Plugboard.Engine
