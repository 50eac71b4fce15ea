import Plugboard.Proofs.Engine.Subscriptions

/-!
# Two runs in lockstep

Code that uses no engine, as it is run by a dispatch, looks neither at the registry nor at the
events nor at what the queue has collected.  Two runs of it from engines that differ in these alone
stay in lockstep: both come to their end with the same, or both stop for the same reason, and the
engines that they leave again differ in nothing else.
-/

namespace Plugboard

variable {α β γ δ : Type}

def HandlerCode.Alone (code : HandlerCode Behaviour) : Prop := ∀ body, (code.react body).Alone

def Source.Alone : Source → Prop
  | .factory code => code.Alone
  | .shared handler => handler.Alone

namespace Engine

/-! ## Lockstep -/

/-- Two runs that ended alike: with values that correspond, or for the same reason, and with engines
that correspond. -/
inductive Abreast (engines : Engine → Engine → Prop) (values : α → β → Prop) :
    Except Abort α × Engine → Except Abort β × Engine → Prop where
  | ends {value : α} {counterpart : β} {after another : Engine}
      (hvalues : values value counterpart) (hengines : engines after another) :
      Abreast engines values (.ok value, after) (.ok counterpart, another)
  | stops {abort : Abort} {after another : Engine} (hengines : engines after another) :
      Abreast engines values (.error abort, after) (.error abort, another)

/-- From engines that correspond, both codes end alike. -/
def Lockstep (engines : Engine → Engine → Prop) (values : α → β → Prop) (code : EngineM α)
    (other : EngineM β) : Prop :=
  ∀ before start, engines before start →
    Abreast engines values (code.run.run before) (other.run.run start)

variable {engines : Engine → Engine → Prop} {values : α → β → Prop}

theorem lockstep_pure {value : α} {counterpart : β} (hvalues : values value counterpart) :
    Lockstep engines values (pure value) (pure counterpart) :=
  fun _ _ hengines => .ends hvalues hengines

theorem lockstep_throw (abort : Abort) :
    Lockstep engines values (throw abort : EngineM α) (throw abort : EngineM β) :=
  fun _ _ hengines => .stops hengines

theorem lockstep_modify {change other : Engine → Engine}
    (hchange : ∀ {before start}, engines before start → engines (change before) (other start)) :
    Lockstep engines Eq (modify change) (modify other) :=
  fun _ _ hengines => .ends rfl (hchange hengines)

/-- Codes in sequence end alike if each does. -/
theorem Abreast.bind {given : γ → δ → Prop} {first : EngineM γ} {other : EngineM δ}
    {next : γ → EngineM α} {follow : δ → EngineM β} {before start : Engine}
    (hfirst : Abreast engines given (first.run.run before) (other.run.run start))
    (hnext : ∀ value counterpart, given value counterpart →
      Lockstep engines values (next value) (follow counterpart)) :
    Abreast engines values ((first >>= next).run.run before)
      ((other >>= follow).run.run start) := by
  rw [run_bind, run_bind]
  generalize first.run.run before = run, other.run.run start = counterrun at hfirst
  cases hfirst with
  | ends hvalues hengines => exact hnext _ _ hvalues _ _ hengines
  | stops hengines => exact .stops hengines

theorem Lockstep.bind {given : γ → δ → Prop} {first : EngineM γ} {other : EngineM δ}
    {next : γ → EngineM α} {follow : δ → EngineM β} (hfirst : Lockstep engines given first other)
    (hnext : ∀ value counterpart, given value counterpart →
      Lockstep engines values (next value) (follow counterpart)) :
    Lockstep engines values (first >>= next) (other >>= follow) :=
  fun before start hengines => (hfirst before start hengines).bind hnext

/-- What follows the same value has to be in lockstep. -/
theorem Lockstep.bind_eq {first other : EngineM γ} {next : γ → EngineM α} {follow : γ → EngineM β}
    (hfirst : Lockstep engines Eq first other)
    (hnext : ∀ value, Lockstep engines values (next value) (follow value)) :
    Lockstep engines values (first >>= next) (other >>= follow) :=
  hfirst.bind fun value _ hsame => hsame ▸ hnext value

/-- A run has a counterpart. -/
theorem Lockstep.exists_runs {code : EngineM α} {other : EngineM β}
    (hcode : Lockstep engines values code other) {before start after : Engine} {value : α}
    (hengines : engines before start) (hrun : Runs code before value after) :
    ∃ counterpart another, Runs other start counterpart another ∧ values value counterpart ∧
      engines after another := by
  have hboth := hcode before start hengines
  rw [show code.run.run before = _ from hrun] at hboth
  generalize hother : other.run.run start = counterrun at hboth
  cases hboth with
  | ends hvalues hengines => exact ⟨_, _, hother, hvalues, hengines⟩

theorem lockstep_get_then {next : Engine → EngineM α} {follow : Engine → EngineM β}
    (hnext : ∀ {before start}, engines before start →
      Lockstep engines values (next before) (follow start)) :
    Lockstep engines values (get >>= next) (get >>= follow) :=
  fun before start hengines => hnext hengines before start hengines

/-! ## Engines that differ aside -/

/-- The event tells of how a dispatch went, and of nothing that a handler or a listener did. -/
def isDiagnostic : Event → Bool
  | .timeline _ | .log _ => true
  | .heard _ _ | .interrupting _ | .nested _ => false

def notices (engine : Engine) : List Event := engine.events.filter fun event => !isDiagnostic event

/-- Everything of an engine but its registry, its diagnostics and what its queue has collected. -/
def shared (engine : Engine) : Engine :=
  { engine with
    registry := .empty
    memory := .empty
    events := engine.notices }

/-- What code that uses no engine leaves in place. -/
def fixtures (engine : Engine) : Table HandlerId Source × (Bool × Bus) × QueueLink :=
  (engine.sources, engine.busPart, engine.queueLink)

/-- Nothing but diagnostics was added. -/
structure Diagnosed (before after : Engine) : Prop where
  bare : after.bare = before.bare
  notices : after.notices = before.notices

theorem Diagnosed.trans {before middle after : Engine} (hfirst : Diagnosed before middle)
    (hnext : Diagnosed middle after) : Diagnosed before after where
  bare := hnext.bare.trans hfirst.bare
  notices := hnext.notices.trans hfirst.notices

theorem diagnosed_record (engine : Engine) {event : Event} (hevent : isDiagnostic event = true) :
    Diagnosed engine (engine.record event) where
  bare := bare_record engine event
  notices := by
    cases event with
    | timeline timeline => rfl
    | log entry =>
        rw [record]
        split
        · split <;> rfl
        · rfl
    | heard name point => cases hevent
    | interrupting accepted => cases hevent
    | nested answer => cases hevent

theorem diagnosed_recordAll (engine : Engine) (events : List LogEvent) :
    Diagnosed engine (engine.recordAll events) where
  bare := bare_recordAll engine events
  notices := by
    induction events generalizing engine with
    | nil => rfl
    | cons event events ih => exact (ih _).trans (diagnosed_record engine rfl).notices

/-- The engines differ in registries and diagnostics only, and in collected calls as told; what
code that uses no engine leaves in place is as it was in a first engine. -/
structure Alike (first : Engine)
    (aside : List (QueuedCall Behaviour) → List (QueuedCall Behaviour) → Prop)
    (engine other : Engine) : Prop where
  shared : engine.shared = other.shared
  calls : aside engine.memory.calls other.memory.calls
  fixtures : engine.fixtures = first.fixtures

/-- Calls that differ as told still do when the same call is added to both. -/
def Follows (aside : List (QueuedCall Behaviour) → List (QueuedCall Behaviour) → Prop) : Prop :=
  ∀ {calls others}, aside calls others → ∀ call, aside (calls ++ [call]) (others ++ [call])

/-- Diagnostics make no difference to what engines share. -/
theorem Diagnosed.shared {before after : Engine} (hdiagnosed : Diagnosed before after) :
    after.shared = before.shared :=
  calc after.shared = { after.bare.shared with events := after.notices } := rfl
    _ = { before.bare.shared with events := before.notices } := by
      rw [hdiagnosed.bare, hdiagnosed.notices]
    _ = before.shared := rfl

namespace Alike

variable {first engine other : Engine}
  {aside : List (QueuedCall Behaviour) → List (QueuedCall Behaviour) → Prop}

/-- What can be read off what they share is the same in both. -/
theorem view_eq (halike : Alike first aside engine other) (view : Engine → γ)
    (hview : ∀ engine, view engine.shared = view engine) : view engine = view other := by
  rw [← hview engine, halike.shared, hview other]

theorem sources_eq (halike : Alike first aside engine other) : engine.sources = first.sources :=
  congrArg Prod.fst halike.fixtures

theorem busPart_eq (halike : Alike first aside engine other) : engine.busPart = first.busPart :=
  congrArg (fun fixtures => fixtures.2.1) halike.fixtures

theorem queueLink_eq (halike : Alike first aside engine other) :
    engine.queueLink = first.queueLink :=
  congrArg (fun fixtures => fixtures.2.2) halike.fixtures

/-- Diagnostics do not matter. -/
theorem diagnosed {after another : Engine} (halike : Alike first aside engine other)
    (hafter : Diagnosed engine after) (hanother : Diagnosed other another) :
    Alike first aside after another where
  shared := by rw [hafter.shared, halike.shared, hanother.shared]
  calls := by
    rw [eq_of_bare_eq (fun engine => engine.memory.calls) (fun _ => rfl) hafter.bare,
      eq_of_bare_eq (fun engine => engine.memory.calls) (fun _ => rfl) hanother.bare]
    exact halike.calls
  fixtures := (eq_of_bare_eq Engine.fixtures (fun _ => rfl) hafter.bare).trans halike.fixtures

/-- A change of what they share leads on to engines alike. -/
theorem change (halike : Alike first aside engine other) (change : Engine → Engine)
    (hshared : ∀ engine, (change engine).shared = change engine.shared)
    (hcalls : ∀ engine, (change engine).memory.calls = engine.memory.calls)
    (hfixtures : ∀ engine, (change engine).fixtures = engine.fixtures) :
    Alike first aside (change engine) (change other) where
  shared := by rw [hshared, halike.shared, ← hshared]
  calls := by
    rw [hcalls, hcalls]
    exact halike.calls
  fixtures := (hfixtures engine).trans halike.fixtures

/-- The breaker hears of the same outcome at the same time. -/
theorem afterOutcome (halike : Alike first aside engine other) (id : HandlerId)
    (outcome : HandlerResult) :
    Alike first aside (engine.afterOutcome id outcome) (other.afterOutcome id outcome) := by
  have hbreaker : engine.breakerAfter id outcome = other.breakerAfter id outcome := by
    apply halike.view_eq fun engine => engine.breakerAfter id outcome
    intro engine
    cases outcome <;> rfl
  have hlogged : Alike first aside (engine.recordAll (engine.outcomeEvents id outcome))
      (other.recordAll (other.outcomeEvents id outcome)) :=
    halike.diagnosed (diagnosed_recordAll engine _) (diagnosed_recordAll other _)
  rw [Engine.afterOutcome, Engine.afterOutcome, hbreaker]
  exact hlogged.change (fun engine => { engine with breaker := other.breakerAfter id outcome })
    (fun _ => rfl) (fun _ => rfl) fun _ => rfl

/-- The same call is collected by both. -/
theorem collecting (halike : Alike first aside engine other) (hfollows : Follows aside)
    (call : QueuedCall Behaviour) :
    Alike first aside (engine.collecting call) (other.collecting call) where
  shared := halike.shared
  calls := hfollows halike.calls call
  fixtures := halike.fixtures

/-- The same call is offered to both at the same time. -/
theorem offering (halike : Alike first aside engine other) (queue : TimedQueue Behaviour)
    (call : QueuedCall Behaviour) :
    Alike first aside (engine.offering queue call) (other.offering queue call) := by
  have huptime : engine.uptime = other.uptime := halike.view_eq uptime fun _ => rfl
  have hoffering : engine.offering queue call =
      { engine with timed := some (queue.enqueue other.uptime call).1 } := by
    rw [Engine.offering, huptime]
  rw [hoffering]
  exact halike.change
    (fun engine => { engine with timed := some (queue.enqueue other.uptime call).1 })
    (fun _ => rfl) (fun _ => rfl) fun _ => rfl

end Alike

/-! ## Parts of the engine -/

section

variable {first : Engine}
  {aside : List (QueuedCall Behaviour) → List (QueuedCall Behaviour) → Prop}

/-- A change of what the engines share is made in lockstep. -/
theorem lockstep_change (change : Engine → Engine)
    (hshared : ∀ engine, (change engine).shared = change engine.shared)
    (hcalls : ∀ engine, (change engine).memory.calls = engine.memory.calls)
    (hfixtures : ∀ engine, (change engine).fixtures = engine.fixtures) :
    Lockstep (Alike first aside) Eq (modify change) (modify change) :=
  lockstep_modify fun halike => halike.change change hshared hcalls hfixtures

theorem lockstep_log (event other : LogEvent) :
    Lockstep (Alike first aside) Eq (log event) (log other) :=
  lockstep_modify fun halike =>
    halike.diagnosed (diagnosed_record _ rfl) (diagnosed_record _ rfl)

theorem lockstep_logAll (events others : List LogEvent) :
    Lockstep (Alike first aside) Eq (logAll events) (logAll others) := by
  intro before start halike
  have hrun : Runs (logAll events) before () (before.recordAll events) := runs_logAll.mpr rfl
  have hother : Runs (logAll others) start () (start.recordAll others) := runs_logAll.mpr rfl
  rw [show (logAll events).run.run before = _ from hrun,
    show (logAll others).run.run start = _ from hother]
  exact .ends rfl (halike.diagnosed (diagnosed_recordAll _ _) (diagnosed_recordAll _ _))

theorem lockstep_announce (event : Event) :
    Lockstep (Alike first aside) Eq (announce event) (announce event) := by
  cases event with
  | timeline timeline =>
      exact lockstep_modify fun halike =>
        halike.diagnosed (diagnosed_record _ rfl) (diagnosed_record _ rfl)
  | log event => exact lockstep_log event event
  | heard name point => exact lockstep_change _ (fun _ => rfl) (fun _ => rfl) fun _ => rfl
  | interrupting accepted => exact lockstep_change _ (fun _ => rfl) (fun _ => rfl) fun _ => rfl
  | nested answer => exact lockstep_change _ (fun _ => rfl) (fun _ => rfl) fun _ => rfl

theorem lockstep_recordOutcome (id : HandlerId) (outcome : HandlerResult) :
    Lockstep (Alike first aside) Eq (recordOutcome id outcome) (recordOutcome id outcome) := by
  intro before start halike
  have hrun (engine : Engine) :
      (recordOutcome id outcome).run.run engine = (.ok (), engine.afterOutcome id outcome) :=
    runs_recordOutcome.mpr rfl
  rw [hrun, hrun]
  exact .ends rfl (halike.afterOutcome id outcome)

theorem lockstep_instantiate (code : HandlerCode Behaviour) :
    Lockstep (Alike first aside)
      (fun made counterpart => made = counterpart ∧ made.toHandlerCode = code)
      (instantiate code) (instantiate code) := by
  refine lockstep_get_then fun {before start} halike => ?_
  rw [halike.view_eq nextSerial fun _ => rfl]
  exact (lockstep_change (fun engine => { engine with nextSerial := start.nextSerial + 1 })
    (fun _ => rfl) (fun _ => rfl) fun _ => rfl).bind_eq fun _ => lockstep_pure ⟨rfl, rfl⟩

theorem lockstep_nextCount (serial : Nat) :
    Lockstep (Alike first aside) Eq (nextCount serial) (nextCount serial) := by
  refine lockstep_get_then fun {before start} halike => ?_
  rw [halike.view_eq counters fun _ => rfl]
  let count := (start.counters.get? serial).getD 0
  exact (lockstep_change
    (fun engine => { engine with counters := engine.counters.set serial (count + 1) })
    (fun _ => rfl) (fun _ => rfl) fun _ => rfl).bind_eq fun _ => lockstep_pure rfl

/-- The resolver finds the same, which uses no engine if the source does not. -/
theorem lockstep_resolve (id : HandlerId) :
    Lockstep (Alike first aside)
      (fun found counterpart => found = counterpart ∧
        ((∀ source, first.sources.get? id = some source → source.Alone) →
          ∀ handler, found = some handler → handler.Alone))
      (resolve id) (resolve id) := by
  refine lockstep_get_then fun {before start} halike => ?_
  rw [← halike.view_eq sources fun _ => rfl, halike.sources_eq]
  cases hsource : first.sources.get? id with
  | none => exact lockstep_pure ⟨rfl, nofun⟩
  | some source =>
      cases source with
      | shared handler =>
          apply lockstep_pure
          refine ⟨rfl, fun hsources other hother => ?_⟩
          obtain rfl := Option.some.inj hother
          exact hsources _ rfl
      | factory code =>
          apply (lockstep_instantiate code).bind
          rintro made _ ⟨rfl, hcode⟩
          apply lockstep_pure
          refine ⟨rfl, fun hsources other hother => ?_⟩
          obtain rfl := Option.some.inj hother
          rw [hcode]
          exact hsources _ rfl

/-- The same call is taken or refused by both queues. -/
theorem lockstep_enqueue (hfollows : Follows aside) (call : QueuedCall Behaviour) :
    Lockstep (Alike first aside) Eq (enqueue call) (enqueue call) := by
  intro before start halike
  have hboth {outcome : Except Abort (Except QueueError Unit)} {after another : Engine}
      (hrun : Enqueued before call outcome after) (hother : Enqueued start call outcome another)
      (hafter : Alike first aside after another) :
      Abreast (Alike first aside) Eq ((enqueue call).run.run before)
        ((enqueue call).run.run start) := by
    rw [hrun.run_eq, hother.run_eq]
    cases outcome with
    | ok answer => exact .ends rfl hafter
    | error abort => exact .stops hafter
  have hlink : before.queueLink = start.queueLink := halike.view_eq queueLink fun _ => rfl
  have htimed : before.timed = start.timed := halike.view_eq timed fun _ => rfl
  have huptime : before.uptime = start.uptime := halike.view_eq uptime fun _ => rfl
  cases hqueue : start.queueLink with
  | none => exact hboth (.unlinked (hlink.trans hqueue)) (.unlinked hqueue) halike
  | refusing error => exact hboth (.refused (hlink.trans hqueue)) (.refused hqueue) halike
  | memory =>
      exact hboth (.collected (hlink.trans hqueue)) (.collected hqueue)
        (halike.collecting hfollows call)
  | timed =>
      cases hheld : start.timed with
      | none =>
          exact hboth (.missing (hlink.trans hqueue) (htimed.trans hheld)) (.missing hqueue hheld)
            halike
      | some queue =>
          have hoffering := halike.offering queue call
          cases hanswer : (queue.enqueue start.uptime call).2 with
          | none =>
              exact hboth (.crashed (hlink.trans hqueue) (htimed.trans hheld) (huptime ▸ hanswer))
                (.crashed hqueue hheld hanswer) hoffering
          | some answer =>
              exact hboth (.offered (hlink.trans hqueue) (htimed.trans hheld) (huptime ▸ hanswer))
                (.offered hqueue hheld hanswer)
                (hoffering.diagnosed (diagnosed_recordAll _ _) (diagnosed_recordAll _ _))

end

end Engine

open Engine

section

variable {first : Engine}
  {aside : List (QueuedCall Behaviour) → List (QueuedCall Behaviour) → Prop}

/-- A behaviour that uses no engine ends alike in both engines. -/
theorem Behaviour.lockstep_run (powers : Powers) (serial : Nat) :
    ∀ behaviour : Behaviour, behaviour.Alone →
      Lockstep (Alike first aside) Eq (behaviour.run powers serial) (behaviour.run powers serial)
  | .finish _ _, _ => lockstep_pure rfl
  | .panic _, _ => lockstep_throw _
  | .count resume, halone =>
      (lockstep_nextCount serial).bind_eq fun count =>
        lockstep_run powers serial (resume count) (halone count)
  | .announce event resume, halone =>
      (lockstep_announce event).bind_eq fun _ => lockstep_run powers serial resume halone
  | .operate _ _, halone | .propagate _ _ _, halone => halone.elim

theorem Handler.lockstep_run (powers : Powers) {handler : Handler Behaviour}
    (halone : handler.Alone) (point : Point) :
    Lockstep (Alike first aside) Eq (handler.run powers point) (handler.run powers point) := by
  unfold Handler.run
  split
  · apply (Behaviour.lockstep_run powers _ _ (halone _)).bind_eq
    rintro ⟨body, outcome⟩
    exact (lockstep_change
      (fun engine => { engine with
        runs := engine.runs ++ [⟨handler.id, engine.time - engine.dispatchedAt, outcome⟩] })
      (fun _ => rfl) (fun _ => rfl) fun _ => rfl).bind_eq fun _ => lockstep_pure rfl
  · exact lockstep_pure rfl

end

end Plugboard
