import Plugboard.Session.Basic
import Plugboard.Proofs.Engine.Invariants

/-!
# What commands keep

Handlers, commands and the attempts of the worker keep every invariant, however deep they are
nested.  The commands on the registry are told apart from the others: they come to their end
and perform one operation at most.
-/

namespace Plugboard

open Engine

variable {invariant : Invariant}

/-! ## Handlers -/

/-- What code can ask for keeps the invariant. -/
structure Powers.Keeping (invariant : Invariant) (powers : Powers) : Prop where
  perform : ∀ command, Keeps invariant (powers.perform command)
  propagate : ∀ kind strict, Keeps invariant (powers.propagate kind strict)

section

variable {powers : Powers} (hpowers : powers.Keeping invariant)

include hpowers

/-- A behaviour keeps the invariant if what it can ask for does. -/
theorem Behaviour.keeps_run (serial : Nat) :
    ∀ behaviour : Behaviour, Keeps invariant (behaviour.run powers serial)
  | .finish _ _ => keeps_pure _
  | .panic _ => keeps_throw _
  | .count resume =>
      .bind (keeps_nextCount serial) fun count => keeps_run serial (resume count)
  | .announce event resume =>
      .bind (keeps_announce event) fun _ => keeps_run serial resume
  | .operate command resume =>
      .bind (hpowers.perform command) fun answer => keeps_run serial (resume answer)
  | .propagate kind strict resume =>
      .bind (hpowers.propagate kind strict) fun outcome => keeps_run serial (resume outcome)

theorem Handler.keeps_run (handler : Handler Behaviour) (point : Point) :
    Keeps invariant (handler.run powers point) := by
  unfold Handler.run
  split
  · exact .bind (Behaviour.keeps_run hpowers _ _) fun _ =>
      .bind (keeps_modify fun _ => ⟨rfl, rfl, rfl, rfl⟩) fun _ => keeps_pure _
  · exact keeps_pure _

theorem QueuedCall.keeps_run (call : QueuedCall Behaviour) :
    Keeps invariant (call.run powers) := by
  unfold QueuedCall.run
  split
  · exact .bind (Handler.keeps_run hpowers _ _) fun _ => keeps_pure _
  · exact keeps_pure _

theorem QueuedCall.keeps_runs (call : QueuedCall Behaviour) (times : Nat) :
    Keeps invariant (call.runs powers times) := by
  induction times with
  | zero => exact keeps_pure _
  | succ times ih =>
      exact .bind (QueuedCall.keeps_run hpowers call) fun _ =>
        .bind ih fun _ => keeps_pure _

end

def Engine.besideRegistry (engine : Engine) : Engine :=
  { engine with registry := .empty, events := [], nextSerial := 0 }

namespace Powers

theorem keeps_performBreaker (command : BreakerCommand) :
    Keeps invariant (performBreaker command) := by
  have heffective (id : HandlerId) : Keeps invariant (performBreaker.effective id) :=
    .bind keeps_get fun _ => keeps_pure _
  have hstored : Keeps invariant performBreaker.stored :=
    .bind keeps_get fun _ => keeps_pure _
  have hrepeated {code : EngineM Unit} (hcode : Keeps invariant code) (times : Nat) :
      Keeps invariant (performBreaker.repeated code times) := by
    induction times with
    | zero => exact keeps_pure _
    | succ times ih => exact .bind hcode fun _ => ih
  cases command with
  | isEnabled | settings | isAvailable id => exact .bind keeps_get fun _ => keeps_pure _
  | state id | effective id => exact .bind (heffective id) fun _ => keeps_pure _
  | stored id | storedSize => exact .bind hstored fun _ => keeps_pure _
  | preset id record =>
      cases record with
      | none => exact keeps_pure _
      | some record =>
          refine .bind (keeps_modify fun engine => ?_) fun _ => keeps_pure _
          split <;> exact ⟨rfl, rfl, rfl, rfl⟩
  | failure id times =>
      exact .bind (hrepeated (keeps_recordFailure id) times) fun _ =>
        .bind (heffective id) fun _ => keeps_pure _
  | success id times =>
      exact .bind (hrepeated (keeps_recordSuccess id) times) fun _ =>
        .bind (heffective id) fun _ => keeps_pure _
  | trip id =>
      exact .bind keeps_get fun _ => .bind (keeps_logAll _) fun _ =>
        .bind (keeps_changeBreaker _) fun _ =>
          .bind (heffective id) fun _ => keeps_pure _
  | close id | reset id =>
      exact .bind (keeps_logAll _) fun _ => .bind (keeps_changeBreaker _) fun _ =>
        .bind (heffective id) fun _ => keeps_pure _

/-! ### Registry commands -/

/-- The code comes to its end and changes nothing of the engine but what registering changes. -/
def OnlyRegisters {α : Type} (code : EngineM α) : Prop :=
  ∀ before, ∃ value after, Runs code before value after ∧
    after.besideRegistry = before.besideRegistry

section

variable {α β : Type}

theorem onlyRegisters_pure (value : α) : OnlyRegisters (pure value) :=
  fun before => ⟨value, before, runs_pure.mpr ⟨rfl, rfl⟩, rfl⟩

theorem onlyRegisters_get : OnlyRegisters get :=
  fun before => ⟨before, before, runs_get.mpr ⟨rfl, rfl⟩, rfl⟩

theorem onlyRegisters_modify {change : Engine → Engine}
    (hbeside : ∀ engine, (change engine).besideRegistry = engine.besideRegistry) :
    OnlyRegisters (modify change) :=
  fun before => ⟨(), change before, runs_modify.mpr rfl, hbeside before⟩

theorem OnlyRegisters.bind {first : EngineM α} {next : α → EngineM β}
    (hfirst : OnlyRegisters first) (hnext : ∀ given, OnlyRegisters (next given)) :
    OnlyRegisters (first >>= next) := by
  intro before
  obtain ⟨given, middle, hgiven, hmiddle⟩ := hfirst before
  obtain ⟨value, after, hvalue, hafter⟩ := hnext given middle
  exact ⟨value, after, hgiven.bind hvalue, hafter.trans hmiddle⟩

theorem onlyRegisters_log (event : LogEvent) : OnlyRegisters (log event) :=
  onlyRegisters_modify fun engine =>
    eq_of_bare_eq besideRegistry (fun _ => rfl) (bare_record engine _)

theorem onlyRegisters_instantiate (code : HandlerCode Behaviour) :
    OnlyRegisters (instantiate code) :=
  .bind onlyRegisters_get fun _ => .bind (onlyRegisters_modify fun _ => rfl) fun _ =>
    onlyRegisters_pure _

theorem onlyRegisters_view (kind : PointKind) : OnlyRegisters (view kind) := by
  refine .bind onlyRegisters_get fun engine => ?_
  have hremember : OnlyRegisters (modify fun engine : Engine =>
      { engine with registry := engine.registry.remember kind }) :=
    onlyRegisters_modify fun _ => rfl
  dsimp only
  split
  · exact .bind (onlyRegisters_log _) fun _ => .bind hremember fun _ => onlyRegisters_pure _
  · exact .bind hremember fun _ => onlyRegisters_pure _

end

theorem onlyRegisters_insert (registration : Registration Behaviour) :
    OnlyRegisters (insert registration) :=
  .bind onlyRegisters_get fun _ => .bind (onlyRegisters_log _) fun _ =>
    .bind (onlyRegisters_modify fun _ => rfl) fun _ => onlyRegisters_pure _

/-- A command on the registry does nothing else. -/
theorem onlyRegisters_performRegistry (command : RegistryCommand Behaviour) :
    OnlyRegisters (performRegistry command) := by
  have hchange (change : Registry Behaviour → Registry Behaviour) :
      OnlyRegisters (performRegistry.change change) :=
    onlyRegisters_modify fun _ => rfl
  have hattempt (outcome : Except RegistryError (Registry Behaviour)) :
      OnlyRegisters (performRegistry.attempt outcome) := by
    cases outcome with
    | ok registry => exact .bind (hchange _) fun _ => onlyRegisters_pure _
    | error error => exact onlyRegisters_pure _
  have hinsertIf (registration : Except RegistryError (Registration Behaviour)) :
      OnlyRegisters (performRegistry.insertIf registration) := by
    cases registration with
    | ok registration => exact .bind (onlyRegisters_insert _) fun _ => onlyRegisters_pure _
    | error error => exact onlyRegisters_pure _
  cases command with
  | register code priority | registerQueued code priority options
  | registerInScope scope code priority | registerInGroup group code priority options =>
      exact .bind (onlyRegisters_instantiate code) fun _ =>
        .bind (onlyRegisters_insert _) fun _ => onlyRegisters_pure _
  | registerDeferred kind id priority | registerDeferredInGroup group kind id priority =>
      exact .bind (onlyRegisters_insert _) fun _ => onlyRegisters_pure _
  | registerFor kind code priority =>
      exact .bind (onlyRegisters_instantiate code) fun _ => hinsertIf _
  | registerNamed name code priority =>
      exact .bind (onlyRegisters_instantiate code) fun _ =>
        .bind onlyRegisters_get fun _ => hinsertIf _
  | declare kind | forget kind | clear => exact .bind (hchange _) fun _ => onlyRegisters_pure _
  | view kind full | hasHandlers kind =>
      exact .bind (onlyRegisters_view kind) fun _ => onlyRegisters_pure _
  | tag handle tags | untag handle tag | remove handle =>
      exact .bind onlyRegisters_get fun _ => hattempt _
  | disableTag tag | enableTag tag | disableGroup group | enableGroup group =>
      exact .bind (onlyRegisters_log _) fun _ => .bind (hchange _) fun _ => onlyRegisters_pure _
  | removeGroup group | removeHandler kind id =>
      exact .bind onlyRegisters_get fun _ => .bind (hchange _) fun _ => onlyRegisters_pure _
  | clearScope scope =>
      exact .bind onlyRegisters_get fun _ => .bind (hchange _) fun _ =>
        .bind (onlyRegisters_log _) fun _ => onlyRegisters_pure _
  | handleText handle => exact onlyRegisters_pure _
  | declared name | entry handle | size | stats | hasTag handle tag | tagged tag
  | isTagDisabled tag | groupMembers group | isGroupDisabled group =>
      exact .bind onlyRegisters_get fun _ => onlyRegisters_pure _

/-- A command performs its operation, if it stands for one, and does nothing else to the engine
that an invariant could depend on. -/
theorem keeps_performRegistry (command : RegistryCommand Behaviour) :
    Keeps invariant (performRegistry command) := by
  intro before hbefore
  obtain ⟨answer, after, hrun, hbeside⟩ := onlyRegisters_performRegistry command before
  rw [show (performRegistry command).run.run before = _ from hrun]
  have hregistry := registry_of_performRegistry hrun
  have hmemory := congrArg Engine.memory hbeside
  have htimed := congrArg Engine.timed hbeside
  have huptime := congrArg Engine.uptime hbeside
  cases hoperation : command.operation? before.nextSerial with
  | none =>
      rw [hoperation] at hregistry
      exact invariant.beside hbefore ⟨hregistry, hmemory, htimed, huptime⟩
  | some operation =>
      rw [hoperation] at hregistry
      have hproper := RegistryCommand.proper_of_operation? hoperation
      exact invariant.beside (invariant.perform hbefore hproper)
        ⟨hregistry, hmemory, htimed, huptime⟩

/-! ### Other commands -/

theorem keeps_takePoint (request : DispatchRequest) : Keeps invariant (takePoint request) := by
  unfold takePoint
  split
  · exact keeps_pure _
  · refine .bind keeps_get fun engine => ?_
    split
    · exact keeps_pure _
    · exact .bind (keeps_modify fun _ => ⟨rfl, rfl, rfl, rfl⟩) fun _ => keeps_pure _

theorem keeps_keepPoint (request : DispatchRequest) (point : Point) :
    Keeps invariant (keepPoint request point) := by
  unfold keepPoint
  split
  · exact keeps_pure _
  · exact keeps_modify fun _ => ⟨rfl, rfl, rfl, rfl⟩

theorem keeps_muteAll (ids : List HandlerId) : Keeps invariant (muteAll ids) :=
  .bind keeps_get fun _ => .bind (keeps_modify fun _ => ⟨rfl, rfl, rfl, rfl⟩) fun _ => keeps_pure _

theorem keeps_drainMemory : Keeps invariant drainMemory := fun _ => invariant.drain

variable {powers : Powers} (hpowers : powers.Keeping invariant)

include hpowers

/-- Code outside the dispatcher keeps the invariant if what it can ask for does. -/
theorem runner_keeping : powers.runner.Keeping invariant where
  run := Handler.keeps_run hpowers
  resolve := keeps_resolve
  enqueue := keeps_enqueue
  kinds := powers.runner_keepsKinds
  tell := by
    intro listener point
    refine .bind (keeps_announce _) fun _ => ?_
    split
    · exact .bind (hpowers.perform _) fun _ => keeps_announce _
    · exact keeps_pure _

theorem keeps_performDispatch (request : DispatchRequest) :
    Keeps invariant (performDispatch powers request) := by
  refine .bind (keeps_modify fun _ => ⟨rfl, rfl, rfl, rfl⟩) fun _ =>
    .bind (keeps_takePoint request) fun point => .bind keeps_get fun engine =>
      .bind (Dispatch.keeps_dispatch (runner_keeping hpowers) _ _) fun result => ?_
  dsimp only
  split
  · exact .bind (keeps_keepPoint _ _) fun _ => keeps_pure _
  · split
    · exact keeps_pure _
    · exact .bind (keeps_keepPoint _ _) fun _ => keeps_pure _

theorem keeps_propagateBlank (kind : PointKind) (strict : Bool) :
    Keeps invariant (propagateBlank powers kind strict) :=
  .bind keeps_get fun _ =>
    .bind (Dispatch.keeps_dispatch (runner_keeping hpowers) _ _) fun _ => keeps_pure _

theorem keeps_performAll (commands : List (Command Behaviour)) :
    Keeps invariant (performAll powers commands) := by
  induction commands with
  | nil => exact keeps_pure _
  | cons command rest ih =>
      exact .bind (hpowers.perform command) fun _ => .bind ih fun _ => keeps_pure _

theorem keeps_drained (times : Nat) (calls : List (QueuedCall Behaviour)) :
    Keeps invariant (drained powers times calls) := by
  induction calls with
  | nil => exact keeps_pure _
  | cons call rest ih =>
      exact .bind (QueuedCall.keeps_runs hpowers call times) fun _ =>
        .bind ih fun _ => keeps_pure _

theorem keeps_runAll (calls : List (QueuedCall Behaviour)) :
    Keeps invariant (runAll powers calls) := by
  induction calls with
  | nil => exact keeps_pure _
  | cons call rest ih =>
      exact .bind (QueuedCall.keeps_run hpowers call) fun _ =>
        .bind ih fun _ => keeps_pure _

/-- Every command keeps the invariant if what it can ask for does. -/
theorem keeps_performWith (command : Command Behaviour) :
    Keeps invariant (performWith powers command) := by
  cases command with
  | registry command => exact keeps_performRegistry command
  | breaker command => exact keeps_performBreaker command
  | advanceClock elapsed =>
      exact .bind (keeps_modify fun _ => ⟨rfl, rfl, rfl, rfl⟩) fun _ =>
        .bind keeps_get fun _ => keeps_pure _
  | setClock time | unmute id | subscribe kind name reaction | unsubscribeAll kind
  | addFactory id code | refuseCalls error =>
      exact .bind (keeps_modify fun _ => ⟨rfl, rfl, rfl, rfl⟩) fun _ => keeps_pure _
  | mute id | silenceOn | resume =>
      exact .bind (keeps_log _) fun _ =>
        .bind (keeps_modify fun _ => ⟨rfl, rfl, rfl, rfl⟩) fun _ => keeps_pure _
  | isMuted id | isSilenced | listenerCount kind | canResolve id | queueSize | peek kind slot
  | settings | inspect what => exact .bind keeps_get fun _ => keeps_pure _
  | muted ids commands =>
      exact .bind (keeps_muteAll ids) fun _ =>
        .bind ((keeps_performAll hpowers commands).leaving fun _ => ⟨rfl, rfl, rfl, rfl⟩) fun _ =>
          keeps_pure _
  | silence commands =>
      exact .bind (keeps_modify fun _ => ⟨rfl, rfl, rfl, rfl⟩) fun _ =>
        .bind ((keeps_performAll hpowers commands).leaving fun _ => ⟨rfl, rfl, rfl, rfl⟩) fun _ =>
          keeps_pure _
  | notify key point =>
      exact .bind (Dispatch.keeps_notify (runner_keeping hpowers) key point) fun _ =>
        keeps_pure _
  | addInstance id code =>
      exact .bind (keeps_instantiate code) fun _ =>
        .bind (keeps_modify fun _ => ⟨rfl, rfl, rfl, rfl⟩) fun _ => keeps_pure _
  | resolve id =>
      refine .bind (keeps_resolve id) fun first => .bind (keeps_resolve id) fun second => ?_
      split <;> exact keeps_pure _
  | drainQueue times =>
      exact .bind keeps_drainMemory fun _ =>
        .bind (keeps_drained hpowers times _) fun _ => keeps_pure _
  | queuePayloads kind => exact .bind keeps_drainMemory fun _ => keeps_pure _
  | runPending =>
      exact .bind keeps_drainMemory fun _ =>
        .bind (keeps_runAll hpowers _) fun _ => keeps_pure _
  | dispatch request => exact keeps_performDispatch hpowers request
  | call code point =>
      exact .bind (keeps_instantiate code) fun _ =>
        .bind (Handler.keeps_run hpowers _ _) fun _ => keeps_pure _
  | checkSignature code kind =>
      simp only [performWith]
      split <;> exact keeps_pure _

omit hpowers in
/-- Code keeps every invariant, whatever the nesting. -/
theorem within_keeping (nesting fuel depth : Nat) :
    (within nesting fuel depth).Keeping invariant := by
  induction fuel generalizing depth with
  | zero => exact ⟨fun _ => keeps_throw _, fun _ _ => keeps_throw _⟩
  | succ fuel ih =>
      refine ⟨fun command => ?_, fun kind strict => keeps_propagateBlank (ih depth) kind strict⟩
      simp only [within]
      split
      · exact keeps_performWith (ih _) command
      · exact keeps_pure _

end Powers

/-! ## The worker -/

namespace Engine

variable {before after : Engine}

theorem runs_changeTimed {change : TimedQueue Behaviour → TimedQueue Behaviour} {value : Unit} :
    Runs (changeTimed change) before value after ↔
      after = { before with timed := before.timed.map change } :=
  runs_modify

def received (engine : Engine) : Engine :=
  { engine with timed := engine.timed.map TimedQueue.receive }

/-- How the worker comes to its next attempt. -/
inductive Fetched (limit : Option Nat) (engine : Engine) :
    Option (Waiting Behaviour) → Engine → Prop where
  | idle (hidle : engine.timed.bind TimedQueue.next? = none) : Fetched limit engine none engine
  | later {waiting : Waiting Behaviour} {rest : TimedQueue Behaviour}
      (hnext : engine.timed.bind TimedQueue.next? = some (waiting, rest))
      (hlimit : limit ≠ none) : Fetched limit engine none engine
  | taken {waiting : Waiting Behaviour} {rest : TimedQueue Behaviour}
      (hnext : engine.timed.bind TimedQueue.next? = some (waiting, rest)) :
      Fetched limit engine (some waiting)
        { engine with timed := engine.timed.map fun _ => rest }

/-- The worker reads what was accepted and then takes out what is due first, if anything is. -/
theorem exists_runs_nextAttempt (before : Engine) (limit : Option Nat) :
    ∃ found after, Runs (nextAttempt limit) before found after ∧
      Fetched limit before.received found after := by
  have hread : Runs (changeTimed TimedQueue.receive) before () before.received :=
    runs_changeTimed.mpr rfl
  cases hnext : before.received.timed.bind TimedQueue.next? with
  | none =>
      refine ⟨none, _, hread.bind (runs_get_then.mpr ?_), .idle hnext⟩
      rw [hnext]
      exact runs_pure.mpr ⟨rfl, rfl⟩
  | some pair =>
      obtain ⟨waiting, rest⟩ := pair
      by_cases hlimit : limit.all (fun limit => waiting.due < limit) = true
      · refine ⟨some waiting, _, hread.bind (runs_get_then.mpr ?_), .taken hnext⟩
        simp only [hnext, if_pos hlimit]
        exact (runs_then runs_changeTimed).mpr (runs_pure.mpr ⟨rfl, rfl⟩)
      · have hsome : limit ≠ none := by
          rintro rfl
          exact hlimit rfl
        refine ⟨none, _, hread.bind (runs_get_then.mpr ?_), .later hnext hsome⟩
        simp only [hnext, if_neg hlimit]
        exact runs_pure.mpr ⟨rfl, rfl⟩

/-- The worker comes to its next attempt in one of the ways told. -/
theorem fetched_of_runs {limit : Option Nat} {found : Option (Waiting Behaviour)}
    (hrun : Runs (nextAttempt limit) before found after) :
    Fetched limit before.received found after := by
  obtain ⟨other, reached, hother, hfetched⟩ := exists_runs_nextAttempt before limit
  obtain ⟨rfl, rfl⟩ := hrun.unique hother
  exact hfetched

end Engine

theorem Engine.keeps_attempt (nesting : Nat) (waiting : Waiting Behaviour) :
    Keeps invariant (attempt nesting waiting) := by
  have hcall : Keeps invariant (waiting.call.run (Powers.within nesting fuel 1)) :=
    QueuedCall.keeps_run (Powers.within_keeping nesting fuel 1) waiting.call
  refine .bind hcall.caught fun outcome => ?_
  split
  · exact keeps_pure _
  · exact keeps_pure _
  · exact keeps_pure _
  · exact keeps_throw _

theorem Engine.keeps_command (nesting : Nat) (command : Command Behaviour) :
    Keeps invariant (Session.perform nesting (.command command)) :=
  .bind (Powers.keeps_performWith (Powers.within_keeping nesting fuel 1) command) fun _ => keeps_pure _

end Plugboard
