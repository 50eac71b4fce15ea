import Plugboard.Proofs.Engine.Composed
import Plugboard.Proofs.Engine.Lockstep

/-!
# Collected calls

A queue that only collects calls is emptied by whoever takes them: for a use of their own, or to
run them one after the other.  Handlers that are run may hand over further calls, take calls out
or run the pending ones themselves.  However deep this nests, the batches that were taken, one
after the other, and the calls still there are the calls that were accepted, in their order.
-/

namespace Plugboard

open Engine

/-- What happens to the calls of a queue that collects them. -/
inductive Delivery where
  | accepted (call : QueuedCall Behaviour)
  | taken (batch : List (QueuedCall Behaviour))

namespace Delivery

def accepted? : Delivery → Option (QueuedCall Behaviour)
  | .accepted call => some call
  | .taken _ => none

def batch : Delivery → List (QueuedCall Behaviour)
  | .accepted _ => []
  | .taken batch => batch

def arrivals (deliveries : List Delivery) : List (QueuedCall Behaviour) :=
  deliveries.filterMap accepted?

def takings (deliveries : List Delivery) : List (QueuedCall Behaviour) :=
  deliveries.flatMap batch

end Delivery

namespace Engine

def collected (engine : Engine) : List (QueuedCall Behaviour) := engine.memory.calls

def emptied (engine : Engine) : Engine := { engine with memory := .empty }

/-- The engine collects the calls that are handed over. -/
def Collects (engine : Engine) : Prop := engine.queueLink = .memory

end Engine

/-- The code, run from an engine, makes the deliveries, comes out like this and leaves an engine.
Calls are accepted one by one where code hands them over, and taken out where code takes them. -/
inductive Delivers : {α : Type} → EngineM α → Engine → List Delivery → Except Abort α → Engine →
    Prop where
  /-- Code that leaves the collected calls alone, whatever the engine. -/
  | aside {α : Type} {code : EngineM α} (hspares : Spares collected code) (before : Engine) :
      Delivers code before [] (code.run.run before).1 (code.run.run before).2
  | accept (call : QueuedCall Behaviour) {before : Engine} (hcollects : before.Collects) :
      Delivers (Engine.enqueue call) before [.accepted call] (.ok (.ok ()))
        (before.collecting call)
  | pass (call : QueuedCall Behaviour) {before : Engine} (hcollects : ¬ before.Collects) :
      Delivers (Engine.enqueue call) before [] ((Engine.enqueue call).run.run before).1
        ((Engine.enqueue call).run.run before).2
  | take (before : Engine) :
      Delivers Powers.drainMemory before [.taken before.collected] (.ok before.collected)
        before.emptied
  | bind {α β : Type} {first : EngineM α} {next : α → EngineM β} {before middle after : Engine}
      {given : α} {outcome : Except Abort β} {earlier later : List Delivery}
      (hfirst : Delivers first before earlier (.ok given) middle)
      (hnext : Delivers (next given) middle later outcome after) :
      Delivers (first >>= next) before (earlier ++ later) outcome after
  | stop {α β : Type} {first : EngineM α} (next : α → EngineM β) {before after : Engine}
      {abort : Abort} {deliveries : List Delivery}
      (hfirst : Delivers first before deliveries (.error abort) after) :
      Delivers (first >>= next) before deliveries (.error abort) after
  | around {α : Type} {code : EngineM α} (scope : Scope) {before after : Engine}
      {deliveries : List Delivery} {outcome : Except Abort α}
      (hcode : Delivers code (scope.openOn before) deliveries outcome after) :
      Delivers (scope.around code) before deliveries outcome ((scope.opened before).close after)

/-! ## Deliveries of a run -/

section

variable {α : Type} {code : EngineM α} {call : QueuedCall Behaviour} {before after : Engine}
  {deliveries : List Delivery} {outcome : Except Abort α}

/-- An engine that does not collect calls has no more of them when one is handed over. -/
theorem Engine.collected_enqueue (hcollects : ¬ before.Collects) :
    ((enqueue call).run.run before).2.collected = before.collected := by
  have henqueued := enqueued_enqueue before call
  generalize ((enqueue call).run.run before).1 = outcome at henqueued
  generalize ((enqueue call).run.run before).2 = after at henqueued
  cases henqueued with
  | collected hlink => exact absurd hlink hcollects
  | unlinked | refused | missing | crashed => rfl
  | offered => exact (eq_of_bare_eq collected (fun _ => rfl) (bare_recordAll _ _)).trans rfl

/-- The deliveries belong to the run of the code. -/
theorem Delivers.run_eq (hdelivers : Delivers code before deliveries outcome after) :
    code.run.run before = (outcome, after) := by
  induction hdelivers with
  | aside hspares before => rfl
  | accept call hcollects => exact (Enqueued.collected hcollects).run_eq
  | pass call hcollects => rfl
  | take before => rfl
  | bind hfirst hnext ihfirst ihnext => rw [run_bind, ihfirst]; exact ihnext
  | stop next hfirst ih => rw [run_bind, ih]
  | around scope hcode ih => rw [scope.run_around, ih]

theorem Scope.collected_openOn (scope : Scope) (engine : Engine) :
    (scope.openOn engine).collected = engine.collected := by
  cases scope <;> rfl

theorem OpenScope.collected_close (scope : OpenScope) (engine : Engine) :
    (scope.close engine).collected = engine.collected := by
  cases scope <;> rfl

/-- What was taken and what is left is what was there and what arrived. -/
theorem Delivers.conserves (hdelivers : Delivers code before deliveries outcome after) :
    Delivery.takings deliveries ++ after.collected =
      before.collected ++ Delivery.arrivals deliveries := by
  induction hdelivers with
  | aside hspares before => exact (hspares before).trans (List.append_nil _).symm
  | accept call hcollects => rfl
  | pass call hcollects =>
      exact (collected_enqueue hcollects).trans (List.append_nil _).symm
  | take before =>
      change (before.collected ++ []) ++ [] = before.collected ++ []
      rw [List.append_nil]
  | bind hfirst hnext ihfirst ihnext =>
      rw [Delivery.takings, Delivery.arrivals, List.flatMap_append, List.filterMap_append,
        List.append_assoc]
      exact (congrArg _ ihnext).trans (by
        rw [← List.append_assoc, ← List.append_assoc]
        exact congrArg (· ++ _) ihfirst)
  | stop next hfirst ih => exact ih
  | around scope hcode ih =>
      rw [OpenScope.collected_close]
      exact ih.trans (congrArg (· ++ _) (scope.collected_openOn _))

end

/-! ## Deliveries of all code -/

/-- Whatever engine the code is run from, the run has its deliveries. -/
def Engine.Accounted {α : Type} (code : EngineM α) : Prop :=
  ∀ before, ∃ deliveries,
    Delivers code before deliveries (code.run.run before).1 (code.run.run before).2

section

variable {α β : Type} {code : EngineM α} {first : EngineM α} {next : α → EngineM β}

/-- Code that leaves the collected calls alone makes no deliveries. -/
theorem Engine.accounted_of_spares (hspares : Spares collected code) : Accounted code :=
  fun before => ⟨[], .aside hspares before⟩

theorem Engine.Accounted.bind (hfirst : Accounted first) (hnext : ∀ given, Accounted (next given)) :
    Accounted (first >>= next) := by
  intro before
  obtain ⟨earlier, hearlier⟩ := hfirst before
  rw [run_bind]
  cases hrun : first.run.run before with
  | mk outcome middle =>
      rw [hrun] at hearlier
      cases outcome with
      | ok given =>
          obtain ⟨later, hlater⟩ := hnext given middle
          exact ⟨earlier ++ later, .bind hearlier hlater⟩
      | error abort => exact ⟨earlier, .stop next hearlier⟩

theorem Engine.Accounted.around (hcode : Accounted code) (scope : Scope) :
    Accounted (scope.around code) := by
  intro before
  obtain ⟨deliveries, hdelivers⟩ := hcode (scope.openOn before)
  rw [scope.run_around]
  exact ⟨deliveries, .around scope hdelivers⟩

/-- Handing over a call is one delivery, or none. -/
theorem Engine.accounted_enqueue (call : QueuedCall Behaviour) : Accounted (enqueue call) := by
  intro before
  by_cases hcollects : before.Collects
  · rw [(Enqueued.collected hcollects).run_eq]
    exact ⟨_, .accept call hcollects⟩
  · exact ⟨_, .pass call hcollects⟩

theorem Engine.spares_collected_performRegistry (command : RegistryCommand Behaviour) :
    Spares collected (Powers.performRegistry command) := by
  intro before
  obtain ⟨answer, after, hrun, hbeside⟩ := Powers.onlyRegisters_performRegistry command before
  rw [show (Powers.performRegistry command).run.run before = (.ok answer, after) from hrun]
  have hsame : after.besideRegistry.collected = before.besideRegistry.collected :=
    congrArg collected hbeside
  exact hsame

theorem Engine.spares_collected_view (kind : PointKind) : Spares collected (view kind) := by
  intro before
  have hrun : Runs (view kind) before (before.registry.view kind) (before.viewed kind) :=
    runs_view.mpr ⟨rfl, rfl⟩
  rw [show (view kind).run.run before = _ from hrun]
  exact (eq_of_bare_eq collected (fun _ => rfl) (bare_recordAll before _)).trans rfl

/-- That its runs have deliveries is a property which all code has. -/
def Engine.accounted : CodeProperty where
  holds := Accounted
  value _ := accounted_of_spares fun _ => rfl
  stop _ := accounted_of_spares fun _ => rfl
  look := accounted_of_spares fun _ => rfl
  bind := Accounted.bind
  change hsame := accounted_of_spares fun engine =>
    congrArg (fun parts => parts.2.1) (hsame engine)
  deed _ := accounted_of_spares fun _ => rfl
  around scope hcode := hcode.around scope
  registry command := accounted_of_spares (spares_collected_performRegistry command)
  view kind := accounted_of_spares (spares_collected_view kind)
  subscribe _ := accounted_of_spares fun _ => rfl
  unsubscribeAll _ := accounted_of_spares fun _ => rfl
  enqueue := accounted_enqueue
  drain before := ⟨_, .take before⟩

end

/-! ## Running the pending calls -/

theorem Delivers.bind_pure {α β : Type} {first : EngineM α} {before after : Engine} {given : α}
    {deliveries : List Delivery} (hfirst : Delivers first before deliveries (.ok given) after)
    (result : α → β) :
    Delivers (first >>= fun given => pure (result given)) before deliveries (.ok (result given))
      after := by
  have hresult : Delivers (pure (result given)) after [] (.ok (result given)) after :=
    .aside (fun _ => rfl) after
  have hboth : Delivers (first >>= fun given => pure (result given)) before (deliveries ++ [])
      (.ok (result given)) after := hfirst.bind hresult
  rwa [List.append_nil] at hboth

/-- The calls are run one after the other, each once, with these outcomes and with deliveries in
the meantime. -/
inductive Executes (powers : Powers) :
    Engine → List (QueuedCall Behaviour × HandlerResult) → List Delivery → Engine → Prop where
  | nil (engine : Engine) : Executes powers engine [] [] engine
  | cons {call : QueuedCall Behaviour} {outcome : HandlerResult} {before middle after : Engine}
      {runs : List (QueuedCall Behaviour × HandlerResult)} {earlier later : List Delivery}
      (hrun : Delivers (call.run powers) before earlier (.ok outcome) middle)
      (hrest : Executes powers middle runs later after) :
      Executes powers before ((call, outcome) :: runs) (earlier ++ later) after

/-- What is reported of runs: each outcome under the id of its handler. -/
def reported (runs : List (QueuedCall Behaviour × HandlerResult)) :
    List (HandlerId × HandlerResult) :=
  runs.map fun run => (run.1.handler.id, run.2)

section

variable {powers : Powers} {before after : Engine}

/-- Running calls makes the deliveries that are made in the meantime. -/
theorem Executes.delivers {runs : List (QueuedCall Behaviour × HandlerResult)}
    {during : List Delivery} (hexecutes : Executes powers before runs during after) :
    Delivers (powers.runAll (runs.map Prod.fst)) before during (.ok (reported runs)) after := by
  induction hexecutes with
  | nil engine => exact .aside (fun _ => rfl) engine
  | cons hrun hrest ih => exact .bind hrun (ih.bind_pure _)

namespace Powers

/-- Code that runs calls to the end runs each of them once, in order. -/
theorem exists_executes (hpowers : powers.Having accounted) {calls : List (QueuedCall Behaviour)}
    {outcomes : List (HandlerId × HandlerResult)}
    (hrun : Runs (runAll powers calls) before outcomes after) :
    ∃ runs during, runs.map Prod.fst = calls ∧ outcomes = reported runs ∧
      Executes powers before runs during after := by
  induction calls generalizing before outcomes with
  | nil =>
      obtain ⟨rfl, rfl⟩ := runs_pure.mp hrun
      exact ⟨[], [], rfl, rfl, .nil _⟩
  | cons call rest ih =>
      obtain ⟨outcome, middle, hcall, hrest⟩ := runs_bind.mp hrun
      obtain ⟨later, final, hlater, hpure⟩ := runs_bind.mp hrest
      obtain ⟨rfl, rfl⟩ := runs_pure.mp hpure
      obtain ⟨earlier, hdelivers⟩ := QueuedCall.has_run hpowers call before
      rw [show (call.run powers).run.run before = (.ok outcome, middle) from hcall] at hdelivers
      obtain ⟨runs, during, rfl, rfl, hexecutes⟩ := ih hlater
      exact ⟨(call, outcome) :: runs, earlier ++ during, rfl, rfl, .cons hdelivers hexecutes⟩

/-- Running what is pending comes to its end just if the calls that are pending at the start can be
run one after the other. -/
theorem runs_runPending_iff (hpowers : powers.Having accounted) {answer : Answer} :
    Runs (performWith powers .runPending) before answer after ↔
      ∃ runs during, runs.map Prod.fst = before.collected ∧ answer = .outcomes (reported runs) ∧
        Executes powers before.emptied runs during after := by
  have htaken : Runs drainMemory before before.collected before.emptied := rfl
  constructor
  · intro hrun
    obtain ⟨calls, emptied, hdrain, hrest⟩ := runs_bind.mp hrun
    obtain ⟨rfl, rfl⟩ := htaken.unique hdrain
    obtain ⟨outcomes, ended, hruns, hpure⟩ := runs_bind.mp hrest
    obtain ⟨rfl, rfl⟩ := runs_pure.mp hpure
    obtain ⟨runs, during, hcalls, rfl, hexecutes⟩ := exists_executes hpowers hruns
    exact ⟨runs, during, hcalls, rfl, hexecutes⟩
  · rintro ⟨runs, during, hcalls, rfl, hexecutes⟩
    have hruns : Runs (runAll powers before.collected) before.emptied (reported runs) after := by
      rw [← hcalls]
      exact hexecutes.delivers.run_eq
    exact htaken.bind (hruns.bind (runs_pure.mpr ⟨rfl, rfl⟩))

/-- The first delivery of running what is pending is the batch that is then run. -/
theorem delivers_runPending {runs : List (QueuedCall Behaviour × HandlerResult)}
    {during : List Delivery} (hcalls : runs.map Prod.fst = before.collected)
    (hexecutes : Executes powers before.emptied runs during after) :
    Delivers (performWith powers .runPending) before (.taken before.collected :: during)
      (.ok (.outcomes (reported runs))) after := by
  have hruns := hexecutes.delivers
  rw [hcalls] at hruns
  exact .bind (.take before) (hruns.bind_pure _)

/-- A queue that collects calls delivers each of them once, in order of arrival.  Every history of
commands has its deliveries, however deep the commands are nested and wherever one stops; in all
deliveries of all code the batches taken out and the calls that are left are those that were there
and those that arrived.  Running what is pending begins by taking all calls there are, runs just
these, each once and in order, and reports the outcome of each under the id of its handler. -/
theorem collected_calls_are_delivered_once :
    (∀ nesting fuel depth commands before, ∃ deliveries outcome after,
      Delivers (performAll (within nesting fuel depth) commands) before deliveries outcome after) ∧
    (∀ {α : Type} (code : EngineM α) (before after : Engine) (deliveries : List Delivery)
        (outcome : Except Abort α), Delivers code before deliveries outcome after →
      code.run.run before = (outcome, after) ∧
      Delivery.takings deliveries ++ after.collected =
        before.collected ++ Delivery.arrivals deliveries) ∧
    ∀ nesting fuel depth answer before after,
      Runs (performWith (within nesting fuel depth) .runPending) before answer after ↔
        ∃ runs during, runs.map Prod.fst = before.collected ∧
          answer = .outcomes (runs.map fun run => (run.1.handler.id, run.2)) ∧
          Executes (within nesting fuel depth) before.emptied runs during after ∧
          Delivers (performWith (within nesting fuel depth) .runPending) before
            (.taken before.collected :: during) (.ok answer) after := by
  refine ⟨fun nesting fuel depth commands before => ?history, ?deliveries, ?pending⟩
  case history =>
    have hwithin : (within nesting fuel depth).Having accounted := has_within nesting fuel depth
    obtain ⟨deliveries, hdelivers⟩ := has_performAll hwithin commands before
    exact ⟨deliveries, _, _, hdelivers⟩
  case deliveries =>
    intro α code before after deliveries outcome hdelivers
    exact ⟨hdelivers.run_eq, hdelivers.conserves⟩
  case pending =>
    intro nesting fuel depth answer before after
    rw [runs_runPending_iff (has_within nesting fuel depth)]
    constructor
    · rintro ⟨runs, during, hcalls, rfl, hexecutes⟩
      exact ⟨runs, during, hcalls, rfl, hexecutes, delivers_runPending hcalls hexecutes⟩
    · rintro ⟨runs, during, hcalls, rfl, hexecutes, -⟩
      exact ⟨runs, during, hcalls, rfl, hexecutes⟩

end Powers

end

namespace Delivery.Sample

def order : PointKind := ⟨"shop", "order", .hidden⟩

def receipt : PointKind := ⟨"shop", "receipt", .hidden⟩

def request (kind : PointKind) : Command Behaviour :=
  .dispatch ⟨kind, .plain, none, none, ⟨[], [], .fresh⟩, none, none⟩

def mail : Handler Behaviour :=
  { id := "mail", accepts := order, serial := 0
    react := fun body => .operate (request receipt) fun _ => .finish body (.ok .null) }

def print : Handler Behaviour :=
  { id := "print", accepts := receipt, serial := 1
    react := fun body => .finish body (.error (.text "no paper")) }

def engine : Engine :=
  let queued (handler : Handler Behaviour) : Registration Behaviour :=
    (Registration.live handler 0).queued .standard
  { Engine.new .standard 0 with
    registry := ((Registry.empty.insert (queued mail)).1.insert (queued print)).1 }

def commands : List (Command Behaviour) := [request order, .runPending]

end Delivery.Sample

open Delivery.Sample in
/-- The call that is handed over while the pending one runs is left for later. -/
theorem Powers.collected_calls_are_delivered_once_of_sample :
    ∃ deliveries outcome after,
      Delivers (performAll (within 4 4 0) commands) engine deliveries outcome after ∧
      (after.collected.map fun call => call.handler.id) = ["print"] ∧
      Delivery.takings deliveries ++ after.collected = Delivery.arrivals deliveries := by
  obtain ⟨hhistory, hdeliveries, -⟩ := collected_calls_are_delivered_once
  obtain ⟨deliveries, outcome, after, hdelivers⟩ := hhistory 4 4 0 commands engine
  obtain ⟨hrun, hconserves⟩ := hdeliveries _ _ _ _ _ hdelivers
  have hprint : (((performAll (within 4 4 0) commands).run.run engine).2.collected.map
      fun call => call.handler.id) = ["print"] := rfl
  rw [hrun] at hprint
  exact ⟨deliveries, outcome, after, hdelivers, hprint, hconserves⟩

end Plugboard
