import Plugboard.Proofs.Dispatch.Typing

/-!
# What code keeps

All that code does to the registry and to the queues of its engine is to perform operations on
the one, and to hand calls to the others or take them out.  A property of engines that comes
through this is kept by the parts of the engine and by dispatches, whether they come to their
end or stop.
-/

namespace Plugboard

namespace Engine

/-- Neither the registry nor the queues differ. -/
structure Beside (before after : Engine) : Prop where
  registry : after.registry = before.registry
  memory : after.memory = before.memory
  timed : after.timed = before.timed
  uptime : after.uptime = before.uptime

theorem beside_of_bare_eq {before after : Engine} (hbare : after.bare = before.bare) :
    Beside before after where
  registry := eq_of_bare_eq registry (fun _ => rfl) hbare
  memory := eq_of_bare_eq Engine.memory (fun _ => rfl) hbare
  timed := eq_of_bare_eq Engine.timed (fun _ => rfl) hbare
  uptime := eq_of_bare_eq Engine.uptime (fun _ => rfl) hbare

/-- A property of engines that comes through what is done to registries and queues.  The
entries in the views of its engines suit the kind, and calls made for such entries are
admitted to the queues. -/
structure Invariant where
  holds : Engine → Prop
  suits : PointKind → Entry Behaviour → Prop
  admits : QueuedCall Behaviour → Prop
  beside : ∀ {before after : Engine}, holds before → Beside before after → holds after
  perform : ∀ {engine : Engine} {operation : RegistryOperation Behaviour}, holds engine →
    operation.Proper → holds { engine with registry := (engine.registry.perform operation).2 }
  entries : ∀ {engine : Engine} {kind : PointKind} {entry : Entry Behaviour}, holds engine →
    entry ∈ engine.registry.view kind → suits kind entry
  calls : ∀ {runner : Runner} {entry : Entry Behaviour} {point : Point} {plan : QueuePlan}
    {handler : Handler Behaviour} {before after : Engine} (settings : DispatchSettings),
    suits point.kind entry → entry.queue = some plan →
    Dispatch.Sought runner point.kind entry before (.ok handler) after →
    admits (Dispatch.callOf settings handler plan point)
  collect : ∀ {engine : Engine} {call : QueuedCall Behaviour}, holds engine → admits call →
    holds (engine.collecting call)
  drain : ∀ {engine : Engine}, holds engine →
    holds { engine with memory := .empty }
  offer : ∀ {engine : Engine} {call : QueuedCall Behaviour}, holds engine → admits call →
    holds { engine with
      timed := engine.timed.map fun queue => (queue.enqueue engine.uptime call).1 }

variable {α β : Type} {invariant : Invariant}

/-- The code leaves an engine for which the invariant holds, also where it stops. -/
def Keeps (invariant : Invariant) (code : EngineM α) : Prop :=
  ∀ before, invariant.holds before → invariant.holds (code.run.run before).2

theorem Keeps.of_runs {code : EngineM α} (hcode : Keeps invariant code) {before after : Engine}
    {value : α} (hbefore : invariant.holds before) (hrun : Runs code before value after) :
    invariant.holds after := by
  have hafter := hcode before hbefore
  rwa [show code.run.run before = (.ok value, after) from hrun] at hafter

theorem keeps_pure (value : α) : Keeps invariant (pure value) := fun _ hbefore => hbefore

theorem keeps_throw (abort : Abort) : Keeps invariant (throw abort : EngineM α) :=
  fun _ hbefore => hbefore

theorem keeps_get : Keeps invariant get := fun _ hbefore => hbefore

theorem keeps_modify {change : Engine → Engine}
    (hbeside : ∀ engine, Beside engine (change engine)) : Keeps invariant (modify change) :=
  fun before hbefore => invariant.beside hbefore (hbeside before)

/-- What follows may rely on what the code before it gave. -/
theorem Keeps.bind_runs {first : EngineM α} {next : α → EngineM β} (hfirst : Keeps invariant first)
    (hnext : ∀ {before given middle}, invariant.holds before → Runs first before given middle →
      Keeps invariant (next given)) : Keeps invariant (first >>= next) := by
  intro before hbefore
  have hmiddle := hfirst before hbefore
  rw [run_bind]
  split
  · rename_i given middle hrun
    rw [hrun] at hmiddle
    exact hnext hbefore hrun middle hmiddle
  · rename_i abort middle hrun
    rw [hrun] at hmiddle
    exact hmiddle

theorem Keeps.bind {first : EngineM α} {next : α → EngineM β} (hfirst : Keeps invariant first)
    (hnext : ∀ given, Keeps invariant (next given)) : Keeps invariant (first >>= next) :=
  hfirst.bind_runs fun _ _ => hnext _

/-- Leaving a scope keeps the invariant. -/
theorem Keeps.leaving {code : EngineM α} (hcode : Keeps invariant code) {leave : Engine → Engine}
    (hbeside : ∀ engine, Beside engine (leave engine)) : Keeps invariant (leaving code leave) :=
  fun before hbefore => invariant.beside (hcode before hbefore) (hbeside _)

theorem Keeps.caught {code : EngineM α} (hcode : Keeps invariant code) :
    Keeps invariant (caught code) :=
  hcode

theorem keeps_announce (event : Event) : Keeps invariant (announce event) :=
  keeps_modify fun engine => beside_of_bare_eq (bare_record engine event)

theorem keeps_log (event : LogEvent) : Keeps invariant (log event) := keeps_announce _

theorem keeps_logAll (events : List LogEvent) : Keeps invariant (logAll events) := by
  induction events with
  | nil => exact keeps_pure PUnit.unit
  | cons event rest ih =>
      change Keeps invariant (log event >>= fun _ => logAll rest)
      exact (keeps_log event).bind fun _ => ih

/-! ## Parts of the engine -/

theorem keeps_instantiate (code : HandlerCode Behaviour) : Keeps invariant (instantiate code) :=
  .bind keeps_get fun _ => .bind (keeps_modify fun _ => ⟨rfl, rfl, rfl, rfl⟩) fun _ => keeps_pure _

theorem keeps_nextCount (serial : Nat) : Keeps invariant (nextCount serial) :=
  .bind keeps_get fun _ => .bind (keeps_modify fun _ => ⟨rfl, rfl, rfl, rfl⟩) fun _ => keeps_pure _

theorem keeps_resolve (id : HandlerId) : Keeps invariant (resolve id) := by
  refine .bind keeps_get fun engine => ?_
  split
  · exact keeps_pure _
  · exact keeps_pure _
  · exact .bind (keeps_instantiate _) fun _ => keeps_pure _

theorem keeps_view (kind : PointKind) : Keeps invariant (view kind) := by
  intro before hbefore
  have hrun : Runs (view kind) before (before.registry.view kind) (before.viewed kind) :=
    runs_view.mpr ⟨rfl, rfl⟩
  rw [show (view kind).run.run before = _ from hrun]
  have hproper : RegistryOperation.Proper (.view kind : RegistryOperation Behaviour) :=
    RegistryOperation.proper_of_none rfl
  have hviewed := invariant.perform hbefore hproper
  have hlogged := beside_of_bare_eq (bare_recordAll before
    (if before.registry.isForgotten kind
      then [Registry.viewEvent kind (before.registry.view kind).length] else []))
  exact invariant.beside hviewed ⟨rfl, hlogged.memory, hlogged.timed, hlogged.uptime⟩

theorem keeps_changeBreaker (change : Breaker → Breaker) :
    Keeps invariant (changeBreaker change) :=
  keeps_modify fun _ => ⟨rfl, rfl, rfl, rfl⟩

theorem keeps_recordFailure (id : HandlerId) : Keeps invariant (recordFailure id) :=
  .bind keeps_get fun _ => .bind keeps_get fun _ =>
    .bind (keeps_logAll _) fun _ => keeps_changeBreaker _

theorem keeps_recordSuccess (id : HandlerId) : Keeps invariant (recordSuccess id) :=
  .bind keeps_get fun _ => .bind keeps_get fun _ =>
    .bind (keeps_logAll _) fun _ => keeps_changeBreaker _

theorem keeps_recordOutcome (id : HandlerId) (outcome : HandlerResult) :
    Keeps invariant (recordOutcome id outcome) := by
  cases outcome with
  | ok value => exact keeps_recordSuccess id
  | error failure => exact keeps_recordFailure id

/-- A call that is admitted is handed to one of the queues, or to none. -/
theorem keeps_enqueue {call : QueuedCall Behaviour} (hadmits : invariant.admits call) :
    Keeps invariant (enqueue call) := by
  intro before hbefore
  have henqueued := enqueued_enqueue before call
  generalize ((enqueue call).run.run before).1 = outcome at henqueued
  generalize ((enqueue call).run.run before).2 = after at henqueued
  have hoffer := invariant.offer hbefore hadmits
  cases henqueued with
  | unlinked | refused | missing => exact hbefore
  | collected hlink => exact invariant.collect hbefore hadmits
  | offered hlink htimed hanswer =>
      rw [htimed] at hoffer
      exact invariant.beside hoffer (beside_of_bare_eq (bare_recordAll _ _))
  | crashed hlink htimed hcrashed =>
      rw [htimed] at hoffer
      exact hoffer

end Engine

open Engine

/-! ## Dispatches -/

/-- The code outside the dispatcher keeps the invariant, if no calls but admitted ones are
handed to it, and it keeps the kinds of points. -/
structure Runner.Keeping (invariant : Invariant) (runner : Runner) : Prop where
  run : ∀ handler point, Keeps invariant (runner.run handler point)
  resolve : ∀ id, Keeps invariant (runner.resolve id)
  enqueue : ∀ {call}, invariant.admits call → Keeps invariant (runner.enqueue call)
  tell : ∀ listener point, Keeps invariant (runner.tell listener point)
  kinds : runner.KeepsKinds

section

variable {invariant : Invariant}

namespace Dispatch

variable {runner : Runner} {entry : Entry Behaviour} {point : Point}
  (hrunner : runner.Keeping invariant)

include hrunner

theorem keeps_lookUp (id : HandlerId) : Keeps invariant (lookUp runner id) := by
  refine .bind keeps_get fun engine => ?_
  split
  · exact hrunner.resolve id
  · exact keeps_pure _

theorem keeps_handlerOf (kind : PointKind) (entry : Entry Behaviour) :
    Keeps invariant (handlerOf runner kind entry) := by
  unfold handlerOf
  split
  · exact keeps_pure _
  · refine .bind (keeps_lookUp hrunner _) fun found => ?_
    split
    · exact keeps_pure _
    · split <;> exact keeps_pure _

theorem keeps_handOver {handler : Handler Behaviour} {plan : QueuePlan} (id : HandlerId)
    (hadmits : ∀ settings, invariant.admits (callOf settings handler plan point)) :
    Keeps invariant (handOver runner id handler plan point) := by
  have hoffer : Keeps invariant (offer runner handler plan point) := by
    refine .bind keeps_get fun engine => ?_
    split
    · exact keeps_pure _
    · split
      · exact keeps_pure _
      · exact hrunner.enqueue (hadmits engine.settings)
  refine .bind hoffer fun outcome => ?_
  split
  · exact .bind (keeps_log _) fun _ => keeps_pure _
  · exact .bind (keeps_log _) fun _ => keeps_pure _
  · exact keeps_pure _

theorem keeps_invoke (entry : Entry Behaviour) (handler : Handler Behaviour) (point : Point) :
    Keeps invariant (invoke runner entry handler point) :=
  .bind (keeps_log _) fun _ => .bind (hrunner.run handler point) fun _ =>
    .bind (keeps_recordOutcome _ _) fun _ => keeps_pure _

theorem keeps_encounter (hsuits : invariant.suits point.kind entry) :
    Keeps invariant (encounter runner entry point) := by
  refine .bind keeps_get fun engine => ?_
  split
  · exact .bind (keeps_log _) fun _ => keeps_pure _
  · split
    · exact .bind (keeps_log _) fun _ => keeps_pure _
    · refine .bind_runs (keeps_handlerOf hrunner _ _) fun {before found middle} _ hfound => ?_
      cases found with
      | error error => exact keeps_pure _
      | ok handler =>
          cases hqueue : entry.queue with
          | none => exact keeps_invoke hrunner _ _ _
          | some plan =>
              have hadmits (settings : DispatchSettings) :=
                invariant.calls settings hsuits hqueue (sought_of_runs hfound)
              exact .bind (keeps_handOver hrunner _ hadmits) fun _ => keeps_pure _

theorem keeps_visit (plan : DispatchPlan) (hsuits : invariant.suits point.kind entry) :
    Keeps invariant (visit runner plan entry point) :=
  .bind (keeps_encounter hrunner hsuits) fun _ =>
    .bind (keeps_logAll _) fun _ => keeps_pure _

theorem keeps_tour (plan : DispatchPlan) {entries : List (Entry Behaviour)}
    (hsuits : ∀ entry ∈ entries, invariant.suits point.kind entry) :
    Keeps invariant (tour runner plan entries point) := by
  induction entries generalizing point with
  | nil => exact keeps_pure _
  | cons entry rest ih =>
      obtain ⟨hentry, hrest⟩ := List.forall_mem_cons.mp hsuits
      refine .bind_runs (keeps_visit hrunner plan hentry) fun {before given middle} _ hvisit => ?_
      obtain ⟨step, left⟩ := given
      obtain ⟨leg, hhappens, rfl, rfl, -, -, rfl, -⟩ := exists_leg hvisit
      -- the visit leaves a point of the kind that the rest of the entries is there for
      rw [← hhappens.meets.kind_left hrunner.kinds] at hrest
      cases step with
      | stop record interruptedBy => exact keeps_pure _
      | abort record error => exact keeps_pure _
      | proceed record => exact .bind (ih hrest) fun _ => keeps_pure _

theorem keeps_tellAll (point : Point) (listeners : List Listener) :
    Keeps invariant (tellAll runner point listeners) := by
  induction listeners with
  | nil => exact keeps_pure _
  | cons listener rest ih =>
      unfold tellAll
      split
      · exact .bind (hrunner.tell listener point) fun _ => ih
      · exact ih

theorem keeps_notify (key : PointKind) (point : Point) :
    Keeps invariant (notify runner key point) := by
  refine .bind keeps_get fun engine => ?_
  split
  · exact keeps_pure _
  · exact .bind (keeps_log _) fun _ => keeps_tellAll hrunner _ _

omit hrunner in
theorem keeps_report (timeline : Timeline) : Keeps invariant (report timeline) := by
  refine .bind keeps_get fun engine => ?_
  split
  · exact keeps_announce _
  · exact keeps_logAll _

theorem keeps_conclude (plan : DispatchPlan) (kind : PointKind) (entries : Nat) (tour : Tour) :
    Keeps invariant (conclude runner plan kind entries tour) := by
  have hreport : Keeps invariant (reportTour plan kind tour) := by
    unfold reportTour
    split
    · exact keeps_report _
    · exact keeps_pure _
  have hnotify : Keeps invariant (notifyOf runner plan kind tour.point) := by
    refine .bind keeps_get fun engine => ?_
    split
    · exact keeps_notify hrunner _ _
    · exact keeps_pure _
  refine .bind hreport fun _ => ?_
  split
  · exact keeps_pure _
  · exact .bind hnotify fun _ => .bind (keeps_log _) fun _ => keeps_pure _

/-- A dispatch keeps the invariant if the code outside the dispatcher does. -/
theorem keeps_dispatch (plan : DispatchPlan) (point : Point) :
    Keeps invariant (dispatch runner plan point) := by
  refine .bind (keeps_log _) fun _ => .bind keeps_get fun engine => ?_
  split
  · exact .bind (keeps_log _) fun _ => keeps_pure _
  · refine .bind_runs (keeps_view _) fun {before entries middle} hbefore hview => ?_
    obtain ⟨rfl, -⟩ := runs_view.mp hview
    have hsuits : ∀ entry ∈ before.registry.view point.kind,
        invariant.suits (point.modifyInterruption fun _ => .fresh).kind entry := by
      intro entry hentry
      rw [kind_modifyInterruption]
      exact invariant.entries hbefore hentry
    split
    · exact keeps_pure _
    · exact .bind (keeps_tour hrunner _ hsuits) fun _ =>
        .bind (keeps_conclude hrunner _ _ _ _) fun _ => keeps_pure _

end Dispatch

end

end Plugboard
