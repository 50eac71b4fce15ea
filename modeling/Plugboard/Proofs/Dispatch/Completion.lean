import Plugboard.Proofs.Dispatch.Journey

/-!
# Dispatches come to their end

Nothing in a dispatch stops the engine but the code that it runs for others.  If handlers,
the resolver, the queue and the listeners always come to their end, so does every dispatch.
-/

namespace Plugboard

namespace Engine

variable {α β : Type}

/-- The code comes to its end from every engine. -/
def Completes (code : EngineM α) : Prop :=
  ∀ before, ∃ value after, Runs code before value after

theorem completes_pure (value : α) : Completes (pure value : EngineM α) := by
  intro before
  exact ⟨value, before, runs_pure.mpr ⟨rfl, rfl⟩⟩

theorem Completes.bind {first : EngineM α} {next : α → EngineM β} (hfirst : Completes first)
    (hnext : ∀ value, Completes (next value)) : Completes (first >>= next) := by
  intro before
  obtain ⟨given, middle, hgiven⟩ := hfirst before
  obtain ⟨value, after, hvalue⟩ := hnext given middle
  exact ⟨value, after, runs_bind.mpr ⟨given, middle, hgiven, hvalue⟩⟩

theorem completes_get : Completes (get : EngineM Engine) := by
  intro before
  exact ⟨before, before, runs_get.mpr ⟨rfl, rfl⟩⟩

theorem completes_log_then (event : LogEvent) {next : Unit → EngineM α}
    (hnext : Completes (next ())) : Completes (log event >>= next) := by
  intro before
  obtain ⟨value, after, hvalue⟩ := hnext (before.record (.log event))
  exact ⟨value, after, runs_log_then.mpr hvalue⟩

theorem completes_logAll (events : List LogEvent) : Completes (logAll events) := by
  intro before
  exact ⟨(), before.recordAll events, runs_logAll.mpr rfl⟩

end Engine

/-- The code outside the dispatcher always comes to its end. -/
structure Runner.Completes (runner : Runner) : Prop where
  run : ∀ handler point, Engine.Completes (runner.run handler point)
  resolve : ∀ id, Engine.Completes (runner.resolve id)
  enqueue : ∀ call, Engine.Completes (runner.enqueue call)
  tell : ∀ listener point, Engine.Completes (runner.tell listener point)

namespace Dispatch

open Engine

variable {runner : Runner} {plan : DispatchPlan}

theorem handlerOf_completes (hrunner : runner.Completes) (kind : PointKind)
    (entry : Entry Behaviour) : Completes (handlerOf runner kind entry) := by
  rw [handlerOf]
  cases entry.handler with
  | live handler => exact completes_pure _
  | deferred id =>
      have hlookup : Completes (lookUp runner id) := by
        apply completes_get.bind
        intro engine
        cases engine.usesResolver with
        | true => exact hrunner.resolve id
        | false => exact completes_pure _
      apply hlookup.bind
      intro resolved
      cases resolved with
      | none => exact completes_pure _
      | some handler =>
          dsimp only
          cases checkSignature kind handler.toHandlerCode with
          | ok fits => exact completes_pure _
          | error error => exact completes_pure _

theorem offer_completes (hrunner : runner.Completes) (handler : Handler Behaviour)
    (queuePlan : QueuePlan) (point : Point) :
    Completes (offer runner handler queuePlan point) := by
  apply completes_get.bind
  intro engine
  by_cases hlink : engine.queueLink = .none
  · rw [if_pos hlink]
    exact completes_pure _
  · rw [if_neg hlink]
    by_cases hcopies : point.kind ≠ queuePlan.copies
    · rw [if_pos hcopies]
      exact completes_pure _
    · rw [if_neg hcopies]
      exact hrunner.enqueue _

theorem handOver_completes (hrunner : runner.Completes) (id : HandlerId)
    (handler : Handler Behaviour) (queuePlan : QueuePlan) (point : Point) :
    Completes (handOver runner id handler queuePlan point) := by
  apply (offer_completes hrunner handler queuePlan point).bind
  intro answer
  cases answer with
  | ok accepted => exact completes_log_then _ (completes_pure _)
  | error error =>
      cases error with
      | duplicate key => exact completes_log_then _ (completes_pure _)
      | notConfigured _ | closed _ | full _ | payload _ => exact completes_pure _

theorem invoke_completes (hrunner : runner.Completes) (entry : Entry Behaviour)
    (handler : Handler Behaviour) (point : Point) :
    Completes (invoke runner entry handler point) := by
  apply completes_log_then
  apply (hrunner.run handler point).bind
  intro given
  have hrecorded : Completes (recordOutcome entry.id given.2) := by
    intro before
    exact ⟨(), before.afterOutcome entry.id given.2, runs_recordOutcome.mpr rfl⟩
  apply hrecorded.bind
  intro recorded
  exact completes_pure _

/-- An entry is met in the end, whatever it is. -/
theorem encounter_completes (hrunner : runner.Completes) (entry : Entry Behaviour)
    (point : Point) : Completes (encounter runner entry point) := by
  apply completes_get.bind
  intro engine
  cases engine.muted.contains entry.id with
  | true => exact completes_log_then _ (completes_pure _)
  | false =>
      cases engine.breaker.isAvailable engine.breakerTime entry.id with
      | false => exact completes_log_then _ (completes_pure _)
      | true =>
          apply (handlerOf_completes hrunner point.kind entry).bind
          intro found
          cases found with
          | error error => exact completes_pure _
          | ok handler =>
              dsimp only
              cases entry.queue with
              | none => exact invoke_completes hrunner entry handler point
              | some queuePlan =>
                  apply (handOver_completes hrunner entry.id handler queuePlan point).bind
                  intro met
                  exact completes_pure _

theorem visit_completes (hrunner : runner.Completes) (entry : Entry Behaviour)
    (point : Point) : Completes (visit runner plan entry point) := by
  apply (encounter_completes hrunner entry point).bind
  intro met
  apply (completes_logAll _).bind
  intro logged
  exact completes_pure _

/-- A tour comes to its end, also where handlers fail. -/
theorem tour_completes (hrunner : runner.Completes) (entries : List (Entry Behaviour))
    (point : Point) : Completes (tour runner plan entries point) := by
  induction entries generalizing point with
  | nil => exact completes_pure _
  | cons entry rest ih =>
      apply (visit_completes hrunner entry point).bind
      rintro ⟨step, left⟩
      cases step with
      | proceed record =>
          apply (ih left).bind
          intro later
          exact completes_pure _
      | stop record interruptedBy => exact completes_pure _
      | abort record error => exact completes_pure _

theorem tellAll_completes (hrunner : runner.Completes) (point : Point)
    (listeners : List Listener) : Completes (tellAll runner point listeners) := by
  induction listeners with
  | nil => exact completes_pure _
  | cons listener rest ih =>
      rw [tellAll]
      by_cases hkind : listener.kind = point.kind
      · rw [if_pos hkind]
        apply (hrunner.tell listener point).bind
        intro told
        exact ih
      · rw [if_neg hkind]
        exact ih

theorem notifyOf_completes (hrunner : runner.Completes) (kind : PointKind) (point : Point) :
    Completes (notifyOf runner plan kind point) := by
  have hnotify : Completes (notify runner kind point) := by
    apply completes_get.bind
    intro engine
    cases engine.listeners.get? kind with
    | none => exact completes_pure _
    | some listeners => exact completes_log_then _ (tellAll_completes hrunner point listeners)
  apply completes_get.bind
  intro engine
  cases plan.notify && engine.usesBus with
  | true => exact hnotify
  | false => exact completes_pure _

/-- What follows the visits comes to its end. -/
theorem conclude_completes (hrunner : runner.Completes) (kind : PointKind) (entries : Nat)
    (tour : Tour) : Completes (conclude runner plan kind entries tour) := by
  have hreport : Completes (reportTour plan kind tour) := by
    intro before
    exact ⟨(), reported plan kind tour before, runs_reportTour.mpr rfl⟩
  apply hreport.bind
  intro told
  cases tour.error with
  | some error => exact completes_pure _
  | none =>
      apply (notifyOf_completes hrunner kind tour.point).bind
      intro notified
      exact completes_log_then _ (completes_pure _)

/-- A dispatch comes to its end if the code that it runs for others does. -/
theorem dispatch_completes (hrunner : runner.Completes) (point : Point) :
    Completes (dispatch runner plan point) := by
  have hview : Completes (Engine.view point.kind) := by
    intro before
    exact ⟨_, before.viewed point.kind, runs_view.mpr ⟨rfl, rfl⟩⟩
  apply completes_log_then
  apply completes_get.bind
  intro engine
  cases engine.isSilenced with
  | true => exact completes_log_then _ (completes_pure _)
  | false =>
      apply hview.bind
      intro entries
      cases plan.flags.strict && entries.isEmpty with
      | true => exact completes_pure _
      | false =>
          apply (tour_completes hrunner entries _).bind
          intro tour
          apply (conclude_completes hrunner point.kind entries.length tour).bind
          intro answer
          exact completes_pure _

end Dispatch
end Plugboard
