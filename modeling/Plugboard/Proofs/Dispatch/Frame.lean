import Plugboard.Proofs.Dispatch.Bookkeeping

/-!
# What a dispatch leaves alone

By itself a dispatch logs, tells the breaker what it ran, and has the registry remember a view.  A
part of the engine that none of this touches is changed by a dispatch only where the code outside
the dispatcher changes it.
-/

namespace Plugboard

open Engine

variable {γ : Type} {part : Engine → γ}

namespace Engine

/-- The steps that a dispatch takes by itself leave the part alone. -/
structure Untouched (part : Engine → γ) : Prop where
  record : ∀ engine event, part (engine.record (.log event)) = part engine
  breaker : ∀ (engine : Engine) breaker, part { engine with breaker } = part engine
  registry : ∀ (engine : Engine) registry, part { engine with registry } = part engine

namespace Untouched

variable (huntouched : Untouched part)

include huntouched

theorem recordAll (engine : Engine) (events : List LogEvent) :
    part (engine.recordAll events) = part engine := by
  induction events generalizing engine with
  | nil => rfl
  | cons event events ih =>
      exact (ih (engine.record (.log event))).trans (huntouched.record engine event)

theorem afterOutcome (engine : Engine) (id : HandlerId) (outcome : HandlerResult) :
    part (engine.afterOutcome id outcome) = part engine :=
  (huntouched.breaker _ _).trans (huntouched.recordAll engine _)

theorem viewed (engine : Engine) (kind : PointKind) : part (engine.viewed kind) = part engine :=
  (huntouched.registry _ _).trans (huntouched.recordAll engine _)

theorem opened (engine : Engine) (kind : PointKind) :
    part (Dispatch.opened engine kind) = part engine :=
  (huntouched.viewed _ kind).trans (huntouched.record engine _)

end Untouched

end Engine

/-- Code outside the dispatcher that visits of the entries run leaves the part alone. -/
structure Runner.Spares (part : Engine → γ) (runner : Runner) (entries : List (Entry Behaviour)) :
    Prop where
  run : ∀ entry ∈ entries, ∀ handler, Dispatch.Provides runner entry handler →
    ∀ point, Engine.Spares part (runner.run handler point)
  resolve : ∀ id, Engine.Spares part (runner.resolve id)
  enqueue : ∀ call, Engine.Spares part (runner.enqueue call)

namespace Dispatch

variable {runner : Runner} {plan : DispatchPlan} {entries : List (Entry Behaviour)}
  {point left : Point} {before after : Engine} {leg : Leg} {legs : List Leg}

/-! ## Visits -/

section

variable (hspares : runner.Spares part entries)

include hspares

theorem Sought.part_eq {kind : PointKind} {entry : Entry Behaviour}
    {found : Except DispatchError (Handler Behaviour)}
    (hsought : Sought runner kind entry before found after) : part after = part before := by
  have hlookup (id : HandlerId) : Engine.Spares part (lookUp runner id) := by
    refine .bind spares_get fun engine => ?_
    split
    · exact hspares.resolve id
    · exact spares_pure _
  cases hsought with
  | live hlive => rfl
  | resolved hdeferred hrun haccepts => exact (hlookup _).runs hrun
  | unresolved hdeferred hrun => exact (hlookup _).runs hrun
  | mistyped hdeferred hrun haccepts => exact (hlookup _).runs hrun

theorem HandedOver.part_eq (huntouched : Untouched part) {id : HandlerId}
    {handler : Handler Behaviour} {queuePlan : QueuePlan} {met : Encounter}
    (hhanded : HandedOver runner id handler queuePlan point before met after) :
    part after = part before := by
  have hoffers : Engine.Spares part (offer runner handler queuePlan point) := by
    refine .bind spares_get fun engine => ?_
    split
    · exact spares_pure _
    · split
      · exact spares_pure _
      · exact hspares.enqueue _
  cases hhanded with
  | queued hoffer => exact (huntouched.record _ _).trans (hoffers.runs hoffer)
  | duplicate hoffer => exact (huntouched.record _ _).trans (hoffers.runs hoffer)
  | refused hoffer hnew => exact hoffers.runs hoffer

/-- A visit leaves the part alone. -/
theorem Leg.Happens.part_after (huntouched : Untouched part) (hhappens : leg.Happens runner)
    (hentry : leg.entry ∈ entries) (plan : DispatchPlan) :
    part (leg.after plan) = part leg.before := by
  suffices hreached : part leg.reached = part leg.before from
    (huntouched.recordAll leg.reached _).trans hreached
  obtain ⟨entry, arrived, before, met, left, reached⟩ := leg
  have hmeets : Meets runner entry arrived before met left reached := hhappens.meets
  cases hmeets with
  | muted hmuted => exact huntouched.record before _
  | circuitOpen hunmuted hopen => exact huntouched.record before _
  | unprepared hunmuted havailable hsought => exact hsought.part_eq hspares
  | offered hreaches hqueue hhanded =>
      exact (hhanded.part_eq hspares huntouched).trans (hreaches.sought.part_eq hspares)
  | @invoked handler started ended touched outcome hinvokes =>
      obtain ⟨ready, hreaches, hstarted⟩ := hinvokes.reaches
      have hrun := hspares.run entry hentry handler ⟨_, _, _, hreaches.sought⟩ arrived
      calc part (ended.afterOutcome entry.id outcome)
          = part ended := huntouched.afterOutcome ended entry.id outcome
        _ = part started := hrun.runs hinvokes.runs
        _ = part ready := by rw [hstarted, huntouched.record]
        _ = part before := hreaches.sought.part_eq hspares

/-- Visits leave the part alone, one after the other. -/
theorem Trail.part_eq (huntouched : Untouched part)
    (htrail : Trail runner plan before point legs after left)
    (hentries : ∀ leg ∈ legs, leg.entry ∈ entries) : part after = part before := by
  induction htrail with
  | here engine point => rfl
  | visit hhappens hrest ih =>
      obtain ⟨hentry, hlater⟩ := List.forall_mem_cons.mp hentries
      exact (ih hlater).trans (hhappens.part_after hspares huntouched hentry plan)

end

/-! ## Notifications -/

/-- Listeners that leave the part alone are all that is run in a notification. -/
theorem part_notifyOf (huntouched : Untouched part) {kind : PointKind} (engine : Engine)
    (hlisteners : plan.notify = true → ∀ listener ∈ (engine.listeners.get? kind).getD [],
      Engine.Spares part (runner.tell listener point)) :
    part ((notifyOf runner plan kind point).run.run engine).2 = part engine := by
  have htell (listeners : List Listener)
      (hspares : ∀ listener ∈ listeners, Engine.Spares part (runner.tell listener point)) :
      Engine.Spares part (tellAll runner point listeners) := by
    induction listeners with
    | nil => exact spares_pure _
    | cons listener rest ih =>
        obtain ⟨hlistener, hrest⟩ := List.forall_mem_cons.mp hspares
        unfold tellAll
        split
        · exact hlistener.bind fun _ => ih hrest
        · exact ih hrest
  have hget {next : Engine → EngineM Unit} :
      (get >>= next).run.run engine = (next engine).run.run engine := rfl
  rw [notifyOf, hget]
  split
  · rename_i hnotify
    rw [notify, hget]
    split
    · rfl
    · rename_i listeners hlistening
      rw [hlistening] at hlisteners
      have hlogged (event : LogEvent) : Engine.Spares part (log event) :=
        fun engine => huntouched.record engine event
      have htold := htell listeners (hlisteners (Bool.and_eq_true_iff.mp hnotify).1)
      exact (hlogged _).bind (fun _ => htold) engine
  · rfl

end Dispatch
end Plugboard
