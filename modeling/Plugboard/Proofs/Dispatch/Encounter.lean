import Plugboard.Proofs.Engine.Runs
import Plugboard.Proofs.Dispatch.Verdict

/-!
# What a visit meets

A visit that comes to its end was one of five things: it met a muted handler, an open
circuit, a handler that cannot be had, a queue, or it ran a handler.  Each is told with the
conditions that led to it and the runs of outside code that it is made of.  None of it
depends on the flags of the dispatch.
-/

namespace Plugboard.Dispatch

open Engine

variable {runner : Runner} {entry : Entry Behaviour} {arrived left : Point}
  {before after : Engine} {met : Encounter}

/-! ## Finding the handler -/

/-- How the search for the handler of an entry comes out for points of a kind. -/
inductive Sought (runner : Runner) (kind : PointKind) (entry : Entry Behaviour)
    (before : Engine) : Except DispatchError (Handler Behaviour) → Engine → Prop where
  | live {handler : Handler Behaviour} (hlive : entry.handler = .live handler) :
      Sought runner kind entry before (.ok handler) before
  | resolved {id : HandlerId} {handler : Handler Behaviour} {after : Engine}
      (hdeferred : entry.handler = .deferred id)
      (hlookup : Runs (lookUp runner id) before (some handler) after)
      (haccepts : handler.accepts = kind) :
      Sought runner kind entry before (.ok handler) after
  | unresolved {id : HandlerId} {after : Engine} (hdeferred : entry.handler = .deferred id)
      (hlookup : Runs (lookUp runner id) before none after) :
      Sought runner kind entry before (.error (.unresolved id)) after
  | mistyped {id : HandlerId} {handler : Handler Behaviour} {after : Engine}
      (hdeferred : entry.handler = .deferred id)
      (hlookup : Runs (lookUp runner id) before (some handler) after)
      (haccepts : handler.accepts ≠ kind) :
      Sought runner kind entry before
        (.error (.registry (.mismatch handler.id handler.accepts.name kind.name))) after

theorem sought_of_runs {kind : PointKind} {outcome : Except DispatchError (Handler Behaviour)}
    (hrun : Runs (handlerOf runner kind entry) before outcome after) :
    Sought runner kind entry before outcome after := by
  rw [handlerOf] at hrun
  cases hhandler : entry.handler with
  | live handler =>
      rw [hhandler] at hrun
      obtain ⟨rfl, rfl⟩ := runs_pure.mp hrun
      exact .live hhandler
  | deferred id =>
      rw [hhandler] at hrun
      obtain ⟨resolved, middle, hlookup, hrun⟩ := runs_bind.mp hrun
      cases resolved with
      | none =>
          obtain ⟨rfl, rfl⟩ := runs_pure.mp hrun
          exact .unresolved hhandler hlookup
      | some handler =>
          by_cases haccepts : handler.accepts = kind
          · simp only [checkSignature, if_pos haccepts] at hrun
            obtain ⟨rfl, rfl⟩ := runs_pure.mp hrun
            exact .resolved hhandler hlookup haccepts
          · simp only [checkSignature, if_neg haccepts] at hrun
            obtain ⟨rfl, rfl⟩ := runs_pure.mp hrun
            exact .mistyped hhandler hlookup haccepts

/-- The search for a handler comes out in just the ways that are told. -/
theorem runs_handlerOf {kind : PointKind} {outcome : Except DispatchError (Handler Behaviour)} :
    Runs (handlerOf runner kind entry) before outcome after ↔
      Sought runner kind entry before outcome after := by
  constructor
  · exact sought_of_runs
  · intro hsought
    rw [handlerOf]
    cases hsought with
    | live hlive =>
        rw [hlive]
        exact runs_pure.mpr ⟨rfl, rfl⟩
    | resolved hdeferred hlookup haccepts =>
        rw [hdeferred]
        apply hlookup.bind
        simp only [checkSignature, if_pos haccepts]
        exact runs_pure.mpr ⟨rfl, rfl⟩
    | unresolved hdeferred hlookup =>
        rw [hdeferred]
        apply hlookup.bind
        exact runs_pure.mpr ⟨rfl, rfl⟩
    | mistyped hdeferred hlookup haccepts =>
        rw [hdeferred]
        apply hlookup.bind
        simp only [checkSignature, if_neg haccepts]
        exact runs_pure.mpr ⟨rfl, rfl⟩

/-- A search comes out in one way. -/
theorem Sought.unique {kind : PointKind} {found other : Except DispatchError (Handler Behaviour)}
    {another : Engine} (hsought : Sought runner kind entry before found after)
    (hother : Sought runner kind entry before other another) :
    other = found ∧ another = after :=
  (runs_handlerOf.mpr hsought).unique (runs_handlerOf.mpr hother)

/-! ## Queueing -/

/-- How handing an entry to the queue comes out. -/
inductive HandedOver (runner : Runner) (id : HandlerId) (handler : Handler Behaviour)
    (plan : QueuePlan) (point : Point) (before : Engine) : Encounter → Engine → Prop where
  | queued {offered : Engine}
      (hoffer : Runs (offer runner handler plan point) before (.ok ()) offered) :
      HandedOver runner id handler plan point before (.skipped .queued)
        (offered.record (.log (event .trace "Handler queued" [about id])))
  | duplicate {key : String} {offered : Engine}
      (hoffer : Runs (offer runner handler plan point) before (.error (.duplicate key)) offered) :
      HandedOver runner id handler plan point before (.skipped .queued)
        (offered.record (.log (event .debug "Duplicate job dropped"
          [about id, ("unique_key", .string key)])))
  | refused {error : QueueError} {offered : Engine}
      (hoffer : Runs (offer runner handler plan point) before (.error error) offered)
      (hnew : ∀ key, error ≠ .duplicate key) :
      HandedOver runner id handler plan point before (.unprepared (.queue error)) offered

theorem handedOver_of_runs {id : HandlerId} {handler : Handler Behaviour} {plan : QueuePlan}
    (hrun : Runs (handOver runner id handler plan arrived) before met after) :
    HandedOver runner id handler plan arrived before met after := by
  rw [handOver] at hrun
  obtain ⟨answer, offered, hoffer, hrun⟩ := runs_bind.mp hrun
  cases answer with
  | ok accepted =>
      simp only [runs_log_then, runs_pure] at hrun
      obtain ⟨rfl, rfl⟩ := hrun
      exact .queued hoffer
  | error error =>
      cases error with
      | duplicate key =>
          simp only [runs_log_then, runs_pure] at hrun
          obtain ⟨rfl, rfl⟩ := hrun
          exact .duplicate hoffer
      | notConfigured _ | closed _ | full _ | payload _ =>
          obtain ⟨rfl, rfl⟩ := runs_pure.mp hrun
          exact .refused hoffer (by simp)

/-! ## Running -/

def invocationEvent (entry : Entry Behaviour) : LogEvent :=
  event .trace "Invoking handler" [about entry.id, ("priority", .ofInt entry.priority)]

/-- A visit gets as far as the handler of the entry. -/
structure Reaches (runner : Runner) (entry : Entry Behaviour) (arrived : Point)
    (before : Engine) (handler : Handler Behaviour) (ready : Engine) : Prop where
  unmuted : before.muted.contains entry.id = false
  available : before.breaker.isAvailable before.breakerTime entry.id = true
  sought : Sought runner arrived.kind entry before (.ok handler) ready

/-- A visit runs the handler of the entry, which leaves the point touched. -/
structure Invokes (runner : Runner) (entry : Entry Behaviour) (arrived : Point)
    (before : Engine) (handler : Handler Behaviour) (started : Engine) (touched : Point)
    (outcome : HandlerResult) (ended : Engine) : Prop where
  inline : entry.queue = none
  reaches : ∃ ready, Reaches runner entry arrived before handler ready ∧
    started = ready.record (.log (invocationEvent entry))
  runs : Runs (runner.run handler arrived) started (touched, outcome) ended

/-- What a visit meets. -/
inductive Meets (runner : Runner) (entry : Entry Behaviour) (arrived : Point)
    (before : Engine) : Encounter → Point → Engine → Prop where
  | muted (hmuted : before.muted.contains entry.id = true) :
      Meets runner entry arrived before (.skipped .muted) arrived
        (before.record (.log (event .trace "Handler muted, skipping" [about entry.id])))
  | circuitOpen (hunmuted : before.muted.contains entry.id = false)
      (hopen : before.breaker.isAvailable before.breakerTime entry.id = false) :
      Meets runner entry arrived before (.skipped .circuitOpen) arrived
        (before.record (.log (event .debug "Circuit open, skipping" [about entry.id])))
  | unprepared {error : DispatchError} {after : Engine}
      (hunmuted : before.muted.contains entry.id = false)
      (havailable : before.breaker.isAvailable before.breakerTime entry.id = true)
      (hsought : Sought runner arrived.kind entry before (.error error) after) :
      Meets runner entry arrived before (.unprepared error) arrived after
  | offered {handler : Handler Behaviour} {plan : QueuePlan} {ready after : Engine}
      {met : Encounter} (hreaches : Reaches runner entry arrived before handler ready)
      (hqueue : entry.queue = some plan)
      (hhanded : HandedOver runner entry.id handler plan arrived ready met after) :
      Meets runner entry arrived before met arrived after
  | invoked {handler : Handler Behaviour} {started ended : Engine} {touched : Point}
      {outcome : HandlerResult}
      (hinvokes : Invokes runner entry arrived before handler started touched outcome ended) :
      Meets runner entry arrived before (.ran outcome)
        (vetoed arrived.kind entry.id outcome touched) (ended.afterOutcome entry.id outcome)

/-- Every visit that comes to its end met one of these. -/
theorem meets_of_runs (hrun : Runs (encounter runner entry arrived) before (met, left) after) :
    Meets runner entry arrived before met left after := by
  rw [encounter, runs_get_then] at hrun
  cases hmuted : before.muted.contains entry.id with
  | true =>
      simp only [hmuted, if_true, runs_log_then, runs_pure, Prod.mk.injEq] at hrun
      obtain ⟨⟨rfl, rfl⟩, rfl⟩ := hrun
      exact .muted hmuted
  | false =>
      cases havailable : before.breaker.isAvailable before.breakerTime entry.id with
      | false =>
          simp only [hmuted, havailable, Bool.not_false, Bool.false_eq_true, if_true, if_false,
            runs_log_then, runs_pure, Prod.mk.injEq] at hrun
          obtain ⟨⟨rfl, rfl⟩, rfl⟩ := hrun
          exact .circuitOpen hmuted havailable
      | true =>
          simp only [hmuted, havailable, Bool.not_true, Bool.false_eq_true, if_false] at hrun
          obtain ⟨found, ready, hfound, hrun⟩ := runs_bind.mp hrun
          have hsought := sought_of_runs hfound
          cases found with
          | error error =>
              obtain ⟨hpair, rfl⟩ := runs_pure.mp hrun
              obtain ⟨rfl, rfl⟩ := Prod.mk.inj hpair
              exact .unprepared hmuted havailable hsought
          | ok handler =>
              have hreaches : Reaches runner entry arrived before handler ready :=
                ⟨hmuted, havailable, hsought⟩
              cases hqueue : entry.queue with
              | some plan =>
                  simp only [hqueue] at hrun
                  obtain ⟨given, middle, hhanded, hrun⟩ := runs_bind.mp hrun
                  obtain ⟨hpair, rfl⟩ := runs_pure.mp hrun
                  obtain ⟨rfl, rfl⟩ := Prod.mk.inj hpair
                  exact .offered hreaches hqueue (handedOver_of_runs hhanded)
              | none =>
                  simp only [hqueue, invoke, runs_log_then] at hrun
                  obtain ⟨⟨touched, outcome⟩, ended, hran, hrun⟩ := runs_bind.mp hrun
                  obtain ⟨noted, middle, hnoted, hrun⟩ := runs_bind.mp hrun
                  obtain rfl := runs_recordOutcome.mp hnoted
                  obtain ⟨hpair, rfl⟩ := runs_pure.mp hrun
                  obtain ⟨rfl, rfl⟩ := Prod.mk.inj hpair
                  exact .invoked ⟨hqueue, ⟨ready, hreaches, rfl⟩, hran⟩

/-! ## Skipping -/

/-- A call that gets as far as the queue was neither muted nor held back by its circuit. -/
theorem HandedOver.met_ne {id : HandlerId} {handler : Handler Behaviour} {plan : QueuePlan}
    (hhanded : HandedOver runner id handler plan arrived before met after) :
    met ≠ .skipped .muted ∧ met ≠ .skipped .circuitOpen := by
  cases hhanded <;> exact ⟨nofun, nofun⟩

/-- An entry is skipped as muted if its handler is muted where the visit begins. -/
theorem Meets.muted_iff (hmeets : Meets runner entry arrived before met left after) :
    met = .skipped .muted ↔ entry.id ∈ before.muted := by
  rw [← List.contains_iff_mem]
  cases hmeets with
  | muted hmuted => exact iff_of_true rfl hmuted
  | circuitOpen hunmuted hopen => exact iff_of_false nofun (Bool.eq_false_iff.mp hunmuted)
  | unprepared hunmuted havailable hsought =>
      exact iff_of_false nofun (Bool.eq_false_iff.mp hunmuted)
  | offered hreaches hqueue hhanded =>
      exact iff_of_false hhanded.met_ne.1 (Bool.eq_false_iff.mp hreaches.unmuted)
  | invoked hinvokes =>
      obtain ⟨ready, hreaches, -⟩ := hinvokes.reaches
      exact iff_of_false nofun (Bool.eq_false_iff.mp hreaches.unmuted)

/-- An entry is skipped for its circuit if that is open where the visit begins. -/
theorem Meets.circuitOpen_iff (hmeets : Meets runner entry arrived before met left after) :
    met = .skipped .circuitOpen ↔ entry.id ∉ before.muted ∧
      before.breaker.isAvailable before.breakerTime entry.id = false := by
  rw [← List.contains_iff_mem]
  cases hmeets with
  | muted hmuted => exact iff_of_false nofun fun hopen => hopen.1 hmuted
  | circuitOpen hunmuted hopen => exact iff_of_true rfl ⟨Bool.eq_false_iff.mp hunmuted, hopen⟩
  | unprepared hunmuted havailable hsought => simp [havailable]
  | offered hreaches hqueue hhanded => simp [hreaches.available, hhanded.met_ne.2]
  | invoked hinvokes =>
      obtain ⟨ready, hreaches, -⟩ := hinvokes.reaches
      simp [hreaches.available]

/-! ## Runs and errors -/

/-- An encounter that ran something ran the handler of the entry. -/
theorem Meets.invokes {outcome : HandlerResult}
    (hmeets : Meets runner entry arrived before (.ran outcome) left after) :
    ∃ handler started touched ended,
      Invokes runner entry arrived before handler started touched outcome ended ∧
        left = vetoed arrived.kind entry.id outcome touched ∧
        after = ended.afterOutcome entry.id outcome := by
  cases hmeets with
  | offered hreaches hqueue hhanded => cases hhanded
  | invoked hinvokes => exact ⟨_, _, _, _, hinvokes, rfl, rfl⟩

/-- A visit that runs a handler meets what the run comes to. -/
theorem Meets.of_invokes {handler : Handler Behaviour} {started ended : Engine}
    {touched : Point} {outcome : HandlerResult}
    (hmeets : Meets runner entry arrived before met left after)
    (hinvokes : Invokes runner entry arrived before handler started touched outcome ended) :
    met = .ran outcome ∧ left = vetoed arrived.kind entry.id outcome touched := by
  obtain ⟨hinline, ⟨ready, hreaches, rfl⟩, hrun⟩ := hinvokes
  cases hmeets with
  | muted hmuted =>
      rw [hreaches.unmuted] at hmuted
      cases hmuted
  | circuitOpen hunmuted hopen =>
      rw [hreaches.available] at hopen
      cases hopen
  | unprepared hunmuted havailable hsought =>
      obtain ⟨hfound, -⟩ := hsought.unique hreaches.sought
      cases hfound
  | offered hother hqueue hhanded =>
      rw [hinline] at hqueue
      cases hqueue
  | invoked hother =>
      obtain ⟨-, ⟨_, hothers, rfl⟩, hotherrun⟩ := hother
      obtain ⟨hfound, rfl⟩ := hothers.sought.unique hreaches.sought
      obtain rfl := Except.ok.inj hfound
      obtain ⟨hpair, -⟩ := hotherrun.unique hrun
      obtain ⟨rfl, rfl⟩ := Prod.mk.inj hpair
      exact ⟨rfl, rfl⟩

/-- A visit that runs nothing leaves the point as it was. -/
theorem Meets.left_eq (hmeets : Meets runner entry arrived before met left after)
    (hidle : ∀ outcome, met ≠ .ran outcome) : left = arrived := by
  cases hmeets with
  | invoked hinvokes => exact absurd rfl (hidle _)
  | _ => rfl

/-- A visit raises an error: its handler fails, cannot be resolved or does not fit, or the
queue does not take the call. -/
inductive Raises (runner : Runner) (entry : Entry Behaviour) (arrived : Point)
    (before after : Engine) : DispatchError → Prop where
  | failed {handler : Handler Behaviour} {started ended : Engine} {touched : Point}
      {failure : Failure}
      (hinvokes : Invokes runner entry arrived before handler started touched (.error failure)
        ended) :
      Raises runner entry arrived before after (.handler entry.id failure)
  | unresolved {id : HandlerId} (hdeferred : entry.handler = .deferred id)
      (hlookup : Runs (lookUp runner id) before none after) :
      Raises runner entry arrived before after (.unresolved id)
  | mistyped {id : HandlerId} {handler : Handler Behaviour}
      (hdeferred : entry.handler = .deferred id)
      (hlookup : Runs (lookUp runner id) before (some handler) after)
      (haccepts : handler.accepts ≠ arrived.kind) :
      Raises runner entry arrived before after
        (.registry (.mismatch handler.id handler.accepts.name arrived.kind.name))
  | unqueued {handler : Handler Behaviour} {plan : QueuePlan} {ready : Engine}
      {error : QueueError} (hreaches : Reaches runner entry arrived before handler ready)
      (hqueue : entry.queue = some plan)
      (hoffer : Runs (offer runner handler plan arrived) ready (.error error) after)
      (hnew : ∀ key, error ≠ .duplicate key) :
      Raises runner entry arrived before after (.queue error)

/-- A visit that meets an error raises it. -/
theorem Meets.raises {error : DispatchError}
    (hmeets : Meets runner entry arrived before met left after)
    (herror : met.error? entry.id = some error) :
    Raises runner entry arrived before after error := by
  cases hmeets with
  | muted hmuted => cases herror
  | circuitOpen hunmuted hopen => cases herror
  | unprepared hunmuted havailable hsought =>
      obtain rfl := Option.some.inj herror
      cases hsought with
      | unresolved hdeferred hlookup => exact .unresolved hdeferred hlookup
      | mistyped hdeferred hlookup haccepts => exact .mistyped hdeferred hlookup haccepts
  | offered hreaches hqueue hhanded =>
      cases hhanded with
      | queued hoffer => cases herror
      | duplicate hoffer => cases herror
      | refused hoffer hnew =>
          obtain rfl := Option.some.inj herror
          exact .unqueued hreaches hqueue hoffer hnew
  | @invoked handler started ended touched outcome hinvokes =>
      cases outcome with
      | ok value => cases herror
      | error failure =>
          obtain rfl := Option.some.inj herror
          exact .failed hinvokes

end Plugboard.Dispatch
