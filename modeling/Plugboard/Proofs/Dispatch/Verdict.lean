import Plugboard.Engine.Dispatch

/-!
# What follows from an encounter

The dispatch goes on, stops, or fails.  Which of these is decided by what the visit met, by
the point it left, and by the plan; every way to decide is told once, with its reason.
-/

namespace Plugboard

namespace Encounter

def outcome : Encounter → VisitOutcome
  | .skipped reason => .skipped reason
  | .unprepared error => .failure (.dispatch error)
  | .ran (.ok value) => .success value
  | .ran (.error failure) => .failure failure

/-- The error that an encounter at an entry ends an aborting dispatch with. -/
def error? (id : HandlerId) : Encounter → Option DispatchError
  | .unprepared error => some error
  | .ran (.error failure) => some (.handler id failure)
  | _ => none

end Encounter

namespace Dispatch

variable {plan : DispatchPlan} {id : HandlerId} {met : Encounter} {point : Point}

/-- A run of a handler that the dispatch survives. -/
def Survives (plan : DispatchPlan) (outcome : HandlerResult) : Prop :=
  plan.flags.graceful = true ∨ ∃ value, outcome = .ok value

def Satisfies (plan : DispatchPlan) (outcome : HandlerResult) : Prop :=
  ∃ value, outcome = .ok value ∧ plan.isSatisfiedBy value = true

theorem not_satisfies_of_none {outcome : HandlerResult} (hstrategy : plan.strategy = none) :
    ¬ Satisfies plan outcome := by
  rintro ⟨value, -, hsatisfied⟩
  rw [DispatchPlan.isSatisfiedBy, hstrategy] at hsatisfied
  cases hsatisfied

/-- What follows from an encounter, and why. -/
inductive Verdict (plan : DispatchPlan) (id : HandlerId) (point : Point) :
    Encounter → VisitStep → Prop where
  | skipped (reason : SkipReason) :
      Verdict plan id point (.skipped reason) (.proceed ⟨id, .skipped reason⟩)
  | unprepared {error : DispatchError} (hgraceful : plan.flags.graceful = true) :
      Verdict plan id point (.unprepared error) (.proceed ⟨id, .failure (.dispatch error)⟩)
  | ran {outcome : HandlerResult} (hsurvives : Survives plan outcome)
      (hinterrupter : point.interrupter? = none) (hsatisfies : ¬ Satisfies plan outcome) :
      Verdict plan id point (.ran outcome) (.proceed ⟨id, (Encounter.ran outcome).outcome⟩)
  | interrupted {outcome : HandlerResult} {interrupter : HandlerId}
      (hsurvives : Survives plan outcome) (hinterrupter : point.interrupter? = some interrupter) :
      Verdict plan id point (.ran outcome)
        (.stop ⟨id, (Encounter.ran outcome).outcome⟩ (some interrupter))
  | satisfied {outcome : HandlerResult} (hinterrupter : point.interrupter? = none)
      (hsatisfies : Satisfies plan outcome) :
      Verdict plan id point (.ran outcome) (.stop ⟨id, (Encounter.ran outcome).outcome⟩ none)
  | unpreparedAborts {error : DispatchError} (hgraceful : plan.flags.graceful = false) :
      Verdict plan id point (.unprepared error) (.abort none error)
  | ranAborts {failure : Failure} (hgraceful : plan.flags.graceful = false) :
      Verdict plan id point (.ran (.error failure))
        (.abort (some ⟨id, .failure failure⟩) (.handler id failure))

/-- What follows from an encounter is what is told of it. -/
theorem verdict_spec (plan : DispatchPlan) (id : HandlerId) (met : Encounter) (point : Point) :
    Verdict plan id point met (verdict plan id met point) := by
  cases met with
  | skipped reason => exact .skipped reason
  | unprepared error =>
      rw [verdict]
      cases hgraceful : plan.flags.graceful with
      | true => exact .unprepared hgraceful
      | false => exact .unpreparedAborts hgraceful
  | ran outcome =>
      cases outcome with
      | ok value =>
          rw [verdict, haltOr]
          have hsurvives : Survives plan (.ok value) := .inr ⟨value, rfl⟩
          cases hinterrupter : point.interrupter? with
          | some interrupter => exact .interrupted hsurvives hinterrupter
          | none =>
              cases hsatisfied : plan.isSatisfiedBy value with
              | true => exact .satisfied hinterrupter ⟨value, rfl, hsatisfied⟩
              | false =>
                  apply Verdict.ran hsurvives hinterrupter
                  rintro ⟨other, hother, hsatisfies⟩
                  obtain rfl := Except.ok.inj hother
                  rw [hsatisfied] at hsatisfies
                  cases hsatisfies
      | error failure =>
          rw [verdict, haltOr]
          cases hgraceful : plan.flags.graceful with
          | false => exact .ranAborts hgraceful
          | true =>
              have hsurvives : Survives plan (.error failure) := .inl hgraceful
              cases hinterrupter : point.interrupter? with
              | some interrupter => exact .interrupted hsurvives hinterrupter
              | none =>
                  apply Verdict.ran hsurvives hinterrupter
                  rintro ⟨other, hother, hsatisfies⟩
                  cases hother

/-- A dispatch goes on after a run of a handler only if nothing speaks against it. -/
theorem of_verdict_proceed {record : Visit}
    (hstep : verdict plan id met point = .proceed record) :
    record = ⟨id, met.outcome⟩ ∧
      ∀ outcome, met = .ran outcome → point.interrupter? = none ∧ ¬ Satisfies plan outcome := by
  have hverdict := verdict_spec plan id met point
  rw [hstep] at hverdict
  cases hverdict with
  | skipped reason | unprepared hgraceful =>
      constructor
      · rfl
      · intro outcome hmet
        cases hmet
  | ran hsurvives hinterrupter hsatisfies =>
      constructor
      · rfl
      · intro outcome hmet
        obtain rfl := Encounter.ran.inj hmet
        exact ⟨hinterrupter, hsatisfies⟩

/-- A dispatch stops only after a handler ran, for its strategy or an interruption. -/
theorem of_verdict_stop {record : Visit} {interruptedBy : Option HandlerId}
    (hstep : verdict plan id met point = .stop record interruptedBy) :
    record = ⟨id, met.outcome⟩ ∧ interruptedBy = point.interrupter? ∧
      ∃ outcome, met = .ran outcome ∧ (point.interrupter? ≠ none ∨ Satisfies plan outcome) := by
  have hverdict := verdict_spec plan id met point
  rw [hstep] at hverdict
  cases hverdict with
  | interrupted hsurvives hinterrupter =>
      have hveto : point.interrupter? ≠ none := by
        rw [hinterrupter]
        exact Option.some_ne_none _
      exact ⟨rfl, hinterrupter.symm, _, rfl, .inl hveto⟩
  | satisfied hinterrupter hsatisfies =>
      exact ⟨rfl, hinterrupter.symm, _, rfl, .inr hsatisfies⟩

/-- A dispatch fails with the error of the encounter, and only if it is not graceful. -/
theorem of_verdict_abort {record : Option Visit} {error : DispatchError}
    (hstep : verdict plan id met point = .abort record error) :
    plan.flags.graceful = false ∧ met.error? id = some error := by
  have hverdict := verdict_spec plan id met point
  rw [hstep] at hverdict
  cases hverdict with
  | unpreparedAborts hgraceful => exact ⟨hgraceful, rfl⟩
  | ranAborts hgraceful => exact ⟨hgraceful, rfl⟩

/-- An encounter that ends the dispatch with its error is not logged. -/
theorem verdictEvents_of_abort {record : Option Visit} {error : DispatchError}
    (hstep : verdict plan id met point = .abort record error) :
    verdictEvents plan id met point = [] := by
  have hverdict := verdict_spec plan id met point
  rw [hstep] at hverdict
  cases hverdict with
  | unpreparedAborts hgraceful => simp [verdictEvents, hgraceful]
  | ranAborts hgraceful => simp [verdictEvents, hgraceful]

end Dispatch
end Plugboard
