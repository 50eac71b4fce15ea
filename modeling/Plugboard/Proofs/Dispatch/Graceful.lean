import Plugboard.Proofs.Dispatch.Conservation

/-!
# Graceful and aborting dispatches

A graceful dispatch collects the errors that an aborting one fails with.  Both meet the same
entries in the same way, because what a visit meets does not depend on the plan; they part
at the first visit that raises an error, and up to there they leave the same behind.
-/

namespace Plugboard

def DispatchPlan.withGraceful (plan : DispatchPlan) (graceful : Bool) : DispatchPlan :=
  { plan with flags := { plan.flags with graceful } }

namespace Dispatch

open Engine

variable {runner : Runner} {plan : DispatchPlan} {entries : List (Entry Behaviour)}
  {id : HandlerId} {met : Encounter} {point left : Point} {before after : Engine}
  {leg last : Leg} {legs early later : List Leg} {tour : Tour}

/-! ## Encounters without and with an error -/

/-- Where nothing went wrong both modes come to the same verdict. -/
theorem verdict_withGraceful_of_error?_eq_none (plan : DispatchPlan) (point : Point)
    (hnone : met.error? id = none) :
    verdict (plan.withGraceful true) id met point =
        verdict (plan.withGraceful false) id met point ∧
      verdictEvents (plan.withGraceful true) id met point =
        verdictEvents (plan.withGraceful false) id met point := by
  cases met with
  | skipped reason => exact ⟨rfl, rfl⟩
  | unprepared error => cases hnone
  | ran outcome =>
      cases outcome with
      | ok value => exact ⟨rfl, rfl⟩
      | error failure => cases hnone

/-- Where something went wrong a dispatch that is not graceful ends. -/
theorem exists_verdict_abort (plan : DispatchPlan) (point : Point) {error : DispatchError}
    (herror : met.error? id = some error) :
    ∃ record, verdict (plan.withGraceful false) id met point = .abort record error := by
  cases met with
  | skipped reason => cases herror
  | unprepared given =>
      obtain rfl := Option.some.inj herror
      exact ⟨none, rfl⟩
  | ran outcome =>
      cases outcome with
      | ok value => cases herror
      | error failure =>
          obtain rfl := Option.some.inj herror
          exact ⟨some ⟨id, .failure failure⟩, rfl⟩

namespace Leg

/-- A visit is recorded as a failure exactly if it raises an error, which reads the same. -/
theorem error?_of_failure? {failure : Failure} (hfailure : leg.failure? = some (id, failure)) :
    ∃ error, leg.met.error? leg.entry.id = some error ∧ error.message = failure.message := by
  rw [failure?] at hfailure
  cases hmet : leg.met with
  | skipped reason =>
      rw [hmet] at hfailure
      cases hfailure
  | unprepared error =>
      rw [hmet] at hfailure
      cases hfailure
      exact ⟨error, rfl, (Failure.message_dispatch error).symm⟩
  | ran outcome =>
      cases outcome with
      | ok value =>
          rw [hmet] at hfailure
          cases hfailure
      | error given =>
          rw [hmet] at hfailure
          cases hfailure
          exact ⟨.handler leg.entry.id failure, rfl, DispatchError.message_handler _ failure⟩

theorem error?_of_failure?_eq_none (hnone : leg.failure? = none) :
    leg.met.error? leg.entry.id = none := by
  rw [failure?] at hnone
  cases hmet : leg.met with
  | skipped reason => rfl
  | unprepared error =>
      rw [hmet] at hnone
      cases hnone
  | ran outcome =>
      cases outcome with
      | ok value => rfl
      | error failure =>
          rw [hmet] at hnone
          cases hnone

/-- A visit without an error is the same in both dispatches. -/
theorem agrees_of_failure?_eq_none (plan : DispatchPlan) (hnone : leg.failure? = none) :
    leg.Agrees (plan.withGraceful true) (plan.withGraceful false) := by
  obtain ⟨hstep, hevents⟩ := verdict_withGraceful_of_error?_eq_none plan leg.left
    (error?_of_failure?_eq_none hnone)
  constructor
  · exact hstep
  · rw [after, after, hevents]

end Leg

/-! ## Journeys without and with an error -/

namespace Journey

/-- Without an error the graceful journey is the aborting one. -/
theorem aborting_of_no_failure
    (hjourney : Journey runner (plan.withGraceful true) entries before point legs tour after)
    (hnone : ∀ leg ∈ legs, leg.failure? = none) :
    Journey runner (plan.withGraceful false) entries before point legs tour after :=
  hjourney.of_agrees fun leg hleg => Leg.agrees_of_failure?_eq_none plan (hnone leg hleg)

/-- The aborting journey ends with the first error of the graceful one. -/
theorem aborting_of_failure {error : DispatchError}
    (hjourney : Journey runner (plan.withGraceful true) entries before point
      (early ++ last :: later) tour after)
    (hnone : ∀ leg ∈ early, leg.failure? = none)
    (herror : last.met.error? last.entry.id = some error) :
    ∃ aborted : Tour,
      Journey runner (plan.withGraceful false) entries before point (early ++ [last]) aborted
        last.reached ∧
      aborted.error = some error ∧ aborted.point = last.left := by
  obtain ⟨record, hstep⟩ := exists_verdict_abort plan last.left herror
  have hafter : last.after (plan.withGraceful false) = last.reached := by
    rw [Leg.after, verdictEvents_of_abort hstep]
    rfl
  have hcut := hjourney.cut
    (fun leg hleg => Leg.agrees_of_failure?_eq_none plan (hnone leg hleg))
    fun rest hhappens => .aborts rest hhappens hstep
  rw [hafter] at hcut
  exact ⟨_, hcut, rfl, rfl⟩

/-- A journey is the same for everyone who listens. -/
theorem withTell (hjourney : Journey runner plan entries before point legs tour after)
    (tell : Listener → Point → EngineM Unit) :
    Journey { runner with tell } plan entries before point legs tour after := by
  induction hjourney with
  | finishes engine point => exact .finishes engine point
  | proceeds hhappens hstep hrest ih => exact .proceeds hhappens hstep ih
  | stops rest hhappens hstep => exact .stops rest hhappens hstep
  | aborts rest hhappens hstep => exact .aborts rest hhappens hstep

/-- A graceful journey does not fail. -/
theorem error_eq_none
    (hjourney : Journey runner (plan.withGraceful true) entries before point legs tour after) :
    tour.error = none := by
  cases hjourney.ends with
  | finishes hentries hearly => rfl
  | stops hearly hstep => rfl
  | aborts hearly hstep =>
      obtain ⟨hgraceful, -⟩ := of_verdict_abort hstep
      cases hgraceful

end Journey

/-! ## The two dispatches -/

/-- What an aborting dispatch does where the graceful one collected a first error: it fails
with an error that the same visit raised and that reads the same, leaves the point and
everything but the events of the engine as the graceful one had them after that visit, and
tells no listener. -/
def AbortsAtFirstError (runner : Runner) (plan : DispatchPlan) (point left : Point)
    (before : Engine) (id : HandlerId) (failure : Failure) : Prop :=
  ∃ early last later toured error ended,
    Trail runner (plan.withGraceful true) (opened before point.kind)
      (point.modifyInterruption fun _ => .fresh) (early ++ last :: later) toured left ∧
    (∀ leg ∈ early, leg.failure? = none) ∧ last.failure? = some (id, failure) ∧
    Raises runner last.entry last.arrived last.before last.reached error ∧
    error.message = failure.message ∧
    ended.bare = (last.after (plan.withGraceful true)).bare ∧
    ∀ tell, Runs (dispatch { runner with tell } (plan.withGraceful false) point) before
      (last.left, .error error) ended

/-- The aborting dispatch ends where the graceful journey met its first error. -/
theorem Journey.abortsAtFirstError {toured : Engine} {failure : Failure}
    (hjourney : Journey runner (plan.withGraceful true) (before.registry.view point.kind)
      (opened before point.kind) (point.modifyInterruption fun _ => .fresh)
      (early ++ last :: later) tour toured)
    (hsounds : before.isSilenced = false)
    (hhandled : plan.flags.strict = true → before.registry.view point.kind ≠ [])
    (hearly : ∀ leg ∈ early, leg.failure? = none) (hfailure : last.failure? = some (id, failure)) :
    AbortsAtFirstError runner plan point tour.point before id failure := by
  obtain ⟨error, herror, hmessage⟩ := Leg.error?_of_failure? hfailure
  obtain ⟨aborted, haborting, haborted, hpoint⟩ := hjourney.aborting_of_failure hearly herror
  have hlast : last.Happens runner :=
    hjourney.trail.happens last (List.mem_append_right _ List.mem_cons_self)
  have hraises := hlast.meets.raises herror
  have hbare : (reported (plan.withGraceful false) point.kind aborted last.reached).bare =
      (last.after (plan.withGraceful true)).bare := by
    rw [bare_reported, Leg.after, bare_recordAll]
  have haborts : ∀ tell, Runs (dispatch { runner with tell } (plan.withGraceful false) point)
      before (last.left, .error error)
      (reported (plan.withGraceful false) point.kind aborted last.reached) := by
    intro tell
    rw [← hpoint]
    apply Dispatched.runs
    exact .visits hsounds hhandled (haborting.withTell tell)
      ((runs_conclude_error haborted).mpr ⟨rfl, rfl⟩)
  exact ⟨early, last, later, toured, error, _, hjourney.trail, hearly, hfailure, hraises, hmessage,
    hbare, haborts⟩

/-- A graceful dispatch fails only where a strict one finds nothing.  An aborting dispatch from
the same engine does the same if no error was collected, and ends with the first error
otherwise. -/
theorem graceful_dispatch_simulates_aborting {runner : Runner} {plan : DispatchPlan}
    {point left : Point} {before after : Engine} {outcome : Except DispatchError DispatchResult}
    (hrun : Runs (dispatch runner (plan.withGraceful true) point) before (left, outcome) after) :
    match outcome with
    | .error error => error = .unhandled point.kind.name
    | .ok result =>
      (result.errors = [] →
        Runs (dispatch runner (plan.withGraceful false) point) before (left, .ok result) after) ∧
      ∀ id failure rest, result.errors = (id, failure) :: rest →
        AbortsAtFirstError runner plan point left before id failure := by
  cases runs_dispatch.mp hrun with
  | silenced hsilenced =>
      constructor
      · intro hnone
        exact runs_dispatch.mpr (.silenced hsilenced)
      · intro id failure rest herrors
        cases herrors
  | unhandled hsounds hstrict hempty => rfl
  | @visits legs tour toured after outcome hsounds hhandled hjourney hconclude =>
      obtain ⟨told, htold, rfl, rfl⟩ :=
        (runs_conclude_ok hjourney.error_eq_none).mp hconclude
      have herrors : (tour.result point.kind).errors = legs.filterMap Leg.failure? :=
        (hjourney.accounts hjourney.error_eq_none).errors
      constructor
      · intro hnone
        rw [herrors, List.filterMap_eq_nil_iff] at hnone
        have haborting := hjourney.aborting_of_no_failure hnone
        exact runs_dispatch.mpr (.visits hsounds hhandled haborting hconclude)
      · intro id failure rest hfirst
        rw [herrors] at hfirst
        obtain ⟨early, last, later, rfl, hearly, hfailure, -⟩ :=
          List.filterMap_eq_cons_iff.mp hfirst
        exact hjourney.abortsAtFirstError hsounds hhandled hearly hfailure

/-- The first of three handlers fails. -/
theorem graceful_dispatch_simulates_aborting_of_sample :
    ∃ left result after rest,
      Runs (dispatch Sample.runner (Sample.plan.withGraceful true) (.blank Sample.kind))
        Sample.engine (left, .ok result) after ∧
      result.errors = ("stock", .text "sold out") :: rest ∧
      AbortsAtFirstError Sample.runner Sample.plan (.blank Sample.kind) left Sample.engine "stock"
        (.text "sold out") := by
  have hrun : Runs (dispatch Sample.runner (Sample.plan.withGraceful true) (.blank Sample.kind))
      Sample.engine (_, .ok _) _ := rfl
  exact ⟨_, _, _, _, hrun, rfl, (graceful_dispatch_simulates_aborting hrun).2 _ _ _ rfl⟩

end Dispatch
end Plugboard
