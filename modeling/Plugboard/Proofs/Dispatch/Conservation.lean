import Plugboard.Proofs.Dispatch.Journey

/-!
# No entry is lost

Each visited entry leaves one record under its own id, in the order of the visits, and
nothing else leaves one.  A dispatch ends before the end of its view only after it ran a
handler, because of an interruption or of its strategy, or with an error that its last
visit raised.
-/

namespace Plugboard.Dispatch

open Engine

variable {runner : Runner} {plan : DispatchPlan} {point left : Point} {before after : Engine}
  {leg : Leg} {legs : List Leg} {tour : Tour}

/-! ## What a visit did -/

namespace Leg

/-- The visit runs a handler of its entry, which comes to the outcome. -/
def Ran (runner : Runner) (leg : Leg) (outcome : HandlerResult) : Prop :=
  ∃ handler started touched ended,
    Invokes runner leg.entry leg.arrived leg.before handler started touched outcome ended

/-- The visit ran a handler, and afterwards the point names an interrupter or the strategy
accepts the value. -/
def EndsDispatch (runner : Runner) (plan : DispatchPlan) (leg : Leg) : Prop :=
  ∃ outcome, leg.Ran runner outcome ∧
    (leg.left.interrupter? ≠ none ∨ ∃ value strategy,
      outcome = .ok value ∧ plan.strategy = some strategy ∧ strategy.isSatisfiedBy value = true)

def success? (leg : Leg) : Option (HandlerId × Value) :=
  match leg.met.outcome with
  | .success value => some (leg.entry.id, value)
  | _ => none

def failure? (leg : Leg) : Option (HandlerId × Failure) :=
  match leg.met.outcome with
  | .failure failure => some (leg.entry.id, failure)
  | _ => none

def skip? (leg : Leg) : Option (HandlerId × SkipReason) :=
  match leg.met.outcome with
  | .skipped reason => some (leg.entry.id, reason)
  | _ => none

theorem ran_of_met {outcome : HandlerResult} (hhappens : leg.Happens runner)
    (hmet : leg.met = .ran outcome) : leg.Ran runner outcome := by
  have hmeets := hhappens.meets
  rw [hmet] at hmeets
  obtain ⟨handler, started, touched, ended, hinvokes, -, -⟩ := hmeets.invokes
  exact ⟨handler, started, touched, ended, hinvokes⟩

/-- A visit that stops a dispatch ran a handler that vetoed or gave what the strategy asks for. -/
theorem endsDispatch_of_step {record : Visit} {interruptedBy : Option HandlerId}
    (hhappens : leg.Happens runner) (hstep : leg.step plan = .stop record interruptedBy) :
    leg.EndsDispatch runner plan := by
  obtain ⟨-, -, outcome, hmet, hreason⟩ := of_verdict_stop hstep
  have hran := ran_of_met hhappens hmet
  rcases hreason with hveto | ⟨value, houtcome, hsatisfied⟩
  · exact ⟨outcome, hran, .inl hveto⟩
  · obtain ⟨strategy, hstrategy, hvalue⟩ := (Option.any_eq_true _ _).mp hsatisfied
    exact ⟨outcome, hran, .inr ⟨value, strategy, houtcome, hstrategy, hvalue⟩⟩

end Leg

/-! ## What a dispatch recorded -/

/-- The lists of a result hold what the visits added to them, and nothing else. -/
structure Accounts (legs : List Leg) (result : DispatchResult) : Prop where
  successes : result.successes = legs.filterMap Leg.success?
  errors : result.errors = legs.filterMap Leg.failure?
  skipped : result.skipped = legs.filterMap Leg.skip?
  once : ∀ leg ∈ legs,
    leg.success?.toList.length + leg.failure?.toList.length + leg.skip?.toList.length = 1

/-- The result of a dispatch without errors is made up of what its visits added. -/
theorem Journey.accounts {entries : List (Entry Behaviour)} {kind : PointKind}
    (hjourney : Journey runner plan entries before point legs tour after)
    (herror : tour.error = none) : Accounts legs (tour.result kind) := by
  have hvisits : (tour.result kind).visits = legs.map Leg.record := hjourney.visits_eq herror
  constructor
  case successes =>
    rw [DispatchResult.successes, hvisits]
    exact List.filterMap_map
  case errors =>
    rw [DispatchResult.errors, hvisits]
    exact List.filterMap_map
  case skipped =>
    rw [DispatchResult.skipped, hvisits]
    exact List.filterMap_map
  case once =>
    intro leg hleg
    rw [Leg.success?, Leg.failure?, Leg.skip?]
    cases leg.met.outcome <;> rfl

/-- A dispatch that is not silenced and has entries where it needs them visits a prefix of
its view.  Its result has one record for each visit, and the prefix is the whole view unless
the last visit ran a handler and ended the dispatch.  Its error was raised by the last
visit, and after that visit only events were added to the engine. -/
theorem dispatch_conserves_entries {runner : Runner} {plan : DispatchPlan} {point left : Point}
    {before after : Engine} {outcome : Except DispatchError DispatchResult}
    (hsounds : before.isSilenced = false)
    (hhandled : plan.flags.strict = true → before.registry.view point.kind ≠ [])
    (hrun : Runs (dispatch runner plan point) before (left, outcome) after) :
    ∃ legs toured,
      Trail runner plan (opened before point.kind) (point.modifyInterruption fun _ => .fresh)
        legs toured left ∧
      legs.map Leg.entry <+: before.registry.view point.kind ∧
      match outcome with
      | .ok result =>
        Accounts legs result ∧
          (legs.map Leg.entry = before.registry.view point.kind ∨
            ∃ last, legs.getLast? = some last ∧ last.EndsDispatch runner plan)
      | .error error =>
        ∃ last, legs.getLast? = some last ∧
          Raises runner last.entry last.arrived last.before last.reached error ∧
          after.bare = last.reached.bare := by
  cases runs_dispatch.mp hrun with
  | silenced hsilenced =>
      rw [hsounds] at hsilenced
      cases hsilenced
  | unhandled _ hstrict hempty => exact absurd hempty (hhandled hstrict)
  | @visits legs tour toured after outcome _ _ hjourney hconclude =>
      have htrail := hjourney.trail
      have hvisited := hjourney.entries_isPrefix
      cases hjourney.ends with
      | finishes hentries hearly =>
          obtain ⟨told, -, rfl, -⟩ := (runs_conclude_ok rfl).mp hconclude
          exact ⟨legs, toured, htrail, hvisited, hjourney.accounts rfl, .inl hentries⟩
      | @stops early last interruptedBy hearly hstep =>
          obtain ⟨told, -, rfl, -⟩ := (runs_conclude_ok rfl).mp hconclude
          have hlast := htrail.happens last (List.mem_append_right _ (List.mem_singleton_self _))
          have hends := Leg.endsDispatch_of_step hlast hstep
          exact ⟨_, toured, htrail, hvisited, hjourney.accounts rfl,
            .inr ⟨last, List.getLast?_concat, hends⟩⟩
      | @aborts early last record error hearly hstep =>
          obtain ⟨rfl, rfl⟩ := (runs_conclude_error rfl).mp hconclude
          have hlast := htrail.happens last (List.mem_append_right _ (List.mem_singleton_self _))
          have hraises := hlast.meets.raises (of_verdict_abort hstep).2
          have hbare : ∀ failed, (reported plan point.kind failed toured).bare =
              last.reached.bare := by
            intro failed
            rw [bare_reported, htrail.last.1, Leg.after, verdictEvents_of_abort hstep]
            rfl
          exact ⟨_, toured, htrail, hvisited, last, List.getLast?_concat, hraises, hbare _⟩

/-- A dispatch with one failure and one success before a veto. -/
theorem dispatch_conserves_entries_of_sample :
    ∃ left result after legs,
      Runs (dispatch Sample.runner Sample.plan (.blank Sample.kind)) Sample.engine
        (left, .ok result) after ∧
      Accounts legs result ∧ result.successes.length = 1 ∧ result.errors.length = 1 := by
  have hhandled : Sample.plan.flags.strict = true →
      Sample.engine.registry.view Sample.kind ≠ [] := fun _ => List.cons_ne_nil _ _
  have hrun : Runs (dispatch Sample.runner Sample.plan (.blank Sample.kind)) Sample.engine
      (_, .ok _) _ := rfl
  obtain ⟨legs, toured, -, -, haccounts, -⟩ := dispatch_conserves_entries rfl hhandled hrun
  exact ⟨_, _, _, legs, hrun, haccounts, rfl, rfl⟩

end Plugboard.Dispatch
