import Plugboard.Proofs.Dispatch.Notification

/-!
# Folding the results of a dispatch

A dispatch that folds its results does what the one does that keeps them all, unless its
strategy is satisfied early.  Only the strategy that takes the first result ever is.  Its
dispatch makes the same visits up to the first result that counts and ends there, with the
value that folding all the results would have given.
-/

namespace Plugboard

def DispatchPlan.withStrategy (plan : DispatchPlan) (strategy : Option Strategy) :
    DispatchPlan :=
  { plan with strategy := strategy.map Strategy.aggregation }

namespace DispatchRequest

/-- The request, answered with all results. -/
def keepingResults (request : DispatchRequest) : DispatchRequest :=
  { request with mode := .results }

def folding (request : DispatchRequest) (strategy : Strategy) : DispatchRequest :=
  { request with mode := .aggregate, strategy := some strategy }

end DispatchRequest

def Answer.folded (strategy : Strategy) : Answer → Answer
  | .results result _ _ left => .aggregated (strategy.aggregate result.values) left
  | answer => answer

namespace Dispatch

open Engine

variable {runner : Runner} {plan other : DispatchPlan} {entries : List (Entry Behaviour)}
  {point left : Point} {before after : Engine} {leg last : Leg} {legs early later : List Leg}
  {tour : Tour} {value : Value}

/-! ## Strategies that are never satisfied -/

/-- Visits depend on a strategy only by what satisfies it. -/
theorem tour_congr (hflags : plan.flags = other.flags)
    (hsatisfied : plan.isSatisfiedBy = other.isSatisfiedBy) (entries : List (Entry Behaviour))
    (point : Point) : Dispatch.tour runner plan entries point =
      Dispatch.tour runner other entries point := by
  have hverdict : verdict plan = verdict other := by
    funext id met left
    simp only [verdict, hflags, hsatisfied]
  have hevents : verdictEvents plan = verdictEvents other := by
    funext id met left
    simp only [verdictEvents, hflags, hsatisfied]
  induction entries generalizing point with
  | nil => rfl
  | cons entry rest ih => simp only [Dispatch.tour, visit, hverdict, hevents, ih]

/-- A dispatch depends on a strategy only through the values that satisfy it. -/
theorem dispatch_congr (hflags : plan.flags = other.flags) (hnotify : plan.notify = other.notify)
    (hsatisfied : plan.isSatisfiedBy = other.isSatisfiedBy) (point : Point) :
    dispatch runner plan point = dispatch runner other point := by
  have htour : Dispatch.tour runner plan = Dispatch.tour runner other := by
    funext entries point
    exact tour_congr hflags hsatisfied entries point
  have hconclude : conclude runner plan = conclude runner other := by
    funext kind count tour
    simp only [conclude, reportTour, notifyOf, hflags, hnotify]
  simp only [dispatch, hflags, htour, hconclude]

/-- A strategy that is never satisfied leaves the dispatch as it is. -/
theorem dispatch_withStrategy {strategy : Strategy} (hfolds : strategy ≠ .first) (point : Point) :
    dispatch runner (plan.withStrategy (some strategy)) point =
      dispatch runner (plan.withStrategy none) point := by
  have hsatisfied : (plan.withStrategy (some strategy)).isSatisfiedBy =
      (plan.withStrategy none).isSatisfiedBy := by
    funext value
    cases strategy with
    | first => exact absurd rfl hfolds
    | merge flatten => rfl
    | reduce reduction => rfl
  have hflags : (plan.withStrategy (some strategy)).flags = (plan.withStrategy none).flags := rfl
  exact dispatch_congr hflags rfl hsatisfied point

/-- A strategy other than the first result changes nothing but how the answer is told. -/
theorem performDispatch_folding (powers : Powers) (request : DispatchRequest)
    {strategy : Strategy} (hfolds : strategy ≠ .first) :
    powers.performDispatch (request.folding strategy) =
      Answer.folded strategy <$> powers.performDispatch request.keepingResults := by
  simp only [Powers.performDispatch, map_bind]
  apply bind_congr
  intro noted
  apply bind_congr
  intro point
  apply bind_congr
  intro engine
  let plan : DispatchPlan := planOf request.keepingResults engine.settings
  have hsame : dispatch powers.runner (plan.withStrategy (some strategy)) point =
      dispatch powers.runner (plan.withStrategy none) point := dispatch_withStrategy hfolds point
  refine (congrArg (· >>= _) hsame).trans ?_
  apply bind_congr
  rintro ⟨left, outcome⟩
  have hkept : Powers.keepPoint (request.folding strategy) left =
      Powers.keepPoint request.keepingResults left := rfl
  cases outcome with
  | ok result =>
      simp only [map_bind, map_pure, hkept]
      rfl
  | error error =>
      simp only [DispatchRequest.folding, DispatchRequest.keepingResults,
        DispatchMode.consumesPoint, Bool.false_eq_true, if_false, map_bind, map_pure]
      rfl

/-! ## The first result that counts -/

def counting (values : List Value) : List Value := values.filter fun value => !value.isNull

/-- The first value that counts is taken, or null. -/
theorem aggregate_first (values : List Value) :
    Strategy.first.aggregate values = (counting values).headD .null := rfl

/-- The value that the visit adds to those that count. -/
def Leg.counted? (leg : Leg) : Option Value :=
  (leg.success?.map Prod.snd).filter fun value => !value.isNull

/-- The values that count are those that visits left. -/
theorem Accounts.counting_values {result : DispatchResult} (haccounts : Accounts legs result) :
    counting result.values = legs.filterMap Leg.counted? := by
  rw [counting, DispatchResult.values, haccounts.successes, List.map_filterMap,
    List.filter_filterMap]
  rfl

namespace Leg

/-- A visit that leaves nothing that counts is the same in both dispatches. -/
theorem agrees_of_counted?_eq_none (plan : DispatchPlan) (hnone : leg.counted? = none) :
    leg.Agrees (plan.withStrategy none) (plan.withStrategy (some .first)) := by
  rw [Agrees, step, step, after, after]
  cases hmet : leg.met with
  | skipped reason => exact ⟨rfl, rfl⟩
  | unprepared error => exact ⟨rfl, rfl⟩
  | ran outcome =>
      cases outcome with
      | error failure => exact ⟨rfl, rfl⟩
      | ok value =>
          have hnull : value.isNull = true := by
            simpa [counted?, success?, hmet, Encounter.outcome] using hnone
          have hsatisfied : (plan.withStrategy (some .first)).isSatisfiedBy value =
              (plan.withStrategy none).isSatisfiedBy value := by
            simp [DispatchPlan.isSatisfiedBy, DispatchPlan.withStrategy, Strategy.aggregation,
              Strategy.isSatisfiedBy, hnull]
          simp only [verdict, verdictEvents, hsatisfied, and_self]

/-- After a visit that leaves a value that counts, the dispatch that takes the first ends. -/
theorem step_of_counted? (plan : DispatchPlan) (hcounted : leg.counted? = some value) :
    leg.step (plan.withStrategy (some .first)) = .stop leg.record leg.left.interrupter? := by
  rw [counted?, Option.filter_eq_some_iff, Option.map_eq_some_iff] at hcounted
  obtain ⟨⟨⟨id, given⟩, hsuccess, rfl⟩, hpresent⟩ := hcounted
  have hmet : leg.met = .ran (.ok given) := by
    rw [success?] at hsuccess
    cases hmet : leg.met with
    | skipped reason => simp [hmet, Encounter.outcome] at hsuccess
    | unprepared error => simp [hmet, Encounter.outcome] at hsuccess
    | ran outcome =>
        cases outcome with
        | error failure => simp [hmet, Encounter.outcome] at hsuccess
        | ok value =>
            obtain ⟨-, rfl⟩ : leg.entry.id = id ∧ value = given := by
              simpa [hmet, Encounter.outcome] using hsuccess
            rfl
  have hsatisfied : (plan.withStrategy (some .first)).isSatisfiedBy given = true := hpresent
  rw [step, record, hmet, verdict, if_pos hsatisfied, haltOr]
  cases leg.left.interrupter? with
  | none => rfl
  | some interrupter => rfl

/-- What the two dispatches leave of a visit differs in nothing but what they log. -/
theorem bare_after (leg : Leg) (plan other : DispatchPlan) :
    (leg.after plan).bare = (leg.after other).bare := by
  rw [after, after, bare_recordAll, bare_recordAll]

end Leg

/-! ## The two dispatches -/

/-- The dispatch that takes the first result makes the visits of the one that keeps all results,
each from the same engine and to the same, up to the first that leaves a value that counts. -/
structure CutsShort (runner : Runner) (plan : DispatchPlan) (point left : Point) (before : Engine)
    (early : List Leg) (last : Leg) (value : Value) : Prop where
  full : ∃ later toured, Trail runner (plan.withStrategy none) (opened before point.kind)
    (point.modifyInterruption fun _ => .fresh) (early ++ last :: later) toured left
  short : Trail runner (plan.withStrategy (some .first)) (opened before point.kind)
    (point.modifyInterruption fun _ => .fresh) (early ++ [last])
    (last.after (plan.withStrategy (some .first))) last.left
  passes : ∀ leg ∈ early, leg.counted? = none
  counts : last.counted? = some value
  bare_eq : (last.after (plan.withStrategy (some .first))).bare =
    (last.after (plan.withStrategy none)).bare

/-- The journey up to the first value that counts is that of the dispatch which takes it. -/
theorem Journey.exists_first
    (hjourney : Journey runner (plan.withStrategy none) entries before point
      (early ++ last :: later) tour after)
    (hpasses : ∀ leg ∈ early, leg.counted? = none) (hcounts : last.counted? = some value) :
    ∃ short : Tour,
      Journey runner (plan.withStrategy (some .first)) entries before point (early ++ [last]) short
        (last.after (plan.withStrategy (some .first))) ∧
      short.error = none ∧ short.point = last.left := by
  have hcut := hjourney.cut
    (fun leg hleg => Leg.agrees_of_counted?_eq_none plan (hpasses leg hleg))
    fun rest hhappens => .stops rest hhappens (Leg.step_of_counted? plan hcounts)
  exact ⟨_, hcut, rfl, rfl⟩

/-- The dispatch comes to its end with the result, unless a listener stops it. -/
def EndsUnlessStopped (runner : Runner) (plan : DispatchPlan) (point left : Point)
    (before : Engine) (result : DispatchResult) : Prop :=
  (∃ after, Runs (dispatch runner plan point) before (left, .ok result) after) ∨
    ∃ abort after, Stops (dispatch runner plan point) before abort after ∧
      StoppedByListener runner plan point before abort after

/-- A journey without an error is followed by its end, or a listener stops the dispatch. -/
theorem Journey.endsUnlessStopped {toured : Engine}
    (hjourney : Journey runner plan (before.registry.view point.kind) (opened before point.kind)
      (point.modifyInterruption fun _ => .fresh) legs tour toured)
    (hsounds : before.isSilenced = false)
    (hhandled : plan.flags.strict = true → before.registry.view point.kind ≠ [])
    (herror : tour.error = none) :
    EndsUnlessStopped runner plan point tour.point before (tour.result point.kind) := by
  rcases runs_or_stops (conclude runner plan point.kind (before.registry.view point.kind).length
    tour) toured with ⟨outcome, after, hconclude⟩ | ⟨abort, after, hstop⟩
  · obtain ⟨-, -, rfl, -⟩ := (runs_conclude_ok herror).mp hconclude
    exact .inl ⟨after, runs_dispatch.mpr (.visits hsounds hhandled hjourney hconclude)⟩
  · refine .inr ⟨abort, after, ?_, hjourney.stoppedByListener hstop⟩
    have hstrict : ¬ (plan.flags.strict && (before.registry.view point.kind).isEmpty) = true := by
      rw [Bool.and_eq_true, List.isEmpty_iff]
      exact fun hempty => hhandled hempty.1 hempty.2
    rw [Stops, run_dispatch, if_neg (by rw [hsounds]; exact Bool.false_ne_true), if_neg hstrict,
      hjourney.runs.run_then]
    exact stops_bind.mpr (.inl hstop)

/-- Where nothing counts there is nothing to end with. -/
theorem runs_dispatch_first_of_nil {result : DispatchResult}
    (hrun : Runs (dispatch runner (plan.withStrategy none) point) before (left, .ok result) after)
    (hnothing : counting result.values = []) :
    Runs (dispatch runner (plan.withStrategy (some .first)) point) before (left, .ok result)
      after := by
  cases hsilenced : before.isSilenced with
  | true =>
      have hsilent := runs_dispatch_silenced runner (plan.withStrategy none) point hsilenced
      obtain ⟨heq, rfl⟩ := hrun.unique hsilent
      rw [← heq]
      exact runs_dispatch_silenced runner _ point hsilenced
  | false =>
      obtain ⟨legs, tour, toured, hhandled, hjourney, herror, rfl, rfl, hconclude⟩ :=
        exists_concluded_of_ok hsilenced hrun
      rw [(hjourney.accounts herror).counting_values, List.filterMap_eq_nil_iff] at hnothing
      have hfirst := hjourney.of_agrees fun leg hleg =>
        Leg.agrees_of_counted?_eq_none plan (hnothing leg hleg)
      exact runs_dispatch.mpr (.visits hsilenced hhandled hfirst hconclude)

/-- Where something counts, the dispatch ends with the first that does. -/
theorem exists_cutsShort {result : DispatchResult} {rest : List Value}
    (hrun : Runs (dispatch runner (plan.withStrategy none) point) before (left, .ok result) after)
    (hcounting : counting result.values = value :: rest) :
    ∃ early last short, CutsShort runner plan point left before early last value ∧
      short.visits <+: result.visits ∧ counting short.values = [value] ∧
      EndsUnlessStopped runner (plan.withStrategy (some .first)) point last.left before short := by
  cases hsilenced : before.isSilenced with
  | true =>
      have hsilent := runs_dispatch_silenced runner (plan.withStrategy none) point hsilenced
      obtain ⟨heq, -⟩ := hrun.unique hsilent
      cases heq
      cases hcounting
  | false =>
      obtain ⟨legs, tour, toured, hhandled, hjourney, herror, rfl, rfl, -⟩ :=
        exists_concluded_of_ok hsilenced hrun
      rw [(hjourney.accounts herror).counting_values] at hcounting
      obtain ⟨early, last, later, rfl, hpasses, hcounts, -⟩ :=
        List.filterMap_eq_cons_iff.mp hcounting
      obtain ⟨short, hshort, hnone, hpoint⟩ := hjourney.exists_first hpasses hcounts
      have hends := hshort.endsUnlessStopped hsilenced hhandled hnone
      rw [hpoint] at hends
      refine ⟨early, last, short.result point.kind, ⟨⟨later, toured, hjourney.trail⟩, ?_, hpasses,
        hcounts, last.bare_after _ _⟩, ?_, ?_, hends⟩
      · rw [← hpoint]
        exact hshort.trail
      · rw [Tour.result, Tour.result, hshort.visits_eq hnone, hjourney.visits_eq herror]
        simp
      · rw [(hshort.accounts hnone).counting_values, List.filterMap_append,
          List.filterMap_eq_nil_iff.mpr hpasses, List.nil_append, List.filterMap_cons_some hcounts]
        rfl

/-! ## Requests -/

section

variable {powers : Powers} {request : DispatchRequest} {result : DispatchResult} {ended : Engine}

/-- An answer with all results is that of a dispatch. -/
theorem exists_runs_of_results {lookup : Option (List HandlerLookup)} {aggregate : Option Value}
    (hrun : Runs (powers.performDispatch request.keepingResults) before
      (.results result lookup aggregate left) after) :
    ∃ ended, Runs (dispatch powers.runner (planOf request.keepingResults before.settings)
        (pointOf request before)) (begun request before) (left, .ok result) ended ∧
      after = keeping request left ended := by
  have hcalls := calls_performDispatch powers request.keepingResults before
  have hcalled : Runs (dispatch powers.runner (planOf request.keepingResults before.settings)
      (pointOf request before) >>= answered request.keepingResults) (begun request before)
      (.results result lookup aggregate left) after := hcalls.run.symm.trans hrun
  obtain ⟨⟨point, outcome⟩, ended, hdispatch, hanswered⟩ := runs_bind.mp hcalled
  cases outcome with
  | ok given =>
      obtain ⟨⟨⟩, middle, hkept, hanswer⟩ := runs_bind.mp hanswered
      obtain ⟨hanswer, rfl⟩ := runs_pure.mp hanswer
      obtain rfl := runs_keepPoint.mp hkept
      cases hanswer
      exact ⟨ended, hdispatch, rfl⟩
  | error error =>
      obtain ⟨⟨⟩, middle, -, hanswer⟩ := runs_bind.mp hanswered
      cases (runs_pure.mp hanswer).1

/-- A request to fold the results of a dispatch is answered with their fold. -/
theorem runs_performDispatch_folding {strategy : Strategy}
    (hrun : Runs (dispatch powers.runner
        ((planOf request.keepingResults before.settings).withStrategy (some strategy))
        (pointOf request before)) (begun request before) (left, .ok result) ended) :
    Runs (powers.performDispatch (request.folding strategy)) before
      (.aggregated (strategy.aggregate result.values) left) (keeping request left ended) := by
  have hcalls := calls_performDispatch powers (request.folding strategy) before
  have hkept : Runs (Powers.keepPoint (request.folding strategy) left) ended () _ :=
    runs_keepPoint.mpr rfl
  exact hcalls.run.trans (hrun.bind (hkept.bind (runs_pure.mpr ⟨rfl, rfl⟩)))

/-- A request that folds the results by another strategy than the first result has the effects of
the one that keeps them, and the fold of what that one keeps for an answer.  One that takes the
first result does the same where no result counts; else it makes the same visits up to the first
that leaves a result that counts and answers what folding all of them gives, unless a listener
stops it. -/
theorem folding_cuts_short (powers : Powers) (request : DispatchRequest) (before : Engine) :
    (∀ strategy, strategy ≠ .first →
      powers.performDispatch (request.folding strategy) =
        Answer.folded strategy <$> powers.performDispatch request.keepingResults) ∧
    ∀ result lookup aggregate left after,
      Runs (powers.performDispatch request.keepingResults) before
        (.results result lookup aggregate left) after →
      let plan := planOf request.keepingResults before.settings
      let point := pointOf request before
      let value := Strategy.first.aggregate result.values
      (counting result.values = [] →
        Runs (powers.performDispatch (request.folding .first)) before (.aggregated value left)
          after) ∧
      (counting result.values ≠ [] → ∃ early last,
        CutsShort powers.runner plan point left (begun request before) early last value ∧
        ((∃ ended, Runs (powers.performDispatch (request.folding .first)) before
            (.aggregated value last.left) ended) ∨
          ∃ abort ended,
            Stops (powers.performDispatch (request.folding .first)) before abort ended ∧
            StoppedByListener powers.runner (plan.withStrategy (some .first)) point
              (begun request before) abort ended)) := by
  refine ⟨fun strategy hfolds => performDispatch_folding powers request hfolds, ?_⟩
  intro result lookup aggregate left after hrun plan point value
  obtain ⟨ended, hdispatch, rfl⟩ := exists_runs_of_results hrun
  have hkept : plan.withStrategy none = plan := rfl
  change Runs (dispatch powers.runner plan point) _ _ _ at hdispatch
  rw [← hkept] at hdispatch
  refine ⟨?nothing, ?something⟩
  case nothing =>
    intro hnothing
    exact runs_performDispatch_folding (runs_dispatch_first_of_nil hdispatch hnothing)
  case something =>
    intro hsomething
    obtain ⟨first, rest, hcounting⟩ := List.exists_cons_of_ne_nil hsomething
    have hvalue : value = first := by
      change Strategy.first.aggregate result.values = first
      rw [aggregate_first, hcounting, List.headD_cons]
    obtain ⟨early, last, short, hcuts, -, hshort, hends⟩ := exists_cutsShort hdispatch hcounting
    rw [hvalue]
    refine ⟨early, last, hcuts, ?_⟩
    rcases hends with ⟨reached, hends⟩ | ⟨abort, reached, hstop, hstopped⟩
    · have hanswer := runs_performDispatch_folding hends
      rw [aggregate_first, hshort] at hanswer
      exact .inl ⟨_, hanswer⟩
    · have hcalls := calls_performDispatch powers (request.folding .first) before
      exact .inr ⟨abort, reached, hcalls.run.trans (stops_bind.mpr (.inl hstop)), hstopped⟩

end

namespace Sample

/-- The first of three handlers has no opinion, the second has one, the third vetoes. -/
def opinions : Engine :=
  { engine with
    registry := (((Registry.empty.insert (.live (handler "mute" (.ok .null)) 0)).1.insert
      (.live (handler "stock" (.ok (.string "low"))) 1)).1.insert
      (.live (handler "fraud" (.ok (.bool false))) 2)).1 }

def request : DispatchRequest :=
  ⟨kind, .results, none, none, (Point.blank kind).body, none, none⟩

end Sample

/-- The veto is not reached by the dispatch that takes the first result. -/
theorem folding_cuts_short_of_sample :
    let powers := Powers.within 2 2 0
    let plan := planOf Sample.request.keepingResults Sample.opinions.settings
    let point := pointOf Sample.request Sample.opinions
    ∃ result left after early last ended,
      Runs (powers.performDispatch Sample.request.keepingResults) Sample.opinions
        (.results result none none left) after ∧
      result.visits.length = 3 ∧ result.interruptedBy = some "fraud" ∧
      CutsShort powers.runner plan point left (begun Sample.request Sample.opinions) early last
        (.string "low") ∧
      Runs (powers.performDispatch (Sample.request.folding .first)) Sample.opinions
        (.aggregated (.string "low") last.left) ended := by
  intro powers plan point
  have hfull : Runs (powers.performDispatch Sample.request.keepingResults) Sample.opinions
      (.results _ none none _) _ := rfl
  have hfirst : Runs (powers.performDispatch (Sample.request.folding .first)) Sample.opinions
      (.aggregated _ _) _ := rfl
  obtain ⟨-, hcuts⟩ := (folding_cuts_short powers Sample.request Sample.opinions).2 _ _ _ _ _ hfull
  obtain ⟨early, last, hshort, hends⟩ := hcuts (List.cons_ne_nil _ _)
  rcases hends with ⟨ended, hends⟩ | ⟨abort, ended, hstop, -⟩
  · exact ⟨_, _, _, early, last, ended, hfull, rfl, rfl, hshort, hends⟩
  · cases hstop.symm.trans hfirst

end Dispatch
end Plugboard
