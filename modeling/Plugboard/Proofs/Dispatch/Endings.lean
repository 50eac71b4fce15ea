import Plugboard.Proofs.Dispatch.Conservation
import Plugboard.Proofs.Engine.Stops

/-!
# How dispatches are over

A dispatch comes to a result or to an error, or it is stopped: by the panic of a handler in the
middle of a visit, or by the panic of a listener after its visits.  In each case it has made visits
along its view, and what is left of the dispatch tells why it made no more.
-/

namespace Plugboard

namespace Dispatch

open Engine

variable {runner : Runner} {plan : DispatchPlan} {entry : Entry Behaviour}
  {entries : List (Entry Behaviour)} {point : Point} {before after : Engine} {abort : Abort}

/-- A visit is stopped by what it meets. -/
theorem stops_visit :
    Stops (visit runner plan entry point) before abort after ↔
      Stops (encounter runner entry point) before abort after := by
  rw [visit, stops_bind]
  constructor
  · rintro (hstop | ⟨⟨met, left⟩, middle, hencounter, hstop⟩)
    · exact hstop
    · have hlogged : Runs (logAll (verdictEvents plan entry.id met left)) middle () _ :=
        runs_logAll.mpr rfl
      exact absurd (hlogged.stops_bind.mp hstop) not_stops_pure
  · exact .inl

/-- Visits that a dispatch survives lead to the entry whose visit stops. -/
theorem exists_trail_of_stops_tour
    (hstop : Stops (tour runner plan entries point) before abort after) :
    ∃ legs entry toured left, Trail runner plan before point legs toured left ∧
      legs.map Leg.entry ++ [entry] <+: entries ∧
      Stops (encounter runner entry left) toured abort after := by
  induction entries generalizing before point with
  | nil => exact absurd hstop not_stops_pure
  | cons entry rest ih =>
      rcases stops_bind.mp hstop with hvisit | ⟨⟨step, left⟩, middle, hvisit, hrest⟩
      · exact ⟨[], entry, before, point, .here before point,
          List.cons_prefix_cons.mpr ⟨rfl, List.nil_prefix⟩, stops_visit.mp hvisit⟩
      · obtain ⟨leg, hhappens, rfl, rfl, rfl, hstep, rfl, rfl⟩ := exists_leg hvisit
        cases step with
        | stop record interruptedBy => exact absurd hrest not_stops_pure
        | abort record error => exact absurd hrest not_stops_pure
        | proceed record =>
            rcases stops_bind.mp hrest with hlater | ⟨tour, ended, -, hnone⟩
            · obtain ⟨legs, next, toured, reached, htrail, hprefix, hencounter⟩ := ih hlater
              exact ⟨leg :: legs, next, toured, reached, .visit hhappens htrail,
                List.cons_prefix_cons.mpr ⟨rfl, hprefix⟩, hencounter⟩
            · exact absurd hnone not_stops_pure

/-- What stops once the visits of a dispatch are over is a listener. -/
theorem stops_conclude {kind : PointKind} {count : Nat} {tour : Tour}
    (hstop : Stops (conclude runner plan kind count tour) before abort after) :
    tour.error = none ∧
      Stops (notifyOf runner plan kind tour.point) (reported plan kind tour before) abort
        after := by
  have hreported : Runs (reportTour plan kind tour) before () _ := runs_reportTour.mpr rfl
  rw [conclude, hreported.stops_bind] at hstop
  cases herror : tour.error with
  | some error =>
      rw [herror] at hstop
      exact absurd hstop not_stops_pure
  | none =>
      rw [herror] at hstop
      rcases stops_bind.mp hstop with hnotify | ⟨told, middle, -, hlogged⟩
      · exact ⟨rfl, hnotify⟩
      · exact absurd (stops_log_then.mp hlogged) not_stops_pure

/-! ## Whole dispatches -/

def silentEvents (kind : PointKind) : List LogEvent :=
  [spanEvent kind, event .trace "Dispatcher silenced, skipping" []]

/-- The visits reach the end of the view, or the last of them ends the dispatch. -/
def Covers (runner : Runner) (plan : DispatchPlan) (view : List (Entry Behaviour))
    (legs : List Leg) : Prop :=
  legs.map Leg.entry = view ∨ ∃ last, legs.getLast? = some last ∧ last.EndsDispatch runner plan

/-- How a dispatch is over after its visits, which left an engine and a point. -/
inductive Closes (runner : Runner) (plan : DispatchPlan) (point : Point) (before : Engine)
    (legs : List Leg) (toured : Engine) (left : Point) :
    Except Abort (Point × Except DispatchError DispatchResult) → Engine → Prop where
  | silenced (hsilenced : before.isSilenced = true) (hnone : legs = []) :
      Closes runner plan point before legs toured left
        (.ok (point, .ok (.empty point.kind.name))) (before.recordAll (silentEvents point.kind))
  | unhandled (hstrict : plan.flags.strict = true)
      (hempty : before.registry.view point.kind = []) :
      Closes runner plan point before legs toured left
        (.ok (point, .error (.unhandled point.kind.name))) toured
  | failed {last : Leg} {error : DispatchError} (tour : Tour) (hlast : legs.getLast? = some last)
      (hraises : Raises runner last.entry last.arrived last.before last.reached error) :
      Closes runner plan point before legs toured left (.ok (left, .error error))
        (reported plan point.kind tour toured)
  | finished {tour : Tour} {told : Engine}
      (hcovers : Covers runner plan (before.registry.view point.kind) legs)
      (haccounts : Accounts legs (tour.result point.kind))
      (hnotified : Runs (notifyOf runner plan point.kind left)
        (reported plan point.kind tour toured) () told) :
      Closes runner plan point before legs toured left (.ok (left, .ok (tour.result point.kind)))
        (told.record (.log (completionEvent (before.registry.view point.kind).length
          (tour.result point.kind))))
  | stoppedInVisit {entry : Entry Behaviour} {abort : Abort} {after : Engine}
      (hnext : legs.map Leg.entry ++ [entry] <+: before.registry.view point.kind)
      (hstop : Stops (encounter runner entry left) toured abort after) :
      Closes runner plan point before legs toured left (.error abort) after
  | stoppedInNotice {tour : Tour} {abort : Abort} {after : Engine}
      (hcovers : Covers runner plan (before.registry.view point.kind) legs)
      (hstop : Stops (notifyOf runner plan point.kind left)
        (reported plan point.kind tour toured) abort after) :
      Closes runner plan point before legs toured left (.error abort) after

/-- How a dispatch goes: its visits, one after the other along its view, and how it is over. -/
structure Unfolds (runner : Runner) (plan : DispatchPlan) (point : Point) (before : Engine)
    (legs : List Leg) (toured : Engine) (left : Point)
    (final : Except Abort (Point × Except DispatchError DispatchResult)) (after : Engine) :
    Prop where
  trail : Trail runner plan (opened before point.kind) (point.modifyInterruption fun _ => .fresh)
    legs toured left
  visited : legs.map Leg.entry <+: before.registry.view point.kind
  closes : Closes runner plan point before legs toured left final after

/-- A dispatch without errors visits the whole view or is ended by its last visit. -/
theorem Journey.covers {legs : List Leg} {tour : Tour}
    (hjourney : Journey runner plan entries before point legs tour after)
    (herror : tour.error = none) : Covers runner plan entries legs := by
  cases hjourney.ends with
  | finishes hentries hearly => exact .inl hentries
  | @stops early last interruptedBy hearly hstep =>
      have hlast := hjourney.trail.happens last
        (List.mem_append_right _ (List.mem_singleton_self _))
      exact .inr ⟨last, List.getLast?_concat, Leg.endsDispatch_of_step hlast hstep⟩
  | aborts hearly hstep => cases herror

/-- The error of a dispatch is the one that its last visit raised. -/
theorem Journey.raises {legs : List Leg} {tour : Tour} {error : DispatchError}
    (hjourney : Journey runner plan entries before point legs tour after)
    (herror : tour.error = some error) :
    ∃ last, legs.getLast? = some last ∧
      Raises runner last.entry last.arrived last.before last.reached error := by
  cases hjourney.ends with
  | finishes hentries hearly => cases herror
  | stops hearly hstep => cases herror
  | @aborts early last record raised hearly hstep =>
      obtain rfl := Option.some.inj herror
      have hlast := hjourney.trail.happens last
        (List.mem_append_right _ (List.mem_singleton_self _))
      exact ⟨last, List.getLast?_concat, hlast.meets.raises (of_verdict_abort hstep).2⟩

/-- A dispatch that comes to its end unfolds visit by visit. -/
theorem exists_unfolds_of_runs {left : Point} {outcome : Except DispatchError DispatchResult}
    (hrun : Runs (dispatch runner plan point) before (left, outcome) after) :
    ∃ legs toured reached,
      Unfolds runner plan point before legs toured reached (.ok (left, outcome)) after := by
  cases runs_dispatch.mp hrun with
  | silenced hsilenced =>
      exact ⟨[], _, _, .here _ _, List.nil_prefix, .silenced hsilenced rfl⟩
  | unhandled _ hstrict hempty =>
      exact ⟨[], _, _, .here _ _, List.nil_prefix, .unhandled hstrict hempty⟩
  | @visits legs tour toured _ _ _ _ hjourney hconclude =>
      refine ⟨legs, toured, tour.point, hjourney.trail, hjourney.entries_isPrefix, ?_⟩
      cases herror : tour.error with
      | none =>
          obtain ⟨told, hnotified, rfl, rfl⟩ := (runs_conclude_ok herror).mp hconclude
          exact .finished (hjourney.covers herror) (hjourney.accounts herror) hnotified
      | some error =>
          obtain ⟨rfl, rfl⟩ := (runs_conclude_error herror).mp hconclude
          obtain ⟨last, hlast, hraises⟩ := hjourney.raises herror
          exact .failed tour hlast hraises

/-- A dispatch that is stopped has unfolded visit by visit until then. -/
theorem exists_unfolds_of_stops (hstop : Stops (dispatch runner plan point) before abort after) :
    ∃ legs toured left, Unfolds runner plan point before legs toured left (.error abort) after := by
  rw [dispatch, stops_log_then, stops_get_then, isSilenced_record] at hstop
  cases hsilenced : before.isSilenced with
  | true =>
      simp only [hsilenced, if_true] at hstop
      exact absurd (stops_log_then.mp hstop) not_stops_pure
  | false =>
      simp only [hsilenced, Bool.false_eq_true, if_false] at hstop
      rw [Runs.stops_bind (runs_view.mpr ⟨rfl, rfl⟩), registry_record] at hstop
      cases hstrict : plan.flags.strict && (before.registry.view point.kind).isEmpty with
      | true =>
          simp only [hstrict, if_true] at hstop
          exact absurd hstop not_stops_pure
      | false =>
          simp only [hstrict, Bool.false_eq_true, if_false] at hstop
          rcases stops_bind.mp hstop with htour | ⟨tour, toured, htour, hrest⟩
          · obtain ⟨legs, entry, toured, left, htrail, hnext, hencounter⟩ :=
              exists_trail_of_stops_tour htour
            exact ⟨legs, toured, left, htrail, (List.prefix_append _ _).trans hnext,
              .stoppedInVisit hnext hencounter⟩
          · obtain ⟨legs, hjourney⟩ := exists_journey htour
            rcases stops_bind.mp hrest with hconclude | ⟨answer, ended, -, hnone⟩
            · obtain ⟨herror, hnotice⟩ := stops_conclude hconclude
              exact ⟨legs, toured, tour.point, hjourney.trail, hjourney.entries_isPrefix,
                .stoppedInNotice (hjourney.covers herror) hnotice⟩
            · exact absurd hnone not_stops_pure

/-- Every dispatch goes like this, whatever comes of it. -/
theorem exists_unfolds (runner : Runner) (plan : DispatchPlan) (point : Point) (before : Engine) :
    ∃ legs toured left, Unfolds runner plan point before legs toured left
      ((dispatch runner plan point).run.run before).1
      ((dispatch runner plan point).run.run before).2 := by
  rcases runs_or_stops (dispatch runner plan point) before with
    ⟨⟨left, outcome⟩, after, hrun⟩ | ⟨abort, after, hstop⟩
  · rw [show (dispatch runner plan point).run.run before = (.ok (left, outcome), after) from hrun]
    exact exists_unfolds_of_runs hrun
  · rw [show (dispatch runner plan point).run.run before = (.error abort, after) from hstop]
    exact exists_unfolds_of_stops hstop

end Dispatch
end Plugboard
