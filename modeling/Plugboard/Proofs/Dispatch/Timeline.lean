import Plugboard.Proofs.Dispatch.Frame
import Plugboard.Proofs.Dispatch.Graceful

/-!
# What a timeline tells

A dispatch that keeps a timeline hands one to the sink, after its visits and before anyone is told.
It tells of each visit what was observed there, so that it can be put in place of the result, and it
ends with the error of a handler that made the dispatch fail.  Of a handler that could not even be
had or queued it tells only if the dispatch goes on.
-/

namespace Plugboard

open Engine

namespace Timeline

def successes (timeline : Timeline) : List (HandlerId × Value) :=
  timeline.entries.filterMap fun entry =>
    match entry.2 with
    | .success value => some (entry.1, value)
    | _ => none

def errors (timeline : Timeline) : List (HandlerId × String) :=
  timeline.entries.filterMap fun entry =>
    match entry.2 with
    | .error message => some (entry.1, message)
    | _ => none

def skipped (timeline : Timeline) : List (HandlerId × SkipReason) :=
  timeline.entries.filterMap fun entry =>
    match entry.2 with
    | .skipped reason => some (entry.1, reason)
    | _ => none

/-- Split by kind of outcome, the timeline is the result, with texts in place of errors. -/
structure Mirrors (timeline : Timeline) (result : DispatchResult) : Prop where
  point : timeline.point = result.point
  successes : timeline.successes = result.successes
  errors : timeline.errors = result.errors.map fun error => (error.1, error.2.message)
  skipped : timeline.skipped = result.skipped
  interruptedBy : timeline.interruptedBy = result.interruptedBy

/-- A timeline that is made of a result mirrors it. -/
theorem mirrors_ofVisits (result : DispatchResult) :
    (ofVisits result.point result.visits result.interruptedBy).Mirrors result where
  point := rfl
  successes := by
    rw [Timeline.successes, DispatchResult.successes, ofVisits, List.filterMap_map]
    congr 1
    funext visit
    cases hvisit : visit.outcome <;> simp [TimelineOutcome.ofVisit, hvisit]
  errors := by
    rw [Timeline.errors, DispatchResult.errors, ofVisits, List.filterMap_map, List.map_filterMap]
    congr 1
    funext visit
    cases hvisit : visit.outcome <;> simp [TimelineOutcome.ofVisit, hvisit]
  skipped := by
    rw [Timeline.skipped, DispatchResult.skipped, ofVisits, List.filterMap_map]
    congr 1
    funext visit
    cases hvisit : visit.outcome <;> simp [TimelineOutcome.ofVisit, hvisit]
  interruptedBy := rfl

end Timeline

/-! ## What a sink was handed -/

def Event.timeline? : Event → Option Timeline
  | .timeline given => some given
  | _ => none

namespace Engine

/-- The timelines that were handed to a sink that keeps them, in their order. -/
def timelines (engine : Engine) : List Timeline := (engine.events.filterMap Event.timeline?).reverse

def sunk (engine : Engine) : Sink × List Timeline := (engine.sink, engine.timelines)

theorem timelines_record (engine : Engine) (timeline : Timeline) :
    (engine.record (.timeline timeline)).timelines = engine.timelines ++ [timeline] := by
  have hgiven : Event.timeline? (.timeline timeline) = some timeline := rfl
  calc (engine.record (.timeline timeline)).timelines
      = (List.filterMap Event.timeline? (.timeline timeline :: engine.events)).reverse := rfl
    _ = engine.timelines ++ [timeline] := by
        rw [List.filterMap_cons_some hgiven, List.reverse_cons, timelines]

theorem sunk_record_of_timeline?_eq_none {event : Event} (hnone : event.timeline? = none)
    (engine : Engine) : (engine.record event).sunk = engine.sunk := by
  have hpassed : List.filterMap Event.timeline? (event :: engine.events) =
      List.filterMap Event.timeline? engine.events := List.filterMap_cons_none hnone
  have hadded : ({ engine with events := event :: engine.events } : Engine).sunk = engine.sunk :=
    congrArg (fun given => (engine.sink, List.reverse given)) hpassed
  cases event with
  | log entry =>
      rw [record]
      split
      · split
        · exact hadded
        · rfl
      · exact hadded
  | _ => exact hadded

theorem untouched_sunk : Untouched sunk where
  record := fun engine _ => sunk_record_of_timeline?_eq_none rfl engine
  breaker := fun _ _ => rfl
  registry := fun _ _ => rfl

theorem spares_sunk_enqueue (call : QueuedCall Behaviour) : Spares sunk (enqueue call) := by
  intro before
  have henqueued := enqueued_enqueue before call
  generalize ((enqueue call).run.run before).1 = outcome at henqueued
  generalize ((enqueue call).run.run before).2 = after at henqueued
  cases henqueued with
  | unlinked | refused | collected | missing | crashed => rfl
  | offered => exact untouched_sunk.recordAll _ _

end Engine

/-- The behaviour uses no engine, and no event that it announces passes for a timeline. -/
def Behaviour.Discreet : Behaviour → Prop
  | .finish _ _ | .panic _ => True
  | .count resume => ∀ count, (resume count).Discreet
  | .announce event resume => event.timeline? = none ∧ resume.Discreet
  | .operate _ _ | .propagate _ _ _ => False

/-- A discreet behaviour hands nothing to the sink. -/
theorem Behaviour.spares_sunk (powers : Powers) (serial : Nat) :
    ∀ behaviour : Behaviour, behaviour.Discreet → Spares sunk (behaviour.run powers serial)
  | .finish _ _, _ => spares_pure _
  | .panic _, _ => spares_throw _
  | .count resume, hdiscreet =>
      have hcounted : Spares sunk (nextCount serial) :=
        .bind spares_get fun _ => .bind (spares_modify fun _ => rfl) fun _ => spares_pure _
      hcounted.bind fun count => spares_sunk powers serial (resume count) (hdiscreet count)
  | .announce _ resume, hdiscreet =>
      .bind (sunk_record_of_timeline?_eq_none hdiscreet.1) fun _ =>
        spares_sunk powers serial resume hdiscreet.2
  | .operate _ _, hdiscreet | .propagate _ _ _, hdiscreet => hdiscreet.elim

/-- Discreet handlers hand the sink nothing, and neither do the resolver and the queue. -/
theorem Powers.spares_sunk (powers : Powers) {entries : List (Entry Behaviour)}
    (hdiscreet : ∀ entry ∈ entries, ∀ handler, Dispatch.Provides powers.runner entry handler →
      ∀ body, (handler.react body).Discreet) : powers.runner.Spares sunk entries where
  run := by
    intro entry hentry handler hprovides point
    change Spares sunk (Handler.run powers handler point)
    unfold Handler.run
    split
    · exact .bind (Behaviour.spares_sunk powers _ _ (hdiscreet entry hentry handler hprovides _))
        fun _ => .bind (spares_modify fun _ => rfl) fun _ => spares_pure _
    · exact spares_pure _
  resolve := by
    intro id
    refine .bind spares_get fun engine => ?_
    split
    · exact spares_pure _
    · exact spares_pure _
    · have hmade (code : HandlerCode Behaviour) : Spares sunk (instantiate code) :=
        .bind spares_get fun _ => .bind (spares_modify fun _ => rfl) fun _ => spares_pure _
      exact .bind (hmade _) fun _ => spares_pure _
  enqueue := spares_sunk_enqueue

namespace Dispatch

variable {runner : Runner} {plan : DispatchPlan} {point left : Point} {before after : Engine}
  {leg : Leg} {legs : List Leg} {tour : Tour}

/-! ## What is told of a visit -/

namespace Leg

/-- What is observed at a visit: the value of its handler, the text of the error that it came to,
or why it was skipped. -/
def observed (leg : Leg) : TimelineOutcome :=
  match leg.met with
  | .skipped reason => .skipped reason
  | .unprepared error => .error error.message
  | .ran (.ok value) => .success value
  | .ran (.error failure) => .error failure.message

/-- What a timeline tells of a visit. -/
def note (leg : Leg) : HandlerId × TimelineOutcome := (leg.entry.id, leg.observed)

theorem ofVisit_outcome (leg : Leg) : TimelineOutcome.ofVisit leg.met.outcome = leg.observed := by
  rw [observed]
  cases leg.met with
  | skipped reason => rfl
  | unprepared error => exact congrArg _ (Failure.message_dispatch error)
  | ran outcome => cases outcome <;> rfl

/-- What is told of a visit that ends the dispatch with its error is the text of this error. -/
theorem note_of_error? {error : DispatchError} (herror : leg.met.error? leg.entry.id = some error) :
    leg.note = (leg.entry.id, .error error.message) := by
  rw [note, observed]
  cases hmet : leg.met with
  | skipped reason =>
      rw [hmet] at herror
      cases herror
  | unprepared given =>
      rw [hmet] at herror
      obtain rfl := Option.some.inj herror
      rfl
  | ran outcome =>
      rw [hmet] at herror
      cases outcome with
      | ok value => cases herror
      | error failure =>
          obtain rfl := Option.some.inj herror
          rw [DispatchError.message_handler]

end Leg

/-- A timeline has one entry for each visit. -/
theorem entries_ofVisits (name : String) (legs : List Leg) (interruptedBy : Option HandlerId) :
    (Timeline.ofVisits name (legs.map Leg.record) interruptedBy).entries = legs.map Leg.note := by
  rw [Timeline.ofVisits, List.map_map]
  apply List.map_congr_left
  intro leg _
  exact congrArg (Prod.mk leg.entry.id) leg.ofVisit_outcome

/-! ## What is told of a dispatch -/

/-- A timeline tells of all visits and agrees with the result. -/
structure TellsAll (timeline : Timeline) (legs : List Leg) (result : DispatchResult) : Prop where
  entries : timeline.entries = legs.map Leg.note
  mirrors : timeline.Mirrors result

/-- A timeline of visits of which the last failed: it tells of all of them if a handler failed, and
of all but the last one if that one had no handler to run or no queue to go to. -/
inductive TellsFailure (timeline : Timeline) (legs : List Leg) (error : DispatchError) : Prop where
  | failed {early : List Leg} {last : Leg} {failure : Failure} (hlegs : legs = early ++ [last])
      (hmet : last.met = .ran (.error failure))
      (hentries : timeline.entries = legs.map Leg.note)
      (hlast : last.note = (last.entry.id, .error error.message))
  | unprepared {early : List Leg} {last : Leg} (hlegs : legs = early ++ [last])
      (hmet : last.met = .unprepared error)
      (hentries : timeline.entries = early.map Leg.note)

/-- Without an error the timeline tells of all visits. -/
theorem Journey.tellsAll {entries : List (Entry Behaviour)} {kind : PointKind}
    (hjourney : Journey runner plan entries before point legs tour after)
    (herror : tour.error = none) : TellsAll (tour.timeline kind) legs (tour.result kind) where
  entries := by
    rw [Tour.timeline, hjourney.visits_eq herror]
    exact entries_ofVisits _ legs _
  mirrors := Timeline.mirrors_ofVisits (tour.result kind)

/-- With an error the timeline tells of all visits, or of all but the last. -/
theorem Journey.tellsFailure {entries : List (Entry Behaviour)} {kind : PointKind}
    {error : DispatchError} (hjourney : Journey runner plan entries before point legs tour after)
    (herror : tour.error = some error) :
    TellsFailure (tour.timeline kind) legs error ∧ (tour.timeline kind).interruptedBy = none := by
  cases hjourney.ends with
  | finishes hentries hearly => cases herror
  | stops hearly hstep => cases herror
  | @aborts early last record raised hearly hstep =>
      obtain rfl := Option.some.inj herror
      refine ⟨?_, rfl⟩
      have hlast := Leg.note_of_error? (of_verdict_abort hstep).2
      have hverdict := verdict_spec plan last.entry.id last.met last.left
      rw [show verdict plan last.entry.id last.met last.left = _ from hstep] at hverdict
      cases hmet : last.met with
      | skipped reason =>
          rw [hmet] at hverdict
          cases hverdict
      | unprepared given =>
          rw [hmet] at hverdict
          cases hverdict with
          | unpreparedAborts hgraceful =>
              apply TellsFailure.unprepared rfl hmet
              rw [Tour.timeline, Option.toList_none, List.append_nil]
              exact entries_ofVisits _ early _
      | ran outcome =>
          rw [hmet] at hverdict
          cases hverdict with
          | ranAborts hgraceful =>
              apply TellsFailure.failed rfl hmet _ hlast
              have hrecord : last.record = ⟨last.entry.id, .failure _⟩ :=
                congrArg (fun met => Visit.mk last.entry.id (Encounter.outcome met)) hmet
              rw [Tour.timeline, Option.toList_some, ← hrecord, ← List.map_singleton,
                ← List.map_append]
              exact entries_ofVisits _ _ _

/-- A dispatch that keeps a timeline, is not silenced and has entries where it needs them hands a
timeline to its sink exactly once: after its visits and before any listener is told.  The timeline
tells of every visit what was observed there, and of a visit that made the dispatch fail the text of
the error, if a handler failed; of a handler that could not be had or queued it tells nothing then.
If nobody else hands a timeline to the sink, it has been handed this one. -/
theorem dispatch_reports_timeline {runner : Runner} {plan : DispatchPlan} {point left : Point}
    {before after : Engine} {outcome : Except DispatchError DispatchResult}
    (hdebug : plan.flags.debug = true) (hsounds : before.isSilenced = false)
    (hhandled : plan.flags.strict = true → before.registry.view point.kind ≠ [])
    (hrun : Runs (dispatch runner plan point) before (left, outcome) after) :
    ∃ legs toured timeline told,
      Trail runner plan (opened before point.kind) (point.modifyInterruption fun _ => .fresh)
        legs toured left ∧
      legs.map Leg.entry <+: before.registry.view point.kind ∧
      Runs (report timeline) toured () told ∧
      (match outcome with
        | .ok result =>
          TellsAll timeline legs result ∧
            ∃ ended, Runs (notifyOf runner plan point.kind left) told () ended ∧
              after = ended.record (.log
                (completionEvent (before.registry.view point.kind).length result))
        | .error error =>
          TellsFailure timeline legs error ∧ timeline.interruptedBy = none ∧
            (∃ last, legs.getLast? = some last ∧
              Raises runner last.entry last.arrived last.before last.reached error) ∧
            after = told) ∧
      (runner.Spares sunk (before.registry.view point.kind) →
        (plan.notify = true → ∀ listener ∈ (toured.listeners.get? point.kind).getD [],
          Engine.Spares sunk (runner.tell listener left)) →
        before.sink = .events → after.timelines = before.timelines ++ [timeline]) := by
  cases runs_dispatch.mp hrun with
  | silenced hsilenced =>
      rw [hsounds] at hsilenced
      cases hsilenced
  | unhandled _ hstrict hempty => exact absurd hempty (hhandled hstrict)
  | @visits legs tour toured after outcome _ _ hjourney hconclude =>
      let told := reported plan point.kind tour toured
      have hreported : Runs (report (tour.timeline point.kind)) toured () told :=
        (runs_report hdebug).mpr rfl
      have hsunk (hspares : runner.Spares sunk (before.registry.view point.kind))
          (hsink : before.sink = .events) :
          told.timelines = before.timelines ++ [tour.timeline point.kind] := by
        have hentries : ∀ leg ∈ legs, leg.entry ∈ before.registry.view point.kind :=
          fun leg hleg => hjourney.entries_isPrefix.subset (List.mem_map_of_mem hleg)
        have htoured : sunk toured = sunk before :=
          (hjourney.trail.part_eq hspares untouched_sunk hentries).trans
            (untouched_sunk.opened before _)
        have hkept : toured.sink = .events := (congrArg Prod.fst htoured).trans hsink
        have htimelines : toured.timelines = before.timelines := congrArg Prod.snd htoured
        simp only [told, reported, hdebug, hkept, if_true]
        rw [timelines_record, htimelines]
      refine ⟨legs, toured, tour.timeline point.kind, told, hjourney.trail,
        hjourney.entries_isPrefix, hreported, ?_⟩
      cases herror : tour.error with
      | none =>
          obtain ⟨ended, hnotified, rfl, rfl⟩ := (runs_conclude_ok herror).mp hconclude
          refine ⟨⟨hjourney.tellsAll herror, ended, hnotified, rfl⟩, ?_⟩
          intro hspares hlisteners hsink
          have hsame : told.listeners = toured.listeners :=
            eq_of_bare_eq Engine.listeners (fun _ => rfl)
              (bare_reported plan point.kind tour toured)
          have hnotice := part_notifyOf untouched_sunk told (hsame.symm ▸ hlisteners)
          rw [show (notifyOf runner plan point.kind tour.point).run.run told = (.ok (), ended) from
            hnotified] at hnotice
          have hended : ended.timelines = told.timelines := congrArg Prod.snd hnotice
          exact (congrArg Prod.snd (untouched_sunk.record ended _)).trans
            (hended.trans (hsunk hspares hsink))
      | some error =>
          obtain ⟨rfl, rfl⟩ := (runs_conclude_error herror).mp hconclude
          obtain ⟨htells, hnobody⟩ := hjourney.tellsFailure herror
          exact ⟨⟨htells, hnobody, hjourney.raises herror, rfl⟩,
            fun hspares _ hsink => hsunk hspares hsink⟩

namespace Sample

/-- An engine that knows the first of two handlers by its id only, and has none by this id. -/
def unresolved : Engine :=
  { Engine.new .standard 0 with
    registry := ((Registry.empty.insert (.deferred kind "stock" 0)).1.insert
      (.live (handler "mail" (.ok .null)) 1)).1 }

/-- A timeline is kept, and errors are collected if the dispatch is graceful. -/
def watched (graceful : Bool) : DispatchPlan := ⟨⟨graceful, true, true⟩, false, none⟩

end Sample

/-- A failure and a veto are told in their order, and nothing else was handed to the sink. -/
theorem dispatch_reports_timeline_of_sample :
    ∃ left result after legs timeline,
      Runs (dispatch Sample.runner (Sample.watched true) (.blank Sample.kind)) Sample.engine
        (left, .ok result) after ∧
      TellsAll timeline legs result ∧ after.timelines = [timeline] ∧
      timeline.errors = [("stock", "sold out")] ∧ timeline.interruptedBy = some "fraud" := by
  have hhandled : (Sample.watched true).flags.strict = true →
      Sample.engine.registry.view Sample.kind ≠ [] := fun _ => List.cons_ne_nil _ _
  have hrun : Runs (dispatch Sample.runner (Sample.watched true) (.blank Sample.kind))
      Sample.engine (_, .ok _) _ := rfl
  have hspares : Sample.runner.Spares sunk (Sample.engine.registry.view Sample.kind) := by
    apply Powers.spares_sunk
    intro entry hentry handler hprovides body
    rcases List.mem_cons.mp hentry with rfl | hentry
    · obtain rfl := hprovides.eq_of_live rfl
      exact trivial
    rcases List.mem_cons.mp hentry with rfl | hentry
    · obtain rfl := hprovides.eq_of_live rfl
      exact trivial
    · obtain rfl := List.mem_singleton.mp hentry
      obtain rfl := hprovides.eq_of_live rfl
      exact trivial
  obtain ⟨legs, toured, timeline, told, -, -, -, ⟨htells, -⟩, hsunk⟩ :=
    dispatch_reports_timeline rfl rfl hhandled hrun
  refine ⟨_, _, _, legs, timeline, hrun, htells, hsunk hspares nofun rfl, ?_, ?_⟩
  · rw [htells.mirrors.errors]
    rfl
  · rw [htells.mirrors.interruptedBy]
    rfl

/-- A handler that cannot be resolved makes the dispatch fail, and the timeline does not tell. -/
theorem unresolved_abort_missing_from_timeline :
    ∃ left after,
      Runs (dispatch Sample.runner (Sample.watched false) (.blank Sample.kind)) Sample.unresolved
        (left, .error (.unresolved "stock")) after ∧
      after.timelines = [⟨Sample.kind.name, [], none⟩] :=
  ⟨_, _, rfl, rfl⟩

end Dispatch
end Plugboard
