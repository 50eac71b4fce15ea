import Plugboard.Proofs.Circuit.Automaton
import Plugboard.Proofs.Dispatch.Endings

/-!
# What a dispatch tells the breaker

The breaker of a dispatch hears of each run of a handler once, in the order of the visits, whether
it succeeded or failed, and of nothing else; and what it heard decides which later entries are run.
This is so where the handlers leave the breaker alone, as those do that use no engine.
-/

namespace Plugboard

open Engine

/-! ## Code that leaves the breaker alone -/

namespace Engine

theorem spares_instantiate (code : HandlerCode Behaviour) : Spares breaker (instantiate code) :=
  .bind spares_get fun _ => .bind (spares_modify fun _ => rfl) fun _ => spares_pure _

theorem spares_resolve (id : HandlerId) : Spares breaker (resolve id) := by
  refine .bind spares_get fun engine => ?_
  split
  · exact spares_pure _
  · exact spares_pure _
  · exact .bind (spares_instantiate _) fun _ => spares_pure _

theorem spares_enqueue (call : QueuedCall Behaviour) : Spares breaker (enqueue call) :=
  fun engine => congrArg (fun left => left.breaker) (besideQueues_enqueue call engine)

end Engine

/-! ## Runners that leave the breaker alone -/

/-- A visit of the entry may find the handler. -/
def Dispatch.Provides (runner : Runner) (entry : Entry Behaviour) (handler : Handler Behaviour) :
    Prop :=
  ∃ kind before after, Dispatch.Sought runner kind entry before (.ok handler) after

/-- An entry that holds its handler provides no other. -/
theorem Dispatch.Provides.eq_of_live {runner : Runner} {entry : Entry Behaviour}
    {handler known : Handler Behaviour} (hprovides : Provides runner entry handler)
    (hlive : entry.handler = .live known) : handler = known := by
  obtain ⟨kind, before, after, hsought⟩ := hprovides
  cases hsought with
  | live hfound => exact HandlerRef.live.inj (hfound.symm.trans hlive)
  | resolved hdeferred hlookup haccepts => cases hdeferred.symm.trans hlive

/-- The code outside the dispatcher leaves the breaker alone, handlers of these entries included. -/
structure Runner.SparesBreaker (runner : Runner) (entries : List (Entry Behaviour)) : Prop where
  run : ∀ entry ∈ entries, ∀ handler, Dispatch.Provides runner entry handler →
    ∀ point, Spares Engine.breaker (runner.run handler point)
  resolve : ∀ id, Spares Engine.breaker (runner.resolve id)
  enqueue : ∀ call, Spares Engine.breaker (runner.enqueue call)

/-- The behaviour uses no engine: it gives no command and dispatches nothing. -/
def Behaviour.Alone : Behaviour → Prop
  | .finish _ _ | .panic _ => True
  | .count resume => ∀ count, (resume count).Alone
  | .announce _ resume => resume.Alone
  | .operate _ _ | .propagate _ _ _ => False

/-- A behaviour that uses no engine leaves the breaker alone. -/
theorem Behaviour.spares_run (powers : Powers) (serial : Nat) :
    ∀ behaviour : Behaviour, behaviour.Alone → Spares Engine.breaker (behaviour.run powers serial)
  | .finish _ _, _ => spares_pure _
  | .panic _, _ => spares_throw _
  | .count resume, halone =>
      have hcounted : Spares Engine.breaker (nextCount serial) :=
        .bind spares_get fun _ => .bind (spares_modify fun _ => rfl) fun _ => spares_pure _
      hcounted.bind fun count => spares_run powers serial (resume count) (halone count)
  | .announce event resume, halone =>
      .bind (spares_announce (fun _ => rfl) event) fun _ => spares_run powers serial resume halone
  | .operate _ _, halone | .propagate _ _ _, halone => halone.elim

/-- Whatever else an engine is used for, handlers that do not use it leave its breaker alone. -/
theorem Powers.sparesBreaker (powers : Powers) {entries : List (Entry Behaviour)}
    (halone : ∀ entry ∈ entries, ∀ handler, Dispatch.Provides powers.runner entry handler →
      ∀ body, (handler.react body).Alone) : powers.runner.SparesBreaker entries where
  run := by
    intro entry hentry handler hprovides point
    change Spares Engine.breaker (Handler.run powers handler point)
    unfold Handler.run
    split
    · exact .bind (Behaviour.spares_run powers _ _ (halone entry hentry handler hprovides _))
        fun _ => .bind (spares_modify fun _ => rfl) fun _ => spares_pure _
    · exact spares_pure _
  resolve := spares_resolve
  enqueue := spares_enqueue

namespace Dispatch

variable {runner : Runner} {plan : DispatchPlan} {entries : List (Entry Behaviour)}
  {entry : Entry Behaviour} {point left : Point} {before after : Engine} {abort : Abort}
  {leg : Leg} {legs : List Leg}

section

variable (hspares : runner.SparesBreaker entries)

include hspares

theorem spares_handlerOf (kind : PointKind) (entry : Entry Behaviour) :
    Spares Engine.breaker (handlerOf runner kind entry) := by
  have hlookup (id : HandlerId) : Spares Engine.breaker (lookUp runner id) := by
    refine .bind spares_get fun engine => ?_
    split
    · exact hspares.resolve id
    · exact spares_pure _
  unfold handlerOf
  split
  · exact spares_pure _
  · refine .bind (hlookup _) fun found => ?_
    split
    · exact spares_pure _
    · split <;> exact spares_pure _

theorem spares_offer (handler : Handler Behaviour) (queuePlan : QueuePlan) (point : Point) :
    Spares Engine.breaker (offer runner handler queuePlan point) := by
  refine .bind spares_get fun engine => ?_
  split
  · exact spares_pure _
  · split
    · exact spares_pure _
    · exact hspares.enqueue _

theorem spares_handOver (id : HandlerId) (handler : Handler Behaviour) (queuePlan : QueuePlan)
    (point : Point) : Spares Engine.breaker (handOver runner id handler queuePlan point) := by
  refine .bind (spares_offer hspares _ _ _) fun outcome => ?_
  split
  · exact .bind (spares_log (fun _ => rfl) _) fun _ => spares_pure _
  · exact .bind (spares_log (fun _ => rfl) _) fun _ => spares_pure _
  · exact spares_pure _

/-- The search for a handler leaves the breaker alone. -/
theorem breaker_of_sought {kind : PointKind} {found : Except DispatchError (Handler Behaviour)}
    (hsought : Sought runner kind entry before found after) : after.breaker = before.breaker :=
  (spares_handlerOf hspares kind entry).runs (runs_handlerOf.mpr hsought)

end

/-! ## What the breaker hears -/

def signalOf : HandlerResult → CircuitSignal
  | .ok _ => .success
  | .error _ => .failure

def Leg.report? (leg : Leg) : Option CircuitReport :=
  match leg.met with
  | .ran outcome => some ⟨leg.reached.breakerTime, leg.entry.id, signalOf outcome⟩
  | _ => none

def heard (breaker : Breaker) (legs : List Leg) : Breaker :=
  (legs.filterMap Leg.report?).foldl Breaker.hear breaker

/-- Recording how a run came out is telling the breaker of it. -/
theorem breakerAfter_eq (engine : Engine) (id : HandlerId) (outcome : HandlerResult) :
    engine.breakerAfter id outcome =
      engine.breaker.hear ⟨engine.breakerTime, id, signalOf outcome⟩ := by
  cases outcome <;> rfl

theorem heard_append (breaker : Breaker) (early later : List Leg) :
    heard breaker (early ++ later) = heard (heard breaker early) later := by
  rw [heard, List.filterMap_append, List.foldl_append]
  rfl

theorem heard_single (breaker : Breaker) (leg : Leg) :
    heard breaker [leg] = leg.report?.elim breaker breaker.hear := by
  rw [heard]
  cases hreport : leg.report? <;> simp [hreport]

/-- Nothing is heard of a visit that runs nothing. -/
theorem heard_of_idle {breaker : Breaker} (hidle : ∀ outcome, leg.met ≠ .ran outcome) :
    heard breaker [leg] = breaker := by
  rw [heard_single, Leg.report?]
  cases hmet : leg.met with
  | ran outcome => exact absurd hmet (hidle outcome)
  | skipped reason | unprepared error => rfl

/-- What is heard of a visit concerns the circuit of its entry only. -/
theorem isAvailable_heard_of_ne {breaker : Breaker} {id : HandlerId} (hother : leg.entry.id ≠ id)
    (now : UInt64) :
    (heard breaker [leg]).isAvailable now id = breaker.isAvailable now id := by
  rw [heard_single, Leg.report?]
  cases leg.met with
  | ran outcome => exact Breaker.isAvailable_hear_of_ne hother.symm breaker now
  | skipped reason | unprepared error => rfl

/-- A visit is heard of exactly if it runs a handler. -/
theorem Leg.Happens.met_iff_ran (hhappens : leg.Happens runner) (outcome : HandlerResult) :
    leg.met = .ran outcome ↔ leg.Ran runner outcome := by
  constructor
  · exact Leg.ran_of_met hhappens
  · rintro ⟨handler, started, touched, ended, hinvokes⟩
    exact (hhappens.meets.of_invokes hinvokes).1

/-- A handler runs only where its circuit lets it. -/
theorem Leg.Ran.isAvailable {outcome : HandlerResult} (hran : leg.Ran runner outcome) :
    leg.before.breaker.isAvailable leg.before.breakerTime leg.entry.id = true := by
  obtain ⟨handler, started, touched, ended, hinvokes⟩ := hran
  obtain ⟨ready, hreaches, -⟩ := hinvokes.reaches
  exact hreaches.available

/-- A visit changes the breaker by what is heard of it, and not at all if it runs nothing. -/
theorem Leg.Happens.reached_breaker (hspares : runner.SparesBreaker entries)
    (hentry : leg.entry ∈ entries) (hhappens : leg.Happens runner) :
    leg.reached.breaker = heard leg.before.breaker [leg] := by
  obtain ⟨entry, arrived, before, met, left, reached⟩ := leg
  have hmeets : Meets runner entry arrived before met left reached := hhappens.meets
  cases hmeets with
  | muted hmuted => exact breaker_recordAll before [_]
  | circuitOpen hunmuted hopen => exact breaker_recordAll before [_]
  | unprepared hunmuted havailable hsought => exact breaker_of_sought hspares hsought
  | @offered handler queuePlan ready after met hreaches hqueue hhanded =>
      have hready : ready.breaker = before.breaker := breaker_of_sought hspares hreaches.sought
      have hoffers := spares_offer hspares handler queuePlan arrived
      cases hhanded with
      | @queued offered hoffer =>
          exact (breaker_recordAll offered [_]).trans ((hoffers.runs hoffer).trans hready)
      | @duplicate key offered hoffer =>
          exact (breaker_recordAll offered [_]).trans ((hoffers.runs hoffer).trans hready)
      | refused hoffer hnew => exact (hoffers.runs hoffer).trans hready
  | @invoked handler started ended touched outcome hinvokes =>
      obtain ⟨ready, hreaches, hstarted⟩ := hinvokes.reaches
      have hready : ready.breaker = before.breaker := breaker_of_sought hspares hreaches.sought
      have hstart : started.breaker = ready.breaker := by
        rw [hstarted]
        exact breaker_recordAll ready [_]
      have hruns := hspares.run entry hentry handler ⟨_, _, _, hreaches.sought⟩ arrived
      have hended : ended.breaker = before.breaker :=
        (hruns.runs hinvokes.runs).trans (hstart.trans hready)
      have htime : (ended.afterOutcome entry.id outcome).breakerTime = ended.breakerTime := by
        change (ended.recordAll _).breakerTime = ended.breakerTime
        exact eq_of_bare_eq breakerTime (fun _ => rfl) (bare_recordAll ended _)
      change ended.breakerAfter entry.id outcome = before.breaker.hear ⟨_, entry.id, _⟩
      rw [breakerAfter_eq, hended, htime]

/-- A visit tells the breaker of the run of its handler, and of nothing else. -/
theorem Leg.Happens.after_breaker (hspares : runner.SparesBreaker entries)
    (hentry : leg.entry ∈ entries) (hhappens : leg.Happens runner) :
    (leg.after plan).breaker = heard leg.before.breaker [leg] :=
  (breaker_recordAll _ _).trans (hhappens.reached_breaker hspares hentry)

/-- Where a visit is stopped, nothing is heard of it. -/
theorem breaker_of_stops_encounter (hspares : runner.SparesBreaker entries)
    (hentry : entry ∈ entries) (hstop : Stops (encounter runner entry point) before abort after) :
    after.breaker = before.breaker := by
  rw [encounter, stops_get_then] at hstop
  split at hstop
  · exact absurd (stops_log_then.mp hstop) not_stops_pure
  · split at hstop
    · exact absurd (stops_log_then.mp hstop) not_stops_pure
    · rcases stops_bind.mp hstop with hsearch | ⟨found, ready, hsearch, hstop⟩
      · exact (spares_handlerOf hspares _ _).stops hsearch
      · have hsought := runs_handlerOf.mp hsearch
        have hready : ready.breaker = before.breaker := breaker_of_sought hspares hsought
        cases found with
        | error error => exact absurd hstop not_stops_pure
        | ok handler =>
            cases hqueue : entry.queue with
            | some queuePlan =>
                simp only [hqueue] at hstop
                rcases stops_bind.mp hstop with hhanded | ⟨met, middle, -, hnone⟩
                · exact ((spares_handOver hspares _ _ _ _).stops hhanded).trans hready
                · exact absurd hnone not_stops_pure
            | none =>
                simp only [hqueue, invoke] at hstop
                rcases stops_bind.mp (stops_log_then.mp hstop) with
                  hrun | ⟨⟨touched, outcome⟩, ended, -, hnone⟩
                · have hruns := hspares.run entry hentry handler ⟨_, _, _, hsought⟩ point
                  exact ((hruns.stops hrun).trans (breaker_recordAll ready [_])).trans hready
                · have hrecorded : Runs (recordOutcome entry.id outcome) ended () _ :=
                    runs_recordOutcome.mpr rfl
                  exact absurd (hrecorded.stops_bind.mp hnone) not_stops_pure

/-! ## Along the visits -/

/-- The breaker hears of the runs of all visits, one after the other. -/
theorem Trail.breaker (hspares : runner.SparesBreaker entries)
    (hentries : ∀ leg ∈ legs, leg.entry ∈ entries)
    (htrail : Trail runner plan before point legs after left) :
    after.breaker = heard before.breaker legs := by
  induction htrail with
  | here engine point => rfl
  | @visit leg legs engine point hhappens hrest ih =>
      obtain ⟨hentry, hlater⟩ := List.forall_mem_cons.mp hentries
      rw [ih hlater, hhappens.after_breaker hspares hentry, ← heard_append, List.singleton_append]

/-- As long as the circuit of a handler stays open at the visits of its entries, none of them is
run, and the circuit is left as it is. -/
theorem Trail.isAvailable_eq (hspares : runner.SparesBreaker entries) {id : HandlerId}
    {breaker : Breaker} (hentries : ∀ leg ∈ legs, leg.entry ∈ entries)
    (hopen : ∀ leg ∈ legs, leg.entry.id = id →
      breaker.isAvailable leg.before.breakerTime id = false)
    (hbefore : ∀ now, before.breaker.isAvailable now id = breaker.isAvailable now id)
    (htrail : Trail runner plan before point legs after left) :
    ∀ now, after.breaker.isAvailable now id = breaker.isAvailable now id := by
  induction htrail with
  | here engine point => exact hbefore
  | @visit leg legs engine point hhappens hrest ih =>
      obtain ⟨hentry, hlater⟩ := List.forall_mem_cons.mp hentries
      obtain ⟨hclosed, hothers⟩ := List.forall_mem_cons.mp hopen
      refine ih hlater hothers fun now => ?_
      rw [hhappens.after_breaker hspares hentry, ← hbefore now]
      by_cases hid : leg.entry.id = id
      · have hidle : ∀ outcome, leg.met ≠ .ran outcome := by
          intro outcome hmet
          have havailable := (Leg.ran_of_met hhappens hmet).isAvailable
          rw [hid, hbefore, hclosed hid] at havailable
          cases havailable
        rw [heard_of_idle hidle]
      · exact isAvailable_heard_of_ne hid now

/-- A visit of an entry whose circuit is open skips it. -/
theorem Leg.Happens.skips (hhappens : leg.Happens runner)
    (hopen : leg.before.breaker.isAvailable leg.before.breakerTime leg.entry.id = false) :
    leg.met = .skipped .muted ∨ leg.met = .skipped .circuitOpen := by
  by_cases hmuted : leg.entry.id ∈ leg.before.muted
  · exact .inl (hhappens.meets.muted_iff.mpr hmuted)
  · exact .inr (hhappens.meets.circuitOpen_iff.mpr ⟨hmuted, hopen⟩)

/-- Before and after each visit, the breaker has heard of the visits up to then. -/
theorem Trail.breaker_at (hspares : runner.SparesBreaker entries) {early later : List Leg}
    (hentries : ∀ other ∈ early ++ leg :: later, other.entry ∈ entries)
    (htrail : Trail runner plan before point (early ++ leg :: later) after left) :
    leg.before.breaker = heard before.breaker early ∧
      leg.reached.breaker = heard before.breaker (early ++ [leg]) := by
  obtain ⟨hearlier, hothers⟩ := List.forall_mem_append.mp hentries
  obtain ⟨hentry, -⟩ := List.forall_mem_cons.mp hothers
  obtain ⟨middle, given, hearly, hlater⟩ := htrail.split
  cases hlater with
  | visit hvisit hrest =>
      have hbefore := hearly.breaker hspares hearlier
      have hreached := hvisit.reached_breaker hspares hentry
      rw [hbefore, ← heard_append] at hreached
      exact ⟨hbefore, hreached⟩

/-- While the circuit of a handler stays open after a visit, no later visit runs the handler. -/
theorem Trail.skips_while_open (hspares : runner.SparesBreaker entries) {next : Leg}
    {early between later : List Leg}
    (hentries : ∀ other ∈ early ++ leg :: (between ++ next :: later), other.entry ∈ entries)
    (hid : next.entry.id = leg.entry.id)
    (hopen : ∀ other ∈ between ++ [next], other.entry.id = leg.entry.id →
      leg.reached.breaker.isAvailable other.before.breakerTime leg.entry.id = false)
    (htrail : Trail runner plan before point (early ++ leg :: (between ++ next :: later)) after
      left) :
    next.met = .skipped .muted ∨ next.met = .skipped .circuitOpen := by
  obtain ⟨-, hothers⟩ := List.forall_mem_append.mp hentries
  obtain ⟨-, hfollowing⟩ := List.forall_mem_cons.mp hothers
  obtain ⟨hbetween, -⟩ := List.forall_mem_append.mp hfollowing
  obtain ⟨hstays, hnext⟩ := List.forall_mem_append.mp hopen
  obtain ⟨middle, given, -, hlater⟩ := htrail.split
  cases hlater with
  | visit hvisit hrest =>
      obtain ⟨reached, touched, hpassed, hlast⟩ := hrest.split
      cases hlast with
      | visit hlast hrest =>
          have hleft : (leg.after plan).breaker = leg.reached.breaker := breaker_recordAll _ _
          have hkept := hpassed.isAvailable_eq hspares hbetween hstays (fun now => by rw [hleft])
          have hshut := hnext next (List.mem_singleton_self _) hid
          rw [← hkept, ← hid] at hshut
          exact hlast.skips hshut

/-! ## After the visits -/

theorem breaker_opened (engine : Engine) (kind : PointKind) :
    (opened engine kind).breaker = engine.breaker := by
  rw [opened, viewed]
  exact (breaker_recordAll _ _).trans (breaker_recordAll engine [_])

theorem breaker_reported (kind : PointKind) (tour : Tour) (engine : Engine) :
    (reported plan kind tour engine).breaker = engine.breaker :=
  eq_of_bare_eq Engine.breaker (fun _ => rfl) (bare_reported plan kind tour engine)

theorem breaker_notifyOf {kind : PointKind} {engine : Engine}
    (hlisteners : plan.notify = true → ∀ listener ∈ (engine.listeners.get? kind).getD [],
      Spares Engine.breaker (runner.tell listener point)) :
    ((notifyOf runner plan kind point).run.run engine).2.breaker = engine.breaker := by
  have htell (listeners : List Listener)
      (hspares : ∀ listener ∈ listeners, Spares Engine.breaker (runner.tell listener point)) :
      Spares Engine.breaker (tellAll runner point listeners) := by
    induction listeners with
    | nil => exact spares_pure _
    | cons listener rest ih =>
        obtain ⟨hlistener, hrest⟩ := List.forall_mem_cons.mp hspares
        unfold tellAll
        split
        · exact hlistener.bind fun _ => ih hrest
        · exact ih hrest
  have hget {next : Engine → EngineM Unit} :
      (get >>= next).run.run engine = (next engine).run.run engine := rfl
  rw [notifyOf, hget]
  split
  · rename_i hnotify
    rw [notify, hget]
    split
    · rfl
    · rename_i listeners hlistening
      rw [hlistening] at hlisteners
      have htold := htell listeners (hlisteners (Bool.and_eq_true_iff.mp hnotify).1)
      exact (spares_log (fun _ => rfl) _).bind (fun _ => htold) engine
  · rfl

/-- What comes after the visits is not heard of, if the listeners leave the breaker alone. -/
theorem Closes.breaker {toured : Engine}
    {final : Except Abort (Point × Except DispatchError DispatchResult)}
    (hspares : runner.SparesBreaker (before.registry.view point.kind))
    (hlisteners : plan.notify = true → ∀ listener ∈ (toured.listeners.get? point.kind).getD [],
      Spares Engine.breaker (runner.tell listener left))
    (htoured : toured.breaker = heard before.breaker legs)
    (hcloses : Closes runner plan point before legs toured left final after) :
    after.breaker = heard before.breaker legs := by
  have hnotified (tour : Tour) :
      ((notifyOf runner plan point.kind left).run.run
        (reported plan point.kind tour toured)).2.breaker = toured.breaker := by
    have hsame : (reported plan point.kind tour toured).listeners = toured.listeners :=
      eq_of_bare_eq Engine.listeners (fun _ => rfl) (bare_reported plan point.kind tour toured)
    rw [← hsame] at hlisteners
    exact (breaker_notifyOf hlisteners).trans (breaker_reported _ _ _)
  cases hcloses with
  | silenced hsilenced hnone =>
      rw [hnone]
      exact breaker_recordAll before _
  | unhandled hstrict hempty => exact htoured
  | failed tour hlast hraises => exact (breaker_reported _ _ _).trans htoured
  | @finished tour told hcovers haccounts htold =>
      rw [← htoured, ← hnotified tour]
      rw [show (notifyOf runner plan point.kind left).run.run _ = (.ok (), told) from htold]
      exact breaker_recordAll told [_]
  | @stoppedInVisit entry abort after hnext hstop =>
      have hentry : entry ∈ before.registry.view point.kind :=
        hnext.subset (List.mem_append_right _ (List.mem_singleton_self _))
      exact (breaker_of_stops_encounter hspares hentry hstop).trans htoured
  | @stoppedInNotice tour abort after hcovers hstop =>
      rw [← htoured, ← hnotified tour]
      rw [show (notifyOf runner plan point.kind left).run.run _ = (.error abort, after) from hstop]

/-- The breaker of a dispatch hears of the visits that run a handler, of each once and in their
order, and of nothing else, whether the dispatch comes to a result, fails or is stopped.  A visit
runs its handler only if the circuit is not open by what was heard before, and as long as the
circuit of a handler stays open after a visit, no later visit runs it. -/
theorem dispatch_books_outcomes (runner : Runner) (plan : DispatchPlan) (point : Point)
    (before : Engine) (hspares : runner.SparesBreaker (before.registry.view point.kind)) :
    ∃ legs toured left,
      Unfolds runner plan point before legs toured left
        ((dispatch runner plan point).run.run before).1
        ((dispatch runner plan point).run.run before).2 ∧
      (∀ leg ∈ legs, ∀ outcome, leg.met = .ran outcome ↔ leg.Ran runner outcome) ∧
      ((plan.notify = true → ∀ listener ∈ (toured.listeners.get? point.kind).getD [],
          Spares Engine.breaker (runner.tell listener left)) →
        ((dispatch runner plan point).run.run before).2.breaker = heard before.breaker legs) ∧
      (∀ early leg later, legs = early ++ leg :: later →
        leg.before.breaker = heard before.breaker early ∧
        leg.reached.breaker = heard before.breaker (early ++ [leg]) ∧
        ((heard before.breaker early).isAvailable leg.before.breakerTime leg.entry.id = false →
          leg.met = .skipped .muted ∨ leg.met = .skipped .circuitOpen)) ∧
      ∀ early leg between next later, legs = early ++ leg :: (between ++ next :: later) →
        next.entry.id = leg.entry.id →
        (∀ other ∈ between ++ [next], other.entry.id = leg.entry.id →
          leg.reached.breaker.isAvailable other.before.breakerTime leg.entry.id = false) →
        next.met = .skipped .muted ∨ next.met = .skipped .circuitOpen := by
  obtain ⟨legs, toured, left, hunfolds⟩ := exists_unfolds runner plan point before
  have hentries : ∀ leg ∈ legs, leg.entry ∈ before.registry.view point.kind :=
    fun leg hleg => hunfolds.visited.subset (List.mem_map_of_mem hleg)
  have hhappens := hunfolds.trail.happens
  have hopened := breaker_opened before point.kind
  refine ⟨legs, toured, left, hunfolds, fun leg hleg => (hhappens leg hleg).met_iff_ran, ?_, ?_,
    ?_⟩
  · intro hlisteners
    have htoured := hunfolds.trail.breaker hspares hentries
    rw [hopened] at htoured
    exact hunfolds.closes.breaker hspares hlisteners htoured
  · rintro early leg later rfl
    obtain ⟨hbefore, hreached⟩ := hunfolds.trail.breaker_at hspares hentries
    rw [hopened] at hbefore hreached
    refine ⟨hbefore, hreached, fun hopen => ?_⟩
    rw [← hbefore] at hopen
    exact (hhappens leg (List.mem_append_right _ List.mem_cons_self)).skips hopen
  · rintro early leg between next later rfl hid hopen
    exact hunfolds.trail.skips_while_open hspares hentries hid hopen

namespace Sample

/-- Two entries share a handler's id, and one failure opens its circuit. -/
def doubled : Engine :=
  { Engine.new { DispatchSettings.standard with
      circuit := { CircuitSettings.standard with threshold := 1 } } 0 with
    registry := ((Registry.empty.insert (.live (handler "stock" (.error (.text "sold out"))) 0)).1
      |>.insert (.live (handler "stock" (.ok .null)) 1)).1 }

def quietly : DispatchPlan := ⟨⟨true, false, false⟩, false, none⟩

end Sample

/-- The second entry is skipped in the dispatch in which the first one fails. -/
theorem dispatch_books_outcomes_of_sample :
    (Powers.within 1 1 0).runner.SparesBreaker (Sample.doubled.registry.view Sample.kind) ∧
    ∃ legs toured left,
      Unfolds (Powers.within 1 1 0).runner Sample.quietly (.blank Sample.kind) Sample.doubled legs
        toured left
        ((dispatch (Powers.within 1 1 0).runner Sample.quietly (.blank Sample.kind)).run.run
          Sample.doubled).1
        ((dispatch (Powers.within 1 1 0).runner Sample.quietly (.blank Sample.kind)).run.run
          Sample.doubled).2 ∧
      ((dispatch (Powers.within 1 1 0).runner Sample.quietly (.blank Sample.kind)).run.run
        Sample.doubled).2.breaker = heard Sample.doubled.breaker legs ∧
      ∃ given result after,
        Runs (dispatch (Powers.within 1 1 0).runner Sample.quietly (.blank Sample.kind))
          Sample.doubled (given, .ok result) after ∧
        result.errors.length = 1 ∧ result.skipped = [("stock", .circuitOpen)] := by
  have hspares : (Powers.within 1 1 0).runner.SparesBreaker
      (Sample.doubled.registry.view Sample.kind) := by
    refine Powers.sparesBreaker _ ?_
    intro entry hentry handler hprovides body
    rcases List.mem_cons.mp hentry with rfl | hrest
    · obtain rfl := hprovides.eq_of_live rfl
      exact trivial
    · obtain rfl := List.mem_singleton.mp hrest
      obtain rfl := hprovides.eq_of_live rfl
      exact trivial
  obtain ⟨legs, toured, left, hunfolds, -, hbreaker, -⟩ := dispatch_books_outcomes
    (Powers.within 1 1 0).runner Sample.quietly (.blank Sample.kind) Sample.doubled hspares
  have hrun : Runs (dispatch (Powers.within 1 1 0).runner Sample.quietly (.blank Sample.kind))
      Sample.doubled (_, .ok _) _ := rfl
  exact ⟨hspares, legs, toured, left, hunfolds, hbreaker nofun, _, _, _, hrun, rfl, rfl⟩

end Dispatch
end Plugboard
