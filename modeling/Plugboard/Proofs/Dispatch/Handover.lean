import Plugboard.Proofs.Dispatch.Lockstep
import Plugboard.Proofs.Registry.Removal

/-!
# Queued entries are transparent

A dispatch that hands an entry to a queue goes on as the dispatch without this entry does, whatever
the handler of the entry will do when the call is run.  The two visit the other entries in lockstep:
all that the first has more is a record of the hand-over, at its place, and one call in the queue.
Every run of that call starts from the point as it was when the entry was visited.
-/

namespace Plugboard

open Engine

def Tour.afterAll (records : List Visit) (tour : Tour) : Tour :=
  { tour with visits := records ++ tour.visits }

/-- The tour comes to the same as its counterpart, and records one visit more. -/
structure Tour.Extends (tour counterpart : Tour) (early : List Visit) (extra : Visit) : Prop where
  visits : ∃ later, tour.visits = early ++ extra :: later ∧ counterpart.visits = early ++ later
  interruptedBy : tour.interruptedBy = counterpart.interruptedBy
  error : tour.error = counterpart.error
  point : tour.point = counterpart.point

/-- The result is the same but for one handler that is skipped, and the timeline but for one
entry at its place. -/
structure Tour.SkipsOneMore (tour counterpart : Tour) (kind : PointKind) (place : Nat)
    (id : HandlerId) (reason : SkipReason) : Prop where
  successes : (tour.result kind).successes = (counterpart.result kind).successes
  errors : (tour.result kind).errors = (counterpart.result kind).errors
  skipped : ∃ before after, (tour.result kind).skipped = before ++ (id, reason) :: after ∧
    (counterpart.result kind).skipped = before ++ after
  entries : ∃ before after, before.length = place ∧
    (tour.timeline kind).entries = before ++ (id, .skipped reason) :: after ∧
    (counterpart.timeline kind).entries = before ++ after

/-- What comes to the same but for one visit more has the same result but for this visit. -/
theorem Tour.Extends.skipsOneMore {tour counterpart : Tour} {early : List Visit}
    {id : HandlerId} {reason : SkipReason}
    (hextends : tour.Extends counterpart early ⟨id, .skipped reason⟩) (kind : PointKind) :
    tour.SkipsOneMore counterpart kind early.length id reason := by
  obtain ⟨later, hvisits, hothers⟩ := hextends.visits
  constructor <;>
    simp only [Tour.result, Tour.timeline, Timeline.ofVisits, DispatchResult.successes,
      DispatchResult.errors, DispatchResult.skipped, hvisits, hothers, List.filterMap_append,
      List.filterMap_cons, List.map_append, List.map_cons]
  case skipped => exact ⟨_, _, rfl, rfl⟩
  case entries => exact ⟨_, _, List.length_map _, rfl, rfl⟩

namespace Dispatch

section

variable {powers : Powers} {runner : Runner} {plan : DispatchPlan} {point left : Point}
  {first before after other : Engine} {legs : List Leg}
  {aside : List (QueuedCall Behaviour) → List (QueuedCall Behaviour) → Prop}

/-! ## The hand-over -/

/-- How a copy of the point is offered to a queue that collects calls. -/
theorem runs_offer {handler : Handler Behaviour} {queuePlan : QueuePlan}
    {outcome : Except QueueError Unit} (hlink : before.queueLink = .memory)
    (hrun : Runs (offer powers.runner handler queuePlan point) before outcome after) :
    (outcome = .ok () ∧
      after = before.collecting (callOf before.settings handler queuePlan point)) ∨
    outcome = .error (.payload point.kind.name) := by
  rw [offer, runs_get_then] at hrun
  simp only [hlink, reduceCtorEq, if_false] at hrun
  split at hrun
  · obtain ⟨rfl, -⟩ := runs_pure.mp hrun
    exact .inr rfl
  · have hcollected : Runs (enqueue (callOf before.settings handler queuePlan point)) before (.ok ())
        (before.collecting (callOf before.settings handler queuePlan point)) :=
      (Enqueued.collected hlink).run_eq
    obtain ⟨rfl, rfl⟩ := hcollected.unique hrun
    exact .inl ⟨rfl, rfl⟩

/-- A visit that hands its entry to a queue that collects calls leaves the point as it is, and
nothing but the call and diagnostics behind. -/
theorem Leg.Happens.handsOver {leg : Leg} {handler : Handler Behaviour} {queuePlan : QueuePlan}
    (hhappens : leg.Happens powers.runner) (hlive : leg.entry.handler = .live handler)
    (hqueue : leg.entry.queue = some queuePlan) (hmet : leg.met = .skipped .queued)
    (hlink : leg.before.queueLink = .memory) :
    leg.left = leg.arrived ∧
      Diagnosed (leg.before.collecting (callOf leg.before.settings handler queuePlan leg.arrived))
        leg.reached := by
  have hmeets := hhappens.meets
  obtain ⟨entry, arrived, before, met, left, reached⟩ := leg
  dsimp only at *
  subst hmet
  cases hmeets with
  | @offered _ plan ready _ _ hreaches hplan hhanded =>
      obtain rfl := Option.some.inj (hplan.symm.trans hqueue)
      obtain ⟨hfound, rfl⟩ := hreaches.sought.unique (.live hlive)
      obtain rfl := Except.ok.inj hfound
      cases hhanded with
      | queued hoffer =>
          rcases runs_offer hlink hoffer with ⟨-, rfl⟩ | hrefused
          · exact ⟨rfl, diagnosed_record _ rfl⟩
          · cases hrefused
      | duplicate hoffer =>
          rcases runs_offer hlink hoffer with ⟨haccepted, -⟩ | hrefused
          · cases haccepted
          · cases hrefused

/-- There is one call more, behind these and before those that were collected since. -/
def OneMore (earlier : List (QueuedCall Behaviour)) (call : QueuedCall Behaviour)
    (calls others : List (QueuedCall Behaviour)) : Prop :=
  ∃ later, calls = earlier ++ call :: later ∧ others = earlier ++ later

/-- One call more stays one call more, whatever is collected since. -/
theorem follows_oneMore (earlier : List (QueuedCall Behaviour)) (call : QueuedCall Behaviour) :
    Follows (OneMore earlier call) := by
  rintro calls others ⟨later, rfl, rfl⟩ next
  refine ⟨later ++ [next], ?_, ?_⟩
  · rw [List.append_assoc, List.cons_append]
  · rw [List.append_assoc]

theorem follows_eq : Follows Eq := fun hsame call => congrArg (· ++ [call]) hsame

/-- Engines that were alike are so but for the call when one of them has seen the hand-over. -/
theorem alike_of_handed {handed : Engine} {call : QueuedCall Behaviour}
    (halike : Alike first Eq before other) (hhanded : Diagnosed (before.collecting call) handed) :
    Alike first (OneMore before.memory.calls call) handed other where
  shared := hhanded.shared.trans halike.shared
  calls := by
    rw [eq_of_bare_eq (fun engine => engine.memory.calls) (fun _ => rfl) hhanded.bare]
    exact ⟨[], rfl, halike.calls.symm.trans (List.append_nil _).symm⟩
  fixtures := (eq_of_bare_eq fixtures (fun _ => rfl) hhanded.bare).trans halike.fixtures

/-- A tour whose first visits are known goes on from where they lead to. -/
theorem Trail.run_tour (htrail : Trail runner plan before point legs after left)
    (hproceeds : ∀ leg ∈ legs, leg.Proceeds plan) (rest : List (Entry Behaviour)) :
    (tour runner plan (legs.map Leg.entry ++ rest) point).run.run before =
      (do return (← tour runner plan rest left).afterAll (legs.map Leg.record)).run.run after := by
  induction htrail with
  | here engine point =>
      rw [run_bind]
      change (tour runner plan rest point).run.run engine = _
      cases (tour runner plan rest point).run.run engine with
      | mk outcome reached => cases outcome <;> rfl
  | @visit leg legs engine point hhappens hrest ih =>
      obtain ⟨hproceed, hothers⟩ := List.forall_mem_cons.mp hproceeds
      have hvisit := hhappens.runs plan
      rw [show leg.step plan = _ from hproceed] at hvisit
      rw [List.map_cons, List.cons_append, tour, hvisit.run_then]
      dsimp only
      rw [run_bind, ih hothers, run_bind, run_bind]
      cases (tour runner plan rest point).run.run engine with
      | mk outcome reached => cases outcome <;> rfl

/-- With the entry that is handed over and without it, the same visits are made. -/
theorem abreast_tours {leg : Leg} {rest : List (Entry Behaviour)} {handler : Handler Behaviour}
    {queuePlan : QueuePlan} (halike : Alike first Eq before other)
    (hlink : first.queueLink = .memory)
    (hsober : ∀ entry ∈ legs.map Leg.entry ++ rest, entry.Sober first.sources)
    (htrail : Trail powers.runner plan before point legs leg.before leg.arrived)
    (hproceeds : ∀ leg ∈ legs, leg.Proceeds plan) (hhappens : leg.Happens powers.runner)
    (hlive : leg.entry.handler = .live handler) (hqueue : leg.entry.queue = some queuePlan)
    (hmet : leg.met = .skipped .queued) :
    Abreast
      (Alike first (OneMore leg.before.memory.calls
        (callOf leg.before.settings handler queuePlan leg.arrived)))
      (fun tour counterpart => tour.Extends counterpart (legs.map Leg.record) leg.record)
      ((tour powers.runner plan (legs.map Leg.entry ++ leg.entry :: rest) point).run.run before)
      ((tour powers.runner plan (legs.map Leg.entry ++ rest) point).run.run other) := by
  obtain ⟨hearly, hrest⟩ := List.forall_mem_append.mp hsober
  obtain ⟨others, another, hothers, hentries, hrecords, hsurvive, hreached⟩ :=
    htrail.exists_counterpart follows_eq hproceeds (List.forall_mem_map.mp hearly) halike
  obtain ⟨hleft, hhanded⟩ := hhappens.handsOver hlive hqueue hmet
    (hreached.queueLink_eq.trans hlink)
  have hvisit : Runs (visit powers.runner plan leg.entry leg.arrived) leg.before
      (.proceed leg.record, leg.arrived) leg.reached := by
    have hran := hhappens.runs plan
    rw [Leg.step, Leg.after, hmet, hleft] at hran
    rw [Leg.record, hmet]
    exact hran
  have hlater : Lockstep
      (Alike first (OneMore leg.before.memory.calls
        (callOf leg.before.settings handler queuePlan leg.arrived)))
      (fun tour counterpart => tour.Extends counterpart (legs.map Leg.record) leg.record)
      (do
        let tour ← tour powers.runner plan rest leg.arrived
        return (tour.after leg.record).afterAll (legs.map Leg.record))
      (do return (← tour powers.runner plan rest leg.arrived).afterAll (legs.map Leg.record)) := by
    apply (lockstep_tour (follows_oneMore _ _) hrest leg.arrived).bind_eq
    intro tour
    exact lockstep_pure ⟨⟨tour.visits, rfl, rfl⟩, rfl, rfl, rfl⟩
  have hfirst : (tour powers.runner plan (legs.map Leg.entry ++ leg.entry :: rest)
      point).run.run before = (do
        let tour ← tour powers.runner plan rest leg.arrived
        return (tour.after leg.record).afterAll (legs.map Leg.record)).run.run leg.reached := by
    rw [htrail.run_tour hproceeds, tour, bind_assoc, hvisit.run_then]
    simp only [bind_assoc, pure_bind]
  have hsecond := hothers.run_tour hsurvive rest
  rw [hentries, hrecords] at hsecond
  -- One engine has seen the hand-over, the other has not: the rest goes in lockstep from there.
  rw [hfirst, hsecond]
  exact hlater _ _ (alike_of_handed hreached hhanded)

/-! ## Whole dispatches -/

/-- How a dispatch goes on when its visits came to a result and its timeline was reported. -/
def answering (runner : Runner) (plan : DispatchPlan) (kind : PointKind) (entries : Nat)
    (tour : Tour) : EngineM (Point × Except DispatchError DispatchResult) := do
  notifyOf runner plan kind tour.point
  Engine.log (completionEvent entries (tour.result kind))
  return (tour.point, .ok (tour.result kind))

/-- A dispatch and a counterpart of it go alike: both are stopped by a visit, or they make the same
visits but for one that the first makes more.  They fail with the same error and the same point, or
they tell the same listeners about the same point and then give their results. -/
inductive Parallel (runner : Runner) (plan : DispatchPlan) (point : Point) (before other : Engine)
    (engines : Engine → Engine → Prop) (early : List Visit) (extra : Visit) : Prop where
  | stops {abort : Abort} {after another : Engine} (hengines : engines after another)
      (hrun : Stops (dispatch runner plan point) before abort after)
      (hother : Stops (dispatch runner plan point) other abort another)
  | fails {tour counterpart : Tour} {toured another : Engine} {error : DispatchError}
      (hextends : tour.Extends counterpart early extra)
      (hengines : engines (reported plan point.kind tour toured)
        (reported plan point.kind counterpart another))
      (hrun : Runs (dispatch runner plan point) before (tour.point, .error error)
        (reported plan point.kind tour toured))
      (hother : Runs (dispatch runner plan point) other (tour.point, .error error)
        (reported plan point.kind counterpart another))
  | answers {tour counterpart : Tour} {toured another : Engine}
      (hextends : tour.Extends counterpart early extra)
      (hengines : engines (reported plan point.kind tour toured)
        (reported plan point.kind counterpart another))
      (hrun : (dispatch runner plan point).run.run before =
        (answering runner plan point.kind (before.registry.view point.kind).length tour).run.run
          (reported plan point.kind tour toured))
      (hother : (dispatch runner plan point).run.run other =
        (answering runner plan point.kind (other.registry.view point.kind).length
          counterpart).run.run (reported plan point.kind counterpart another))
      (haudience : audience plan point.kind (reported plan point.kind tour toured) =
          audience plan point.kind before ∧
        audience plan point.kind (reported plan point.kind counterpart another) =
          audience plan point.kind before)
      (hquiet : (∀ listener ∈ audience plan point.kind before, listener.reaction = none) →
        ∃ after ended, engines after ended ∧
          Runs (dispatch runner plan point) before
            (tour.point, .ok (tour.result point.kind)) after ∧
          Runs (dispatch runner plan point) other
            (tour.point, .ok (counterpart.result point.kind)) ended)

/-- What a dispatch does that is not silenced and needs no entries. -/
theorem run_dispatch_of_sounds (runner : Runner) (point : Point) (before : Engine)
    (hsounds : before.isSilenced = false) (hstrict : plan.flags.strict = false) :
    (dispatch runner plan point).run.run before =
      (do
        let tour ← tour runner plan (before.registry.view point.kind)
          (point.modifyInterruption fun _ => .fresh)
        return (tour.point, ← conclude runner plan point.kind
          (before.registry.view point.kind).length tour)).run.run (opened before point.kind) := by
  rw [run_dispatch, if_neg (Bool.eq_false_iff.mp hsounds), hstrict, if_neg (by simp)]

/-- A dispatch fails with the error of its visits, or tells listeners and gives its result. -/
theorem run_conclude (runner : Runner) (kind : PointKind) (entries : Nat) (tour : Tour)
    (toured : Engine) :
    (do return (tour.point, ← conclude runner plan kind entries tour) :
        EngineM (Point × Except DispatchError DispatchResult)).run.run toured =
      match tour.error with
      | some error => (.ok (tour.point, .error error), reported plan kind tour toured)
      | none => (answering runner plan kind entries tour).run.run
          (reported plan kind tour toured) := by
  have hreported : Runs (reportTour plan kind tour) toured () (reported plan kind tour toured) :=
    runs_reportTour.mpr rfl
  rw [conclude, bind_assoc, hreported.run_then]
  cases tour.error with
  | some error => rfl
  | none => simp only [answering, bind_assoc, pure_bind]

/-- Listeners that give no command let both give their results. -/
theorem exists_runs_answering {kind : PointKind} {tour counterpart : Tour}
    (hquiet : ∀ listener ∈ audience plan kind first, listener.reaction = none)
    (hpoint : tour.point = counterpart.point) (halike : Alike first aside before other)
    (entries others : Nat) :
    ∃ after ended, Alike first aside after ended ∧
      Runs (answering powers.runner plan kind entries tour) before
        (tour.point, .ok (tour.result kind)) after ∧
      Runs (answering powers.runner plan kind others counterpart) other
        (tour.point, .ok (counterpart.result kind)) ended := by
  obtain ⟨started, -, hsame⟩ := run_notifyOf powers.runner plan kind tour.point before
  rw [audience_eq halike] at hsame
  obtain ⟨told, htold⟩ := exists_runs_tellAll hquiet tour.point started
  have hnotified : Runs (notifyOf powers.runner plan kind tour.point) before () told :=
    hsame.trans htold
  have hrun : Runs (answering powers.runner plan kind entries tour) before
      (tour.point, .ok (tour.result kind)) _ :=
    hnotified.bind (runs_log_then.mpr (runs_pure.mpr ⟨rfl, rfl⟩))
  have hboth : Lockstep (Alike first aside)
      (fun _ answer => answer = (tour.point, .ok (counterpart.result kind)))
      (answering powers.runner plan kind entries tour)
      (answering powers.runner plan kind others counterpart) := by
    rw [answering, answering, ← hpoint]
    apply (lockstep_notifyOf hquiet tour.point).bind_eq
    intro _
    exact (lockstep_log _ _).bind_eq fun _ => lockstep_pure rfl
  obtain ⟨answer, ended, hother, rfl, hended⟩ := hboth.exists_runs halike hrun
  exact ⟨_, ended, hended, hrun, hother⟩

/-- Dispatches whose visits go alike go alike. -/
theorem parallel_of_abreast {registry : Registry Behaviour} {early : List Visit} {extra : Visit}
    (hsounds : before.isSilenced = false) (hstrict : plan.flags.strict = false)
    (hboth : Abreast (Alike before aside)
      (fun tour counterpart => tour.Extends counterpart early extra)
      ((tour powers.runner plan (before.registry.view point.kind)
        (point.modifyInterruption fun _ => .fresh)).run.run (opened before point.kind))
      ((tour powers.runner plan (registry.view point.kind)
        (point.modifyInterruption fun _ => .fresh)).run.run
          (opened { before with registry } point.kind))) :
    Parallel powers.runner plan point before { before with registry } (Alike before aside) early
      extra := by
  have hrun := run_dispatch_of_sounds powers.runner point before hsounds hstrict
  have hother := run_dispatch_of_sounds powers.runner point { before with registry } hsounds hstrict
  rw [run_bind] at hrun hother
  dsimp only at hother
  -- From here on only the outcomes of the two tours matter, no longer how they come about.
  generalize (tour powers.runner plan (before.registry.view point.kind)
    (point.modifyInterruption fun _ => .fresh)).run.run (opened before point.kind) = toured,
    (tour powers.runner plan (registry.view point.kind)
      (point.modifyInterruption fun _ => .fresh)).run.run
        (opened { before with registry } point.kind) = othertoured at hboth hrun hother
  cases hboth with
  | stops halike => exact .stops halike hrun hother
  | @ends tour counterpart toured another hextends halike =>
      have hreported : Alike before aside (reported plan point.kind tour toured)
          (reported plan point.kind counterpart another) :=
        halike.diagnosed (diagnosed_reported plan point.kind tour toured)
          (diagnosed_reported plan point.kind counterpart another)
      dsimp only at hrun hother
      rw [run_conclude] at hrun hother
      rw [← hextends.error] at hother
      cases herror : tour.error with
      | some error =>
          rw [herror] at hrun hother
          rw [← hextends.point] at hother
          exact .fails hextends hreported hrun hother
      | none =>
          rw [herror] at hrun hother
          have haudience := audience_eq hreported plan point.kind
          have hsame := hreported.view_eq (audience plan point.kind) fun _ => rfl
          refine .answers hextends hreported hrun hother ⟨haudience, hsame.symm.trans haudience⟩ ?_
          intro hquiet
          obtain ⟨after, ended, hended, hafter, hanswer⟩ :=
            exists_runs_answering hquiet hextends.point hreported _ _
          exact ⟨after, ended, hended, hrun.trans hafter, hother.trans hanswer⟩

/-! ## Transparency -/

/-- A run of a call that has a copy to start from runs the handler on the payload. -/
theorem run_of_copy? (powers : Powers) {call : QueuedCall Behaviour}
    (hcopy : call.copy? = some call.payload) :
    call.run powers = do return (← call.handler.run powers call.payload).2 := by
  rw [QueuedCall.run, hcopy]

/-- However often the call is run, every run starts from the payload. -/
theorem runs_of_copy? (powers : Powers) {call : QueuedCall Behaviour}
    (hcopy : call.copy? = some call.payload) (times : Nat) :
    call.runs powers times = (List.replicate times call.payload).mapM fun payload => do
      return (← call.handler.run powers payload).2 := by
  induction times with
  | zero => rfl
  | succ times ih =>
      rw [QueuedCall.runs, List.replicate_succ, List.mapM_cons, run_of_copy? powers hcopy, ih]

/-- The dispatch gets to an entry by visits that it survives, and hands it to the queue. -/
structure HandsOver (runner : Runner) (plan : DispatchPlan) (point : Point) (before : Engine)
    (legs : List Leg) (leg : Leg) (rest : List (Entry Behaviour)) : Prop where
  sounds : before.isSilenced = false
  view : before.registry.view point.kind = legs.map Leg.entry ++ leg.entry :: rest
  trail : Trail runner plan (opened before point.kind) (point.modifyInterruption fun _ => .fresh)
    legs leg.before leg.arrived
  proceeds : ∀ leg ∈ legs, leg.Proceeds plan
  happens : leg.Happens runner
  met : leg.met = .skipped .queued

/-- A dispatch survives the visits that are followed by another. -/
theorem Ends.proceeds_of_append {entries : List (Entry Behaviour)} {leg : Leg} {later : List Leg}
    {tour : Tour} (hends : Ends plan entries (legs ++ leg :: later) tour) :
    ∀ early ∈ legs, early.Proceeds plan := by
  have hstarts {visited : List Leg} {last : Leg}
      (hlegs : visited ++ [last] = legs ++ leg :: later) : legs ⊆ visited := by
    have hstart : legs <+: visited ++ [last] := ⟨leg :: later, hlegs.symm⟩
    rcases List.prefix_concat_iff.mp hstart with hall | hvisited
    · rw [← hall] at hlegs
      exact absurd (List.self_eq_append_right.mp hlegs) (List.cons_ne_nil leg later)
    · exact hvisited.subset
  generalize hlegs : legs ++ leg :: later = visited at hends
  intro early hmem
  cases hends with
  | finishes _ hearly => exact hearly early (hlegs ▸ List.mem_append_left _ hmem)
  | stops hearly _ | aborts hearly _ => exact hearly early (hstarts hlegs.symm hmem)

/-- Whatever follows, a dispatch that hands an entry to the queue got to it like this. -/
theorem exists_handsOver {leg : Leg} {later : List Leg} {tour : Tour}
    (hsounds : before.isSilenced = false)
    (hjourney : Journey runner plan (before.registry.view point.kind) (opened before point.kind)
      (point.modifyInterruption fun _ => .fresh) (legs ++ leg :: later) tour after)
    (hmet : leg.met = .skipped .queued) :
    ∃ rest, HandsOver runner plan point before legs leg rest := by
  obtain ⟨unvisited, hview⟩ := hjourney.entries_isPrefix
  obtain ⟨middle, given, hearly, hothers⟩ := hjourney.trail.split
  cases hothers with
  | visit hhappens hlater =>
      refine ⟨later.map Leg.entry ++ unvisited, hsounds, ?_, hearly,
        hjourney.ends.proceeds_of_append, hhappens, hmet⟩
      rw [← hview, List.map_append, List.map_cons, List.append_assoc, List.cons_append]

end

/-- In a dispatch that needs no entries, whose queue collects the calls and whose handlers use no
engine, an entry that is handed to the queue makes no difference: without this entry the dispatch
goes alike, up to the record of the hand-over at its place and the one call, whatever the handler of
the entry does, so that results differ by one skipped handler and timelines by one entry.  The
payload of the call is the point as the visits before the entry left it, and every run of the call
is a run of the handler on it.  A dispatch that comes to its end and has queued an entry on its way
got to it in the way that is told here. -/
theorem queued_entries_are_transparent {powers : Powers} {plan : DispatchPlan} {point : Point}
    {before : Engine} (hcommanded : before.registry.Commanded)
    (hlink : before.queueLink = .memory) (hstrict : plan.flags.strict = false) :
    (∀ {legs : List Leg} {leg : Leg} {rest : List (Entry Behaviour)} {queuePlan : QueuePlan},
      (∀ entry ∈ legs.map Leg.entry ++ rest, entry.Sober before.sources) →
      leg.entry.queue = some queuePlan →
      HandsOver powers.runner plan point before legs leg rest →
      ∃ handler call, leg.entry.handler = .live handler ∧
        call = callOf leg.before.settings handler queuePlan leg.arrived ∧
        Parallel powers.runner plan point before
          { before with registry := before.registry.without leg.entry }
          (Alike before (OneMore leg.before.memory.calls call))
          (legs.map Leg.record) ⟨leg.entry.id, .skipped .queued⟩ ∧
        (∀ {tour counterpart : Tour},
          tour.Extends counterpart (legs.map Leg.record) ⟨leg.entry.id, .skipped .queued⟩ →
          tour.SkipsOneMore counterpart point.kind legs.length leg.entry.id .queued) ∧
        ∀ (other : Powers) (times : Nat),
          call.run other = (do return (← handler.run other leg.arrived).2) ∧
          call.runs other times = (List.replicate times leg.arrived).mapM fun payload => do
            return (← handler.run other payload).2) ∧
    ∀ {legs : List Leg} {leg : Leg} {later : List Leg} {tour : Tour} {after : Engine},
      before.isSilenced = false →
      Journey powers.runner plan (before.registry.view point.kind) (opened before point.kind)
        (point.modifyInterruption fun _ => .fresh) (legs ++ leg :: later) tour after →
      leg.met = .skipped .queued →
      ∃ rest, HandsOver powers.runner plan point before legs leg rest := by
  refine ⟨?transparent, exists_handsOver⟩
  case transparent =>
    intro legs leg rest queuePlan hsober hqueue hhanded
    have hmem : leg.entry ∈ before.registry.view point.kind := by
      rw [hhanded.view]
      exact List.mem_append_right _ List.mem_cons_self
    obtain ⟨handler, hlive⟩ := hcommanded.exists_live hmem (Option.isSome_of_eq_some hqueue)
    obtain ⟨ledger, hmirrors, -⟩ := hcommanded.exists_ledger
    have hrecord : leg.record = ⟨leg.entry.id, .skipped .queued⟩ := by
      rw [Leg.record, hhanded.met]
      rfl
    have htours := abreast_tours
      (alike_opened before (before.registry.without leg.entry) point.kind) hlink hsober
      hhanded.trail hhanded.proceeds hhanded.happens hlive hqueue hhanded.met
    rw [← hhanded.view, ← hmirrors.view_without hhanded.view, hrecord] at htours
    have hkind : leg.arrived.kind = point.kind :=
      (hhanded.trail.kind_eq powers.runner_keepsKinds).trans (kind_modifyInterruption point _)
    have hcopies : queuePlan.copies = point.kind :=
      (hcommanded.built.fits_of_mem_view hmem).copies queuePlan hqueue
    have hcopy : (callOf leg.before.settings handler queuePlan leg.arrived).copy? =
        some leg.arrived := if_pos (hkind.trans hcopies.symm)
    refine ⟨handler, _, hlive, rfl, parallel_of_abreast hhanded.sounds hstrict htours, ?_, ?_⟩
    · intro tour counterpart hextends
      have hskips := hextends.skipsOneMore point.kind
      rwa [List.length_map] at hskips
    · intro other times
      exact ⟨run_of_copy? other hcopy, runs_of_copy? other hcopy times⟩

namespace Sample

/-- The first handler notes its visit, the second, which is queued, would panic, and the third
vetoes. -/
def stock : Registration Behaviour :=
  let react (body : PointBody) := Behaviour.finish { body with log := ["stock"] } (.ok .null)
  .live { id := "stock", accepts := kind, react, serial := 0 } 0

def mail : Registration Behaviour :=
  let react (_ : PointBody) := Behaviour.panic "lost"
  (Registration.live { id := "mail", accepts := kind, react, serial := 1 } 1).queued .standard

def fraud : Registration Behaviour := .live (handler "fraud" (.ok (.bool false))) 2

def handing : Engine :=
  { Engine.new .standard 0 with
    registry := (((Registry.empty.perform (.register stock)).2.perform (.register mail)).2.perform
      (.register fraud)).2
    listeners := Bus.performAll [] [.subscribe ⟨kind, "audit", none⟩] }

/-- Errors make the dispatch fail, and a timeline is kept. -/
def lax : DispatchPlan := ⟨⟨false, false, true⟩, true, none⟩

def noting : Leg :=
  let start := opened handing kind
  { entry := stock.toEntry 1
    arrived := .blank kind
    before := start
    met := .ran (.ok .null)
    left := ⟨kind, ⟨["stock"], [], .fresh⟩⟩
    reached := ((encounter runner (stock.toEntry 1) (.blank kind)).run.run start).2 }

def queueing : Leg :=
  { entry := mail.toEntry 2
    arrived := noting.left
    before := noting.after lax
    met := .skipped .queued
    left := noting.left
    reached := ((encounter runner (mail.toEntry 2) noting.left).run.run (noting.after lax)).2 }

theorem commanded_handing : handing.registry.Commanded := by
  have hregister (code : HandlerCode Behaviour) (priority : Int) (serial : Nat) :
      (RegistryCommand.register code priority).operation? serial =
        some (.register (.live { code with serial } priority)) := rfl
  have hqueue (code : HandlerCode Behaviour) (priority : Int) (serial : Nat)
      (options : QueueOptions) :
      (RegistryCommand.registerQueued code priority options).operation? serial =
        some (.register ((Registration.live { code with serial } priority).queued options)) := rfl
  have hstart : (Registry.empty : Registry Behaviour).Commanded := .empty
  exact ((hstart.perform (hregister _ 0 0)).perform (hqueue _ 1 1 .standard)).perform
    (hregister _ 2 0)

/-- The queued entry is visited after the first one. -/
theorem handsOver_queueing :
    HandsOver runner lax (.blank kind) handing [noting] queueing [fraud.toEntry 3] where
  sounds := rfl
  view := rfl
  trail := by
    have hnoting : noting.Happens runner := rfl
    exact .visit hnoting (.here _ _)
  proceeds := List.forall_mem_singleton.mpr rfl
  happens := rfl
  met := rfl

end Sample

/-- The call waits with what the first handler noted, and the veto comes with it and without it. -/
theorem queued_entries_are_transparent_of_sample :
    ∃ handler call,
      call = callOf .standard handler ⟨.standard, Sample.kind⟩ Sample.noting.left ∧
      call.payload.body.log = ["stock"] ∧
      Parallel Sample.runner Sample.lax (.blank Sample.kind) Sample.handing
        { Sample.handing with
          registry := Sample.handing.registry.without (Sample.mail.toEntry 2) }
        (Alike Sample.handing (OneMore [] call)) [⟨"stock", .success .null⟩]
        ⟨"mail", .skipped .queued⟩ := by
  have hsober : ∀ entry ∈ [Sample.noting.entry, Sample.fraud.toEntry 3],
      entry.Sober Sample.handing.sources :=
    List.forall_mem_cons.mpr ⟨fun _ _ => trivial, List.forall_mem_singleton.mpr fun _ _ => trivial⟩
  have hqueue : Sample.queueing.entry.queue = some ⟨.standard, Sample.kind⟩ := rfl
  obtain ⟨htransparent, -⟩ := @queued_entries_are_transparent (.within 1 1 0) Sample.lax
    (.blank Sample.kind) Sample.handing Sample.commanded_handing rfl rfl
  obtain ⟨handler, call, -, hcall, hparallel, -⟩ :=
    htransparent hsober hqueue Sample.handsOver_queueing
  refine ⟨handler, call, hcall, ?_, hparallel⟩
  rw [hcall]
  rfl

end Dispatch
end Plugboard
