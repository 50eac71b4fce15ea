import Plugboard.Proofs.Dispatch.Encounter
import Plugboard.Engine.Run

/-!
# The visits of a dispatch

A dispatch is told as a list of legs, one for each entry that it visits.  A leg keeps the
engine and the point that a visit started from and what it made of them, so that claims
about a dispatch become claims about consecutive legs.  What a leg meets does not depend on
the plan of the dispatch; what follows from it does.
-/

namespace Plugboard.Dispatch

open Engine

/-- One visit: what it started from, what it met, and what it left before anything was
logged of the verdict. -/
structure Leg where
  entry : Entry Behaviour
  arrived : Point
  before : Engine
  met : Encounter
  left : Point
  reached : Engine

namespace Leg

def Happens (runner : Runner) (leg : Leg) : Prop :=
  Runs (encounter runner leg.entry leg.arrived) leg.before (leg.met, leg.left) leg.reached

def step (plan : DispatchPlan) (leg : Leg) : VisitStep :=
  verdict plan leg.entry.id leg.met leg.left

def record (leg : Leg) : Visit := ⟨leg.entry.id, leg.met.outcome⟩

/-- The dispatch goes on after the visit. -/
def Proceeds (plan : DispatchPlan) (leg : Leg) : Prop := leg.step plan = .proceed leg.record

def after (plan : DispatchPlan) (leg : Leg) : Engine :=
  leg.reached.recordAll (verdictEvents plan leg.entry.id leg.met leg.left)

/-- Two plans take the visit the same way. -/
def Agrees (plan other : DispatchPlan) (leg : Leg) : Prop :=
  leg.step plan = leg.step other ∧ leg.after plan = leg.after other

end Leg

section

variable {runner : Runner} {plan : DispatchPlan} {entry : Entry Behaviour}
  {entries : List (Entry Behaviour)} {point left : Point} {before after : Engine}
  {legs : List Leg} {tour : Tour}

/-! ## Single visits -/

/-- What a visit meets is one of the encounters told. -/
theorem Leg.Happens.meets {leg : Leg} (hhappens : leg.Happens runner) :
    Meets runner leg.entry leg.arrived leg.before leg.met leg.left leg.reached :=
  meets_of_runs hhappens

theorem Leg.Happens.runs {leg : Leg} (hhappens : leg.Happens runner) (plan : DispatchPlan) :
    Runs (visit runner plan leg.entry leg.arrived) leg.before (leg.step plan, leg.left)
      (leg.after plan) := by
  apply Runs.bind hhappens
  rw [runs_logAll_then, runs_pure]
  exact ⟨rfl, rfl⟩

/-- Whatever comes of a visit, it took place as told. -/
theorem exists_leg {step : VisitStep}
    (hrun : Runs (visit runner plan entry point) before (step, left) after) :
    ∃ leg : Leg, leg.Happens runner ∧ leg.entry = entry ∧ leg.arrived = point ∧
      leg.before = before ∧ leg.step plan = step ∧ leg.left = left ∧ leg.after plan = after := by
  obtain ⟨⟨met, given⟩, reached, hencounter, hrun⟩ := runs_bind.mp hrun
  rw [runs_logAll_then, runs_pure] at hrun
  obtain ⟨hpair, rfl⟩ := hrun
  obtain ⟨rfl, rfl⟩ := Prod.mk.inj hpair
  exact ⟨⟨entry, point, before, met, left, reached⟩, hencounter, rfl, rfl, rfl, rfl, rfl, rfl⟩

/-! ## Consecutive visits -/

/-- Visits of which each starts from what the one before it left. -/
inductive Trail (runner : Runner) (plan : DispatchPlan) :
    Engine → Point → List Leg → Engine → Point → Prop where
  | here (engine : Engine) (point : Point) : Trail runner plan engine point [] engine point
  | visit {leg : Leg} {legs : List Leg} {engine : Engine} {point : Point}
      (hhappens : leg.Happens runner)
      (hrest : Trail runner plan (leg.after plan) leg.left legs engine point) :
      Trail runner plan leg.before leg.arrived (leg :: legs) engine point

/-- All visits of a tour, and what the tour comes to. -/
inductive Journey (runner : Runner) (plan : DispatchPlan) :
    List (Entry Behaviour) → Engine → Point → List Leg → Tour → Engine → Prop where
  | finishes (engine : Engine) (point : Point) :
      Journey runner plan [] engine point [] (.still point) engine
  | proceeds {leg : Leg} {rest : List (Entry Behaviour)} {legs : List Leg} {record : Visit}
      {tour : Tour} {engine : Engine} (hhappens : leg.Happens runner)
      (hstep : leg.step plan = .proceed record)
      (hrest : Journey runner plan rest (leg.after plan) leg.left legs tour engine) :
      Journey runner plan (leg.entry :: rest) leg.before leg.arrived (leg :: legs)
        (tour.after record) engine
  | stops {leg : Leg} {record : Visit} {interruptedBy : Option HandlerId}
      (rest : List (Entry Behaviour)) (hhappens : leg.Happens runner)
      (hstep : leg.step plan = .stop record interruptedBy) :
      Journey runner plan (leg.entry :: rest) leg.before leg.arrived [leg]
        ⟨[record], interruptedBy, none, leg.left⟩ (leg.after plan)
  | aborts {leg : Leg} {record : Option Visit} {error : DispatchError}
      (rest : List (Entry Behaviour)) (hhappens : leg.Happens runner)
      (hstep : leg.step plan = .abort record error) :
      Journey runner plan (leg.entry :: rest) leg.before leg.arrived [leg]
        ⟨record.toList, none, some error, leg.left⟩ (leg.after plan)

/-- A journey is a run of its tour. -/
theorem Journey.runs (hjourney : Journey runner plan entries before point legs tour after) :
    Runs (Dispatch.tour runner plan entries point) before tour after := by
  induction hjourney with
  | finishes engine point => exact runs_pure.mpr ⟨rfl, rfl⟩
  | proceeds hhappens hstep hrest ih =>
      apply (hhappens.runs plan).bind
      simp only [hstep]
      apply ih.bind
      exact runs_pure.mpr ⟨rfl, rfl⟩
  | stops rest hhappens hstep =>
      apply (hhappens.runs plan).bind
      simp only [hstep]
      exact runs_pure.mpr ⟨rfl, rfl⟩
  | aborts rest hhappens hstep =>
      apply (hhappens.runs plan).bind
      simp only [hstep]
      exact runs_pure.mpr ⟨rfl, rfl⟩

/-- Every tour is a journey. -/
theorem exists_journey (hrun : Runs (Dispatch.tour runner plan entries point) before tour after) :
    ∃ legs, Journey runner plan entries before point legs tour after := by
  induction entries generalizing before point tour with
  | nil =>
      obtain ⟨rfl, rfl⟩ := runs_pure.mp hrun
      exact ⟨[], .finishes _ _⟩
  | cons entry rest ih =>
      obtain ⟨⟨step, left⟩, middle, hvisit, hrun⟩ := runs_bind.mp hrun
      obtain ⟨leg, hhappens, rfl, rfl, rfl, rfl, rfl, rfl⟩ := exists_leg hvisit
      cases hstep : leg.step plan with
      | proceed record =>
          simp only [hstep] at hrun
          obtain ⟨later, ended, hrest, hrun⟩ := runs_bind.mp hrun
          obtain ⟨rfl, rfl⟩ := runs_pure.mp hrun
          obtain ⟨legs, hjourney⟩ := ih hrest
          exact ⟨leg :: legs, .proceeds hhappens hstep hjourney⟩
      | stop record interruptedBy =>
          simp only [hstep] at hrun
          obtain ⟨rfl, rfl⟩ := runs_pure.mp hrun
          exact ⟨[leg], .stops rest hhappens hstep⟩
      | abort record error =>
          simp only [hstep] at hrun
          obtain ⟨rfl, rfl⟩ := runs_pure.mp hrun
          exact ⟨[leg], .aborts rest hhappens hstep⟩

/-- How the visits along the entries end, and what the tour comes to by it. -/
inductive Ends (plan : DispatchPlan) (entries : List (Entry Behaviour)) :
    List Leg → Tour → Prop where
  | finishes {legs : List Leg} {point : Point} (hentries : legs.map Leg.entry = entries)
      (hearly : ∀ leg ∈ legs, leg.Proceeds plan) :
      Ends plan entries legs ⟨legs.map Leg.record, none, none, point⟩
  | stops {early : List Leg} {last : Leg} {interruptedBy : Option HandlerId}
      (hearly : ∀ leg ∈ early, leg.Proceeds plan)
      (hstep : last.step plan = .stop last.record interruptedBy) :
      Ends plan entries (early ++ [last])
        ⟨(early ++ [last]).map Leg.record, interruptedBy, none, last.left⟩
  | aborts {early : List Leg} {last : Leg} {record : Option Visit} {error : DispatchError}
      (hearly : ∀ leg ∈ early, leg.Proceeds plan) (hstep : last.step plan = .abort record error) :
      Ends plan entries (early ++ [last])
        ⟨early.map Leg.record ++ record.toList, none, some error, last.left⟩

/-- A visit that the dispatch survives goes in front. -/
theorem Ends.cons {leg : Leg} (hproceeds : leg.Proceeds plan) (hends : Ends plan entries legs tour) :
    Ends plan (leg.entry :: entries) (leg :: legs) (tour.after leg.record) := by
  have hcons : ∀ {early : List Leg}, (∀ leg ∈ early, leg.Proceeds plan) →
      ∀ other ∈ leg :: early, other.Proceeds plan := by
    intro early hearly other hother
    rcases List.mem_cons.mp hother with rfl | hmem
    · exact hproceeds
    · exact hearly other hmem
  cases hends with
  | finishes hentries hearly => exact .finishes (congrArg (leg.entry :: ·) hentries) (hcons hearly)
  | stops hearly hstep => exact .stops (hcons hearly) hstep
  | aborts hearly hstep => exact .aborts (hcons hearly) hstep

namespace Journey

/-- A journey ends where its entries do, or with a visit that ends it. -/
theorem ends (hjourney : Journey runner plan entries before point legs tour after) :
    Ends plan entries legs tour := by
  have hnone : ∀ leg ∈ ([] : List Leg), leg.Proceeds plan := by
    intro leg hleg
    cases hleg
  induction hjourney with
  | finishes engine point => exact .finishes rfl hnone
  | proceeds hhappens hstep hrest ih =>
      obtain ⟨rfl, -⟩ := of_verdict_proceed hstep
      exact ih.cons hstep
  | stops rest hhappens hstep =>
      obtain ⟨rfl, -, -⟩ := of_verdict_stop hstep
      exact .stops hnone hstep
  | aborts rest hhappens hstep => exact .aborts hnone hstep

/-- A journey that does not fail records its visits, each once and in their order. -/
theorem visits_eq (hjourney : Journey runner plan entries before point legs tour after)
    (herror : tour.error = none) : tour.visits = legs.map Leg.record := by
  cases hjourney.ends with
  | finishes hentries hearly => rfl
  | stops hearly hstep => rfl
  | aborts hearly hstep => cases herror

/-- The visits of a journey follow one another. -/
theorem trail (hjourney : Journey runner plan entries before point legs tour after) :
    Trail runner plan before point legs after tour.point := by
  induction hjourney with
  | finishes engine point => exact .here engine point
  | proceeds hhappens hstep hrest ih => exact .visit hhappens ih
  | stops rest hhappens hstep => exact .visit hhappens (.here _ _)
  | aborts rest hhappens hstep => exact .visit hhappens (.here _ _)

/-- The entries are visited in their order, from the first on. -/
theorem entries_isPrefix (hjourney : Journey runner plan entries before point legs tour after) :
    legs.map Leg.entry <+: entries := by
  induction hjourney with
  | finishes engine point => exact List.nil_prefix
  | proceeds hhappens hstep hrest ih => exact List.cons_prefix_cons.mpr ⟨rfl, ih⟩
  | stops rest hhappens hstep => exact ⟨rest, rfl⟩
  | aborts rest hhappens hstep => exact ⟨rest, rfl⟩

/-- Plans that take all visits the same way make the same journey. -/
theorem of_agrees {other : DispatchPlan}
    (hjourney : Journey runner plan entries before point legs tour after)
    (hagrees : ∀ leg ∈ legs, leg.Agrees plan other) :
    Journey runner other entries before point legs tour after := by
  induction hjourney with
  | finishes engine point => exact .finishes engine point
  | @proceeds leg rest legs record tour engine hhappens hstep hrest ih =>
      obtain ⟨hsame, hafter⟩ := hagrees leg List.mem_cons_self
      have hlater := ih fun later hleg => hagrees later (List.mem_cons_of_mem _ hleg)
      rw [hafter] at hlater
      exact .proceeds hhappens (hsame.symm.trans hstep) hlater
  | @stops leg record interruptedBy rest hhappens hstep =>
      obtain ⟨hsame, hafter⟩ := hagrees leg List.mem_cons_self
      rw [hafter]
      exact .stops rest hhappens (hsame.symm.trans hstep)
  | @aborts leg record error rest hhappens hstep =>
      obtain ⟨hsame, hafter⟩ := hagrees leg List.mem_cons_self
      rw [hafter]
      exact .aborts rest hhappens (hsame.symm.trans hstep)

/-- Where another plan takes the first visits the same way and ends with the next one, its
journey is the first part of this one. -/
theorem cut {other : DispatchPlan} {early later : List Leg} {last : Leg} {short : Tour}
    (hjourney : Journey runner plan entries before point (early ++ last :: later) tour after)
    (hagrees : ∀ leg ∈ early, leg.Agrees plan other)
    (hlast : ∀ rest, last.Happens runner → Journey runner other (last.entry :: rest) last.before
      last.arrived [last] short (last.after other)) :
    Journey runner other entries before point (early ++ [last])
      { short with visits := early.map Leg.record ++ short.visits } (last.after other) := by
  -- The first visits are the same under both plans, events included, so the induction is over
  -- them and the last visit starts from one engine in both.
  induction early generalizing entries before point tour with
  | nil =>
      cases hjourney with
      | proceeds hhappens _ _ => exact hlast _ hhappens
      | stops rest hhappens _ => exact hlast rest hhappens
      | aborts rest hhappens _ => exact hlast rest hhappens
  | cons leg early ih =>
      obtain ⟨hsame, hafter⟩ := hagrees leg List.mem_cons_self
      -- The list has to be a variable for the cases below to take the journey apart.
      generalize hlegs : leg :: early ++ last :: later = legs at hjourney
      have hmore : ∀ {only : Leg}, leg :: early ++ last :: later ≠ [only] := by
        intro only honly
        exact List.append_ne_nil_of_right_ne_nil early (List.cons_ne_nil last later)
          (List.cons.inj honly).2
      cases hjourney with
      | finishes engine point => cases hlegs
      | @proceeds _ rest _ record _ _ hhappens hstep hrest =>
          obtain ⟨rfl, rfl⟩ := List.cons.inj hlegs
          obtain ⟨rfl, -⟩ := of_verdict_proceed hstep
          have hbehind := ih hrest fun later hleg => hagrees later (List.mem_cons_of_mem _ hleg)
          rw [hafter] at hbehind
          exact .proceeds hhappens (hsame.symm.trans hstep) hbehind
      | stops rest hhappens hstep => exact absurd hlegs hmore
      | aborts rest hhappens hstep => exact absurd hlegs hmore

end Journey

namespace Trail

theorem happens (htrail : Trail runner plan before point legs after left) :
    ∀ leg ∈ legs, leg.Happens runner := by
  induction htrail with
  | here engine point => simp
  | visit hhappens hrest ih =>
      intro leg hleg
      rcases List.mem_cons.mp hleg with rfl | hmem
      · exact hhappens
      · exact ih leg hmem

theorem of_nil (htrail : Trail runner plan before point [] after left) :
    after = before ∧ left = point := by
  cases htrail
  exact ⟨rfl, rfl⟩

/-- A trail leads along its first visits to where the others start. -/
theorem split {early later : List Leg}
    (htrail : Trail runner plan before point (early ++ later) after left) :
    ∃ middle given, Trail runner plan before point early middle given ∧
      Trail runner plan middle given later after left := by
  induction early generalizing before point with
  | nil => exact ⟨before, point, .here before point, htrail⟩
  | cons leg early ih =>
      cases htrail with
      | visit hhappens hrest =>
          obtain ⟨middle, given, hearly, hlater⟩ := ih hrest
          exact ⟨middle, given, .visit hhappens hearly, hlater⟩

/-- A trail that ends with a visit leads up to it first. -/
theorem init {early : List Leg} {last : Leg}
    (htrail : Trail runner plan before point (early ++ [last]) after left) :
    Trail runner plan before point early last.before last.arrived := by
  obtain ⟨middle, given, hearly, hlast⟩ := htrail.split
  cases hlast with
  | visit hhappens hrest => exact hearly

/-- A trail leaves what its last visit left. -/
theorem last {early : List Leg} {last : Leg}
    (htrail : Trail runner plan before point (early ++ [last]) after left) :
    after = last.after plan ∧ left = last.left := by
  obtain ⟨middle, given, -, hlast⟩ := htrail.split
  cases hlast with
  | visit hhappens hrest => exact hrest.of_nil

end Trail

/-! ## Whole dispatches -/

def opened (engine : Engine) (kind : PointKind) : Engine :=
  (engine.record (.log (spanEvent kind))).viewed kind

/-- The engine once the timeline of a tour was reported, if the dispatch keeps one. -/
def reported (plan : DispatchPlan) (kind : PointKind) (tour : Tour) (engine : Engine) : Engine :=
  if plan.flags.debug then
    match engine.sink with
    | .events => engine.record (.timeline (tour.timeline kind))
    | .log => engine.recordAll (tour.timeline kind).events
  else engine

theorem bare_reported (plan : DispatchPlan) (kind : PointKind) (tour : Tour) (engine : Engine) :
    (reported plan kind tour engine).bare = engine.bare := by
  rw [reported]
  split
  · split
    · exact bare_record engine _
    · exact bare_recordAll engine _
  · rfl

/-- Reporting a tour records its timeline, if the dispatch keeps one. -/
theorem runs_reportTour {kind : PointKind} {value : Unit} :
    Runs (reportTour plan kind tour) before value after ↔
      after = reported plan kind tour before := by
  rw [reportTour, reported]
  by_cases hdebug : plan.flags.debug = true
  · rw [if_pos hdebug, if_pos hdebug, report, runs_get_then]
    cases before.sink with
    | events => exact runs_modify
    | log => exact runs_logAll
  · rw [if_neg hdebug, if_neg hdebug]
    simp

/-- A dispatch that keeps a timeline hands it to the sink. -/
theorem runs_report {kind : PointKind} {value : Unit} (hdebug : plan.flags.debug = true) :
    Runs (report (tour.timeline kind)) before value after ↔
      after = reported plan kind tour before := by
  rw [← runs_reportTour, reportTour, if_pos hdebug]

/-- A tour that failed is reported and its error given back. -/
theorem runs_conclude_error {kind : PointKind} {count : Nat} {error : DispatchError}
    {outcome : Except DispatchError DispatchResult} (herror : tour.error = some error) :
    Runs (conclude runner plan kind count tour) before outcome after ↔
      outcome = .error error ∧ after = reported plan kind tour before := by
  rw [conclude, runs_then runs_reportTour, herror]
  exact runs_pure

/-- A tour that did not fail is reported, then the listeners are told. -/
theorem runs_conclude_ok {kind : PointKind} {count : Nat}
    {outcome : Except DispatchError DispatchResult} (herror : tour.error = none) :
    Runs (conclude runner plan kind count tour) before outcome after ↔
      ∃ told, Runs (notifyOf runner plan kind tour.point) (reported plan kind tour before) () told ∧
        outcome = .ok (tour.result kind) ∧
        after = told.record (.log (completionEvent count (tour.result kind))) := by
  rw [conclude, runs_then runs_reportTour, herror]
  dsimp only
  rw [runs_bind]
  simp only [runs_log_then, runs_pure]
  constructor
  · rintro ⟨_, told, hnotify, houtcome⟩
    exact ⟨told, hnotify, houtcome⟩
  · rintro ⟨told, hnotify, houtcome⟩
    exact ⟨(), told, hnotify, houtcome⟩

/-- What a dispatch does: nothing while silenced, nothing but failing where entries are
missing that there have to be, else a journey along the view and what follows it. -/
inductive Dispatched (runner : Runner) (plan : DispatchPlan) (point : Point) (before : Engine) :
    Point → Except DispatchError DispatchResult → Engine → Prop where
  | silenced (hsilenced : before.isSilenced = true) :
      Dispatched runner plan point before point (.ok (.empty point.kind.name))
        ((before.record (.log (spanEvent point.kind))).record
          (.log (event .trace "Dispatcher silenced, skipping" [])))
  | unhandled (hsounds : before.isSilenced = false) (hstrict : plan.flags.strict = true)
      (hempty : before.registry.view point.kind = []) :
      Dispatched runner plan point before point (.error (.unhandled point.kind.name))
        (opened before point.kind)
  | visits {legs : List Leg} {tour : Tour} {toured after : Engine}
      {outcome : Except DispatchError DispatchResult} (hsounds : before.isSilenced = false)
      (hhandled : plan.flags.strict = true → before.registry.view point.kind ≠ [])
      (hjourney : Journey runner plan (before.registry.view point.kind)
        (opened before point.kind) (point.modifyInterruption fun _ => .fresh) legs tour toured)
      (hconclude : Runs (conclude runner plan point.kind
        (before.registry.view point.kind).length tour) toured outcome after) :
      Dispatched runner plan point before tour.point outcome after

theorem dispatched_of_runs {outcome : Except DispatchError DispatchResult}
    (hrun : Runs (dispatch runner plan point) before (left, outcome) after) :
    Dispatched runner plan point before left outcome after := by
  rw [dispatch, runs_log_then, runs_get_then, isSilenced_record] at hrun
  cases hsilenced : before.isSilenced with
  | true =>
      simp only [hsilenced, if_true, runs_log_then, runs_pure, Prod.mk.injEq] at hrun
      obtain ⟨⟨rfl, rfl⟩, rfl⟩ := hrun
      exact .silenced hsilenced
  | false =>
      simp only [hsilenced, Bool.false_eq_true, if_false] at hrun
      obtain ⟨entries, middle, hview, hrun⟩ := runs_bind.mp hrun
      obtain ⟨rfl, rfl⟩ := runs_view.mp hview
      rw [registry_record] at hrun
      cases hstrict : plan.flags.strict && (before.registry.view point.kind).isEmpty with
      | true =>
          simp only [hstrict, if_true, runs_pure, Prod.mk.injEq] at hrun
          obtain ⟨⟨rfl, rfl⟩, rfl⟩ := hrun
          rw [Bool.and_eq_true, List.isEmpty_iff] at hstrict
          exact .unhandled hsilenced hstrict.1 hstrict.2
      | false =>
          simp only [hstrict, Bool.false_eq_true, if_false] at hrun
          obtain ⟨tour, toured, htour, hrun⟩ := runs_bind.mp hrun
          obtain ⟨answer, ended, hconclude, hrun⟩ := runs_bind.mp hrun
          obtain ⟨hpair, rfl⟩ := runs_pure.mp hrun
          obtain ⟨rfl, rfl⟩ := Prod.mk.inj hpair
          obtain ⟨legs, hjourney⟩ := exists_journey htour
          have hhandled : plan.flags.strict = true → before.registry.view point.kind ≠ [] := by
            intro hon hempty
            rw [hon, hempty] at hstrict
            cases hstrict
          exact .visits hsilenced hhandled hjourney hconclude

theorem Dispatched.runs {outcome : Except DispatchError DispatchResult}
    (hdispatched : Dispatched runner plan point before left outcome after) :
    Runs (dispatch runner plan point) before (left, outcome) after := by
  rw [dispatch, runs_log_then, runs_get_then, isSilenced_record]
  cases hdispatched with
  | silenced hsilenced =>
      rw [if_pos hsilenced, runs_log_then, runs_pure]
      exact ⟨rfl, rfl⟩
  | unhandled hsounds hstrict hempty =>
      simp only [hsounds, Bool.false_eq_true, if_false]
      apply Runs.bind (runs_view.mpr ⟨rfl, rfl⟩)
      rw [registry_record, hempty, hstrict]
      exact runs_pure.mpr ⟨rfl, rfl⟩
  | visits hsounds hhandled hjourney hconclude =>
      have hstrict : (plan.flags.strict && (before.registry.view point.kind).isEmpty) = false := by
        rw [Bool.and_eq_false_imp]
        intro hon
        rw [List.isEmpty_eq_false_iff]
        exact hhandled hon
      simp only [hsounds, Bool.false_eq_true, if_false]
      apply Runs.bind (runs_view.mpr ⟨rfl, rfl⟩)
      rw [registry_record]
      simp only [hstrict, Bool.false_eq_true, if_false]
      apply hjourney.runs.bind
      apply hconclude.bind
      exact runs_pure.mpr ⟨rfl, rfl⟩

/-- A dispatch comes out in just the ways that are told. -/
theorem runs_dispatch {outcome : Except DispatchError DispatchResult} :
    Runs (dispatch runner plan point) before (left, outcome) after ↔
      Dispatched runner plan point before left outcome after := by
  constructor
  · exact dispatched_of_runs
  · exact Dispatched.runs

/-- A dispatch that succeeds and is not silenced made a journey and concluded it. -/
theorem exists_concluded_of_ok {result : DispatchResult} (hsounds : before.isSilenced = false)
    (hrun : Runs (dispatch runner plan point) before (left, .ok result) after) :
    ∃ legs tour toured, (plan.flags.strict = true → before.registry.view point.kind ≠ []) ∧
      Journey runner plan (before.registry.view point.kind) (opened before point.kind)
        (point.modifyInterruption fun _ => .fresh) legs tour toured ∧
      tour.error = none ∧ tour.point = left ∧ tour.result point.kind = result ∧
      Runs (conclude runner plan point.kind (before.registry.view point.kind).length tour) toured
        (.ok result) after := by
  cases runs_dispatch.mp hrun with
  | silenced hsilenced =>
      rw [hsounds] at hsilenced
      cases hsilenced
  | @visits legs tour toured _ _ _ hhandled hjourney hconclude =>
      cases herror : tour.error with
      | none =>
          obtain ⟨-, -, hresult, -⟩ := (runs_conclude_ok herror).mp hconclude
          obtain rfl := Except.ok.inj hresult
          exact ⟨legs, tour, toured, hhandled, hjourney, herror, rfl, rfl, hconclude⟩
      | some error =>
          obtain ⟨hresult, -⟩ := (runs_conclude_error herror).mp hconclude
          cases hresult

/-- What lies behind a dispatch that succeeds and is not silenced. -/
theorem exists_journey_of_ok {result : DispatchResult} (hsounds : before.isSilenced = false)
    (hrun : Runs (dispatch runner plan point) before (left, .ok result) after) :
    ∃ legs tour toured told,
      Journey runner plan (before.registry.view point.kind) (opened before point.kind)
        (point.modifyInterruption fun _ => .fresh) legs tour toured ∧
      tour.error = none ∧ tour.point = left ∧ tour.result point.kind = result ∧
      Runs (notifyOf runner plan point.kind left) (reported plan point.kind tour toured) () told ∧
      after = told.record (.log
        (completionEvent (before.registry.view point.kind).length result)) := by
  obtain ⟨legs, tour, toured, -, hjourney, herror, rfl, rfl, hconclude⟩ :=
    exists_concluded_of_ok hsounds hrun
  obtain ⟨told, htold, -, hafter⟩ := (runs_conclude_ok herror).mp hconclude
  exact ⟨legs, tour, toured, told, hjourney, herror, rfl, rfl, htold, hafter⟩

end

/-! ## A small engine -/

namespace Sample

def kind : PointKind := ⟨"order", "Order", .writable⟩

def handler (id : HandlerId) (result : HandlerResult) : Handler Behaviour :=
  { id, accepts := kind, react := fun body => .finish body result, serial := 0 }

/-- The first entry fails, the second vetoes, the third is never reached. -/
def registry : Registry Behaviour :=
  let first := Registration.live (handler "stock" (.error (.text "sold out"))) 0
  let second := Registration.live (handler "fraud" (.ok (.bool false))) 1
  let third := Registration.live (handler "mail" (.ok .null)) 2
  (((Registry.empty.insert first).1.insert second).1.insert third).1

def engine : Engine := { Engine.new .standard 0 with registry }

def runner : Runner := (Powers.within 1 1 0).runner

def plan : DispatchPlan := ⟨⟨true, true, true⟩, true, none⟩

end Sample

end Plugboard.Dispatch
