import Plugboard.Proofs.Dispatch.Journey

/-!
# Vetoes

A handler vetoes by interrupting the point or by answering false.  The dispatch stops right
after the first visit in which that happens, and names whoever came first.  Nothing of this
depends on what the point held before, since every dispatch starts from a fresh one.
-/

namespace Plugboard

namespace Interruption

/-- Of several ids that interrupt a fresh state, the first is kept. -/
theorem foldl_interrupt_fresh (ids : List HandlerId) :
    ids.foldl interrupt .fresh = ⟨ids.head?.isSome, ids.head?⟩ := by
  cases ids with
  | nil => rfl
  | cons first rest =>
      change rest.foldl interrupt ⟨true, some first⟩ = ⟨true, some first⟩
      induction rest with
      | nil => rfl
      | cons second rest ih => exact ih

end Interruption

namespace Dispatch

open Engine

variable {runner : Runner} {plan : DispatchPlan} {entries : List (Entry Behaviour)}
  {point left : Point} {before after : Engine} {leg : Leg} {legs : List Leg}
  {ids : List HandlerId}

/-! ## What a visit interrupts -/

/-- The id that an answer interrupts under. -/
def answerVeto (id : HandlerId) : HandlerResult → List HandlerId
  | .ok value => if value = .bool false then [id] else []
  | .error _ => []

/-- The ids that a visit passes to `interrupt`: those of the handler that it runs, if it
changes the interruption in no other way, and then that of the entry if the answer is
false. -/
inductive Leg.Interrupts (runner : Runner) (leg : Leg) : List HandlerId → Prop where
  | ran {handler : Handler Behaviour} {started ended : Engine} {touched : Point}
      {outcome : HandlerResult} {ids : List HandlerId}
      (hinvokes : Invokes runner leg.entry leg.arrived leg.before handler started touched outcome
        ended)
      (hkind : touched.kind = leg.arrived.kind)
      (hids : touched.body.interruption =
        ids.foldl Interruption.interrupt leg.arrived.body.interruption) :
      Interrupts runner leg (ids ++ answerVeto leg.entry.id outcome)
  | idle (hidle : ∀ handler started touched outcome ended,
        ¬ Invokes runner leg.entry leg.arrived leg.before handler started touched outcome ended) :
      Interrupts runner leg []

theorem kind_modifyInterruption (point : Point) (change : Interruption → Interruption) :
    (point.modifyInterruption change).kind = point.kind := by
  rw [Point.modifyInterruption]
  split <;> rfl

theorem interruption_modifyInterruption (change : Interruption → Interruption)
    (hwritable : point.kind.access = .writable) :
    (point.modifyInterruption change).body.interruption = change point.body.interruption := by
  rw [Point.modifyInterruption, hwritable]

theorem kind_vetoed (kind : PointKind) (id : HandlerId) (outcome : HandlerResult) (point : Point) :
    (vetoed kind id outcome point).kind = point.kind := by
  cases outcome with
  | error failure => rfl
  | ok value =>
      rw [vetoed]
      split
      · exact kind_modifyInterruption point _
      · rfl

/-- An answer leaves the interruption as the ids that it interrupts under decide. -/
theorem interruption_vetoed (id : HandlerId) (outcome : HandlerResult)
    (hwritable : point.kind.access = .writable) :
    (vetoed point.kind id outcome point).body.interruption =
      (answerVeto id outcome).foldl Interruption.interrupt point.body.interruption := by
  cases outcome with
  | error failure => rfl
  | ok value =>
      rw [vetoed, answerVeto, hwritable]
      by_cases hfalse : value = .bool false
      · rw [hfalse]
        exact interruption_modifyInterruption _ hwritable
      · have hanswer : (value == Value.bool false) = false := beq_false_of_ne hfalse
        simp only [hanswer, Bool.and_false, Bool.false_eq_true, if_false, if_neg hfalse]
        rfl

/-- Who interrupted a point whose interruption can be written. -/
theorem interrupter?_of_writable (hwritable : point.kind.access = .writable) :
    point.interrupter? = point.body.interruption.interruptedBy := by
  rw [Point.interrupter?, Point.interruption?, hwritable]
  rfl

theorem interrupter?_of_hidden (hhidden : point.kind.access = .hidden) :
    point.interrupter? = none := by
  rw [Point.interrupter?, Point.interruption?, hhidden]
  rfl

namespace Leg

/-- A visit that runs nothing leaves the point as it was. -/
theorem left_eq_of_idle (hhappens : leg.Happens runner)
    (hidle : ∀ handler started touched outcome ended,
      ¬ Invokes runner leg.entry leg.arrived leg.before handler started touched outcome ended) :
    (∀ outcome, leg.met ≠ .ran outcome) ∧ leg.left = leg.arrived := by
  have hmet : ∀ outcome, leg.met ≠ .ran outcome := by
    intro outcome hmet
    have hmeets := hhappens.meets
    rw [hmet] at hmeets
    obtain ⟨handler, started, touched, ended, hinvokes, -, -⟩ := hmeets.invokes
    exact hidle _ _ _ _ _ hinvokes
  exact ⟨hmet, hhappens.meets.left_eq hmet⟩

namespace Interrupts

theorem kind_left (hids : leg.Interrupts runner ids) (hhappens : leg.Happens runner) :
    leg.left.kind = leg.arrived.kind := by
  cases hids with
  | ran hinvokes hkind hids =>
      rw [(hhappens.meets.of_invokes hinvokes).2, kind_vetoed, hkind]
  | idle hidle => rw [(left_eq_of_idle hhappens hidle).2]

/-- A visit changes the interruption by interrupting under its ids. -/
theorem interruption_left (hids : leg.Interrupts runner ids) (hhappens : leg.Happens runner)
    (hwritable : leg.arrived.kind.access = .writable) :
    leg.left.body.interruption =
      ids.foldl Interruption.interrupt leg.arrived.body.interruption := by
  cases hids with
  | @ran handler started ended touched outcome own hinvokes hkind hown =>
      have hleft := (hhappens.meets.of_invokes hinvokes).2
      rw [← hkind] at hleft hwritable
      rw [hleft, interruption_vetoed _ _ hwritable, hown, List.foldl_append]
  | idle hidle =>
      rw [(left_eq_of_idle hhappens hidle).2]
      rfl

/-- A visit that runs nothing interrupts nothing. -/
theorem eq_nil (hids : leg.Interrupts runner ids) (hhappens : leg.Happens runner)
    (hmet : ∀ outcome, leg.met ≠ .ran outcome) : ids = [] := by
  cases hids with
  | ran hinvokes hkind hown =>
      exact absurd (hhappens.meets.of_invokes hinvokes).1 (hmet _)
  | idle hidle => rfl

/-- After a visit from a fresh state, the point names the first id that was passed. -/
theorem interrupter?_left (hids : leg.Interrupts runner ids) (hhappens : leg.Happens runner)
    (hwritable : leg.arrived.kind.access = .writable)
    (hfresh : leg.arrived.body.interruption = .fresh) : leg.left.interrupter? = ids.head? := by
  have hleft : leg.left.kind.access = .writable := by
    rw [hids.kind_left hhappens]
    exact hwritable
  rw [interrupter?_of_writable hleft, hids.interruption_left hhappens hwritable, hfresh,
    Interruption.foldl_interrupt_fresh]

/-- The dispatch goes on only after a visit that vetoed nothing. -/
theorem eq_nil_of_proceeds (hids : leg.Interrupts runner ids) (hhappens : leg.Happens runner)
    (hwritable : leg.arrived.kind.access = .writable)
    (hfresh : leg.arrived.body.interruption = .fresh) (hproceeds : leg.Proceeds plan) :
    ids = [] := by
  by_cases hran : ∃ outcome, leg.met = .ran outcome
  · obtain ⟨outcome, hmet⟩ := hran
    obtain ⟨hinterrupter, -⟩ := (of_verdict_proceed hproceeds).2 outcome hmet
    rw [hids.interrupter?_left hhappens hwritable hfresh] at hinterrupter
    exact List.head?_eq_none_iff.mp hinterrupter
  · exact hids.eq_nil hhappens fun outcome hmet => hran ⟨outcome, hmet⟩

end Interrupts

end Leg

/-! ## What a dispatch makes of it -/

/-- As long as the dispatch goes on, the point stays fresh and nobody vetoes. -/
theorem Trail.stays_fresh {calls : Leg → List HandlerId}
    (htrail : Trail runner plan before point legs after left)
    (hproceeds : ∀ leg ∈ legs, leg.Proceeds plan)
    (hcalls : ∀ leg ∈ legs, leg.Interrupts runner (calls leg))
    (hwritable : point.kind.access = .writable) (hfresh : point.body.interruption = .fresh) :
    left.kind = point.kind ∧ left.body.interruption = .fresh ∧ ∀ leg ∈ legs, calls leg = [] := by
  induction htrail with
  | here engine point => exact ⟨rfl, hfresh, by simp⟩
  | @visit leg legs engine point hhappens hrest ih =>
      have hleg : leg ∈ leg :: legs := List.mem_cons_self
      have hids := hcalls leg hleg
      have hkind := hids.kind_left hhappens
      have hnil := hids.eq_nil_of_proceeds hhappens hwritable hfresh (hproceeds leg hleg)
      have hleft := hids.interruption_left hhappens hwritable
      -- Nobody was passed to the fresh state, so the next visit starts from it as well.
      rw [hnil, hfresh] at hleft
      obtain ⟨hkinds, hlast, hquiet⟩ := ih
        (fun other hother => hproceeds other (List.mem_cons_of_mem _ hother))
        (fun other hother => hcalls other (List.mem_cons_of_mem _ hother))
        (by rw [hkind]; exact hwritable) hleft
      have hnobody : ∀ other ∈ leg :: legs, calls other = [] := by
        intro other hother
        rcases List.mem_cons.mp hother with rfl | hmem
        · exact hnil
        · exact hquiet other hmem
      exact ⟨hkinds.trans hkind, hlast, hnobody⟩

theorem Trail.kind_left {calls : Leg → List HandlerId}
    (htrail : Trail runner plan before point legs after left)
    (hcalls : ∀ leg ∈ legs, leg.Interrupts runner (calls leg)) : left.kind = point.kind := by
  induction htrail with
  | here engine point => rfl
  | @visit leg legs engine point hhappens hrest ih =>
      have hkind := (hcalls leg List.mem_cons_self).kind_left hhappens
      have hkinds := ih fun other hother => hcalls other (List.mem_cons_of_mem _ hother)
      exact hkinds.trans hkind

/-- What the ids that a dispatch's visits passed to `interrupt` decide. -/
structure VetoDecides (view : List (Entry Behaviour)) (legs : List Leg)
    (calls : Leg → List HandlerId) (left : Point) (result : DispatchResult) : Prop where
  /-- No visit but the last vetoes. -/
  stops : ∀ leg ∈ legs.dropLast, calls leg = []
  /-- Only a veto keeps the dispatch from the end of the view. -/
  only : legs.flatMap calls = [] → legs.map Leg.entry = view
  /-- The first id that was passed is recorded. -/
  recorded : result.interruptedBy = (legs.flatMap calls).head?
  /-- The point agrees with the result. -/
  shown : left.body.interruption = ⟨result.isInterrupted, result.interruptedBy⟩
  /-- Without a veto the point is fresh. -/
  fresh : legs.flatMap calls = [] → left.body.interruption = .fresh
  /-- The answer of an interruptible dispatch is whether the point was left uninterrupted. -/
  answered : ∀ request : DispatchRequest,
    request.mode = .interruptible ∨ request.mode = .interruptibleSilent →
      Powers.answerResult request result left =
        .verdict (!left.body.interruption.interrupted) left

/-- Where at most the last visit interrupts, its first id is the one that the dispatch names. -/
theorem vetoDecides_of_interruption {calls : Leg → List HandlerId} {result : DispatchResult}
    (hstops : ∀ leg ∈ legs.dropLast, calls leg = [])
    (honly : legs.flatMap calls = [] → legs.map Leg.entry = entries)
    (hrecorded : result.interruptedBy = (legs.flatMap calls).head?)
    (hleft : left.body.interruption =
      (legs.flatMap calls).foldl Interruption.interrupt .fresh) :
    VetoDecides entries legs calls left result := by
  have hshown : left.body.interruption = ⟨result.isInterrupted, result.interruptedBy⟩ := by
    rw [hleft, Interruption.foldl_interrupt_fresh, DispatchResult.isInterrupted, hrecorded]
  constructor
  case stops => exact hstops
  case only => exact honly
  case recorded => exact hrecorded
  case shown => exact hshown
  case fresh =>
    intro hnone
    rw [hleft, hnone]
    rfl
  case answered =>
    intro request hmode
    rw [hshown, Powers.answerResult]
    rcases hmode with hmode | hmode
    · rw [hmode]
    · rw [hmode]

/-- The dispatch of a point whose interruption can be written goes as its vetoes decide. -/
theorem Journey.vetoDecides {calls : Leg → List HandlerId} {tour : Tour} {kind : PointKind}
    (hjourney : Journey runner plan entries before point legs tour after)
    (herror : tour.error = none) (hstrategy : plan.strategy = none)
    (hcalls : ∀ leg ∈ legs, leg.Interrupts runner (calls leg))
    (hwritable : point.kind.access = .writable) (hfresh : point.body.interruption = .fresh) :
    VetoDecides entries legs calls tour.point (tour.result kind) := by
  have htrail := hjourney.trail
  cases hjourney.ends with
  | finishes hentries hearly =>
      obtain ⟨-, hlast, hquiet⟩ := htrail.stays_fresh hearly hcalls hwritable hfresh
      have hnone : legs.flatMap calls = [] := List.flatMap_eq_nil_iff.mpr hquiet
      apply vetoDecides_of_interruption
      case hstops =>
        intro leg hleg
        exact hquiet leg ((List.dropLast_sublist legs).mem hleg)
      case honly =>
        intro _
        exact hentries
      case hrecorded =>
        rw [hnone]
        rfl
      case hleft =>
        rw [hnone]
        exact hlast
  | @stops early last interruptedBy hearly hstep =>
      have hmem : last ∈ early ++ [last] := List.mem_append_right _ (List.mem_singleton_self _)
      have hhappens := htrail.happens last hmem
      have hids := hcalls last hmem
      obtain ⟨hkind, harrived, hquiet⟩ := htrail.init.stays_fresh hearly
        (fun leg hleg => hcalls leg (List.mem_append_left _ hleg)) hwritable hfresh
      have hids_all : (early ++ [last]).flatMap calls = calls last := by
        rw [List.flatMap_append, List.flatMap_eq_nil_iff.mpr hquiet]
        simp
      rw [← hkind] at hwritable
      have hinterrupter := hids.interrupter?_left hhappens hwritable harrived
      obtain ⟨-, rfl, outcome, -, hreason⟩ := of_verdict_stop hstep
      apply vetoDecides_of_interruption
      case hstops =>
        rw [List.dropLast_concat]
        exact hquiet
      case honly =>
        intro hnone
        rw [hids_all] at hnone
        rw [hinterrupter, hnone] at hreason
        rcases hreason with hveto | hsatisfies
        · exact absurd rfl hveto
        · exact absurd hsatisfies (not_satisfies_of_none hstrategy)
      case hrecorded =>
        rw [hids_all]
        exact hinterrupter
      case hleft =>
        rw [hids_all, ← harrived]
        exact hids.interruption_left hhappens hwritable
  | aborts hearly hstep => cases herror

/-- The dispatch of a point that shows no interruption is not stopped. -/
theorem Journey.whole_of_hidden {calls : Leg → List HandlerId} {tour : Tour}
    (hjourney : Journey runner plan entries before point legs tour after)
    (herror : tour.error = none) (hstrategy : plan.strategy = none)
    (hcalls : ∀ leg ∈ legs, leg.Interrupts runner (calls leg))
    (hhidden : point.kind.access = .hidden) :
    legs.map Leg.entry = entries ∧ tour.interruptedBy = none := by
  have hkind := hjourney.trail.kind_left hcalls
  cases hjourney.ends with
  | finishes hentries hearly => exact ⟨hentries, rfl⟩
  | stops hearly hstep =>
      rw [← hkind] at hhidden
      obtain ⟨-, -, outcome, -, hreason⟩ := of_verdict_stop hstep
      rw [interrupter?_of_hidden hhidden] at hreason
      rcases hreason with hveto | hsatisfies
      · exact absurd rfl hveto
      · exact absurd hsatisfies (not_satisfies_of_none hstrategy)
  | aborts hearly hstep => cases herror

/-- A dispatch without a strategy that succeeds stops right after the first visit in which a
handler interrupts the point or answers false, and for no other reason.  The first id that was
passed is named by the result, the point and the timeline alike, whatever the point held
before; a point that shows no interruption is not stopped at all. -/
theorem dispatch_stops_at_first_veto {runner : Runner} {plan : DispatchPlan}
    {point left : Point} {before after : Engine} {result : DispatchResult}
    (hsounds : before.isSilenced = false) (hstrategy : plan.strategy = none)
    (hrun : Runs (dispatch runner plan point) before (left, .ok result) after) :
    ∃ legs toured,
      Trail runner plan (opened before point.kind) (point.modifyInterruption fun _ => .fresh)
        legs toured left ∧
      legs.map Leg.entry <+: before.registry.view point.kind ∧
      (∀ calls : Leg → List HandlerId, (∀ leg ∈ legs, leg.Interrupts runner (calls leg)) →
        (point.kind.access = .writable →
          VetoDecides (before.registry.view point.kind) legs calls left result) ∧
        (point.kind.access = .hidden →
          legs.map Leg.entry = before.registry.view point.kind ∧ result.interruptedBy = none)) ∧
      ∃ timeline reported told,
        timeline.interruptedBy = result.interruptedBy ∧
        (plan.flags.debug = true → Runs (report timeline) toured () reported) ∧
        Runs (notifyOf runner plan point.kind left) reported () told ∧
        after = told.record (.log
          (completionEvent (before.registry.view point.kind).length result)) := by
  obtain ⟨legs, tour, toured, told, hjourney, herror, rfl, rfl, htold, hafter⟩ :=
    exists_journey_of_ok hsounds hrun
  have hkind : (point.modifyInterruption fun _ => .fresh).kind = point.kind :=
    kind_modifyInterruption point _
  have hdecides : ∀ calls : Leg → List HandlerId,
      (∀ leg ∈ legs, leg.Interrupts runner (calls leg)) → point.kind.access = .writable →
        VetoDecides (before.registry.view point.kind) legs calls tour.point
          (tour.result point.kind) := by
    intro calls hcalls hwritable
    have hfresh := interruption_modifyInterruption (fun _ => .fresh) hwritable
    rw [← hkind] at hwritable
    exact hjourney.vetoDecides herror hstrategy hcalls hwritable hfresh
  have hwhole : ∀ calls : Leg → List HandlerId,
      (∀ leg ∈ legs, leg.Interrupts runner (calls leg)) → point.kind.access = .hidden →
        legs.map Leg.entry = before.registry.view point.kind ∧ tour.interruptedBy = none := by
    intro calls hcalls hhidden
    rw [← hkind] at hhidden
    exact hjourney.whole_of_hidden herror hstrategy hcalls hhidden
  have hreport : plan.flags.debug = true →
      Runs (report (tour.timeline point.kind)) toured () (reported plan point.kind tour toured) := by
    intro hdebug
    exact (runs_report hdebug).mpr rfl
  exact ⟨legs, toured, hjourney.trail, hjourney.entries_isPrefix,
    fun calls hcalls => ⟨hdecides calls hcalls, hwhole calls hcalls⟩,
    tour.timeline point.kind, _, told, rfl, hreport, htold, hafter⟩

/-- The handlers of the small engine leave points as they are. -/
theorem Sample.touched_eq {id : HandlerId} {result outcome : HandlerResult} {touched : Point}
    (hrun : Runs (Sample.runner.run (Sample.handler id result) point) before (touched, outcome)
      after) : touched = point := by
  change Runs (Handler.run (Powers.within 1 1 0) (Sample.handler id result) point) before
    (touched, outcome) after at hrun
  rw [Handler.run] at hrun
  split at hrun
  · obtain ⟨given, middle, hfinish, hrest⟩ := runs_bind.mp hrun
    obtain ⟨rfl, rfl⟩ := runs_pure.mp hfinish
    have hended := runs_modify_then.mp hrest
    exact (Prod.mk.inj (runs_pure.mp hended).1).1
  · exact (Prod.mk.inj (runs_pure.mp hrun).1).1

theorem Sample.interrupts (leg : Leg) (hentry : leg.entry ∈ Sample.registry.view Sample.kind) :
    ∃ ids, leg.Interrupts Sample.runner ids := by
  have hlive : ∀ entry ∈ Sample.registry.view Sample.kind,
      ∃ id result, entry.handler = .live (Sample.handler id result) := by
    intro entry hmem
    rcases hmem with _ | ⟨_, _ | ⟨_, _ | ⟨_, hnone⟩⟩⟩
    · exact ⟨_, _, rfl⟩
    · exact ⟨_, _, rfl⟩
    · exact ⟨_, _, rfl⟩
    · cases hnone
  by_cases hran : ∃ handler started touched outcome ended,
      Invokes Sample.runner leg.entry leg.arrived leg.before handler started touched outcome ended
  · obtain ⟨handler, started, touched, outcome, ended, hinvokes⟩ := hran
    obtain ⟨id, result, hhandler⟩ := hlive leg.entry hentry
    obtain ⟨ready, hreaches, -⟩ := hinvokes.reaches
    have hsample : handler = Sample.handler id result := by
      cases hreaches.sought with
      | live hfound =>
          rw [hhandler] at hfound
          exact (HandlerRef.live.inj hfound).symm
      | resolved hdeferred hlookup haccepts =>
          rw [hhandler] at hdeferred
          cases hdeferred
    have hruns := hinvokes.runs
    rw [hsample] at hruns
    obtain rfl := Sample.touched_eq hruns
    have hnone : leg.arrived.body.interruption =
        ([] : List HandlerId).foldl Interruption.interrupt leg.arrived.body.interruption := rfl
    exact ⟨_, .ran hinvokes rfl hnone⟩
  · exact ⟨[], .idle fun handler started touched outcome ended hinvokes =>
      hran ⟨handler, started, touched, outcome, ended, hinvokes⟩⟩

/-- The second of three handlers vetoes, after the first failed. -/
theorem dispatch_stops_at_first_veto_of_sample :
    ∃ left result after legs calls,
      Runs (dispatch Sample.runner Sample.plan (.blank Sample.kind)) Sample.engine
        (left, .ok result) after ∧
      (∀ leg ∈ legs, leg.Interrupts Sample.runner (calls leg)) ∧
      VetoDecides (Sample.registry.view Sample.kind) legs calls left result ∧
      result.interruptedBy = some "fraud" := by
  classical
  have hrun : Runs (dispatch Sample.runner Sample.plan (.blank Sample.kind)) Sample.engine
      (_, .ok _) _ := rfl
  obtain ⟨legs, toured, -, hvisited, hdecides, -⟩ := dispatch_stops_at_first_veto rfl rfl hrun
  have hids : ∀ leg ∈ legs, ∃ ids, leg.Interrupts Sample.runner ids := fun leg hleg =>
    Sample.interrupts leg (hvisited.subset (List.mem_map_of_mem hleg))
  let calls : Leg → List HandlerId := fun leg =>
    if hleg : leg ∈ legs then (hids leg hleg).choose else []
  have hcalls : ∀ leg ∈ legs, leg.Interrupts Sample.runner (calls leg) := by
    intro leg hleg
    simp only [calls, dif_pos hleg]
    exact (hids leg hleg).choose_spec
  exact ⟨_, _, _, legs, calls, hrun, hcalls, (hdecides calls hcalls).1 rfl, rfl⟩

end Dispatch
end Plugboard
