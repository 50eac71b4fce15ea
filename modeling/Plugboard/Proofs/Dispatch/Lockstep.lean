import Plugboard.Proofs.Dispatch.Notification
import Plugboard.Proofs.Engine.Lockstep

/-!
# Dispatches in lockstep

From engines that differ in their registries, diagnostics and collected calls only, two dispatches
that visit the same entries come to the same, as long as the handlers that they run use no engine;
and listeners that give no command are told the same by both.
-/

namespace Plugboard

open Engine

/-- A handler that the entry runs uses no engine.  What the handler of a queued entry does is left
open. -/
def Entry.Sober (sources : Table HandlerId Source) (entry : Entry Behaviour) : Prop :=
  entry.queue = none →
    match entry.handler with
    | .live handler => handler.Alone
    | .deferred id => ∀ source, sources.get? id = some source → source.Alone

namespace Dispatch

variable {powers : Powers} {plan : DispatchPlan} {entry : Entry Behaviour} {legs : List Leg}
  {point left : Point} {first before after other : Engine}
  {aside : List (QueuedCall Behaviour) → List (QueuedCall Behaviour) → Prop}

/-! ## Visits in lockstep -/

theorem lockstep_lookUp (id : HandlerId) :
    Lockstep (Alike first aside)
      (fun found counterpart => found = counterpart ∧
        ((∀ source, first.sources.get? id = some source → source.Alone) →
          ∀ handler, found = some handler → handler.Alone))
      (lookUp powers.runner id) (lookUp powers.runner id) := by
  refine lockstep_get_then fun {before start} halike => ?_
  rw [halike.view_eq usesResolver fun _ => rfl]
  split
  · exact lockstep_resolve id
  · apply lockstep_pure
    refine ⟨rfl, fun _ handler hfound => ?_⟩
    cases hfound

/-- Both engines find the same handler for an entry. -/
theorem lockstep_handlerOf (kind : PointKind) (hsober : entry.Sober first.sources) :
    Lockstep (Alike first aside)
      (fun found counterpart => found = counterpart ∧
        (entry.queue = none → ∀ handler, found = .ok handler → handler.Alone))
      (handlerOf powers.runner kind entry) (handlerOf powers.runner kind entry) := by
  have hmissing {error : DispatchError} : ∀ handler : Handler Behaviour,
      (Except.error error : Except DispatchError (Handler Behaviour)) = .ok handler →
        handler.Alone := by
    intro handler hfound
    cases hfound
  rw [handlerOf]
  rw [Entry.Sober] at hsober
  cases hhandler : entry.handler with
  | live known =>
      rw [hhandler] at hsober
      apply lockstep_pure
      refine ⟨rfl, fun hinline handler hfound => ?_⟩
      obtain rfl := Except.ok.inj hfound
      exact hsober hinline
  | deferred id =>
      rw [hhandler] at hsober
      apply (lockstep_lookUp id).bind
      rintro found _ ⟨rfl, halone⟩
      cases found with
      | none => exact lockstep_pure ⟨rfl, fun _ => hmissing⟩
      | some known =>
          dsimp only
          split
          · apply lockstep_pure
            refine ⟨rfl, fun hinline handler hfound => ?_⟩
            obtain rfl := Except.ok.inj hfound
            exact halone (hsober hinline) _ rfl
          · exact lockstep_pure ⟨rfl, fun _ => hmissing⟩

/-- Both engines hand over the same call with the same answer. -/
theorem lockstep_handOver (hfollows : Follows aside) (id : HandlerId)
    (handler : Handler Behaviour) (queuePlan : QueuePlan) (point : Point) :
    Lockstep (Alike first aside) Eq (handOver powers.runner id handler queuePlan point)
      (handOver powers.runner id handler queuePlan point) := by
  have hoffer : Lockstep (Alike first aside) Eq (offer powers.runner handler queuePlan point)
      (offer powers.runner handler queuePlan point) := by
    refine lockstep_get_then fun {before start} halike => ?_
    rw [halike.view_eq queueLink fun _ => rfl, halike.view_eq settings fun _ => rfl]
    split
    · exact lockstep_pure rfl
    · split
      · exact lockstep_pure rfl
      · exact lockstep_enqueue hfollows _
  apply hoffer.bind_eq
  intro outcome
  split
  · exact (lockstep_log _ _).bind_eq fun _ => lockstep_pure rfl
  · exact (lockstep_log _ _).bind_eq fun _ => lockstep_pure rfl
  · exact lockstep_pure rfl

theorem lockstep_invoke {handler : Handler Behaviour} (halone : handler.Alone)
    (entry : Entry Behaviour) (point : Point) :
    Lockstep (Alike first aside) Eq (invoke powers.runner entry handler point)
      (invoke powers.runner entry handler point) := by
  apply (lockstep_log _ _).bind_eq
  intro _
  apply (Handler.lockstep_run powers halone point).bind_eq
  rintro ⟨left, outcome⟩
  exact (lockstep_recordOutcome _ _).bind_eq fun _ => lockstep_pure rfl

/-- Both engines meet the same at an entry. -/
theorem lockstep_encounter (hfollows : Follows aside) (hsober : entry.Sober first.sources)
    (point : Point) :
    Lockstep (Alike first aside) Eq (encounter powers.runner entry point)
      (encounter powers.runner entry point) := by
  refine lockstep_get_then fun {before start} halike => ?_
  rw [halike.view_eq muted fun _ => rfl, halike.view_eq breaker fun _ => rfl,
    halike.view_eq breakerTime fun _ => rfl]
  split
  · exact (lockstep_log _ _).bind_eq fun _ => lockstep_pure rfl
  · split
    · exact (lockstep_log _ _).bind_eq fun _ => lockstep_pure rfl
    · apply (lockstep_handlerOf point.kind hsober).bind
      rintro found _ ⟨rfl, halone⟩
      cases found with
      | error error => exact lockstep_pure rfl
      | ok handler =>
          dsimp only
          split
          · exact (lockstep_handOver hfollows _ _ _ _).bind_eq fun _ => lockstep_pure rfl
          · rename_i hinline
            exact lockstep_invoke (halone hinline _ rfl) entry point

theorem lockstep_visit (hfollows : Follows aside) (hsober : entry.Sober first.sources)
    (point : Point) :
    Lockstep (Alike first aside) Eq (visit powers.runner plan entry point)
      (visit powers.runner plan entry point) := by
  apply (lockstep_encounter hfollows hsober point).bind_eq
  rintro ⟨met, left⟩
  exact (lockstep_logAll _ _).bind_eq fun _ => lockstep_pure rfl

/-- Both make the same visits and come to the same. -/
theorem lockstep_tour (hfollows : Follows aside) {entries : List (Entry Behaviour)}
    (hsober : ∀ entry ∈ entries, entry.Sober first.sources) (point : Point) :
    Lockstep (Alike first aside) Eq (tour powers.runner plan entries point)
      (tour powers.runner plan entries point) := by
  induction entries generalizing point with
  | nil => exact lockstep_pure rfl
  | cons entry rest ih =>
      obtain ⟨hfirst, hrest⟩ := List.forall_mem_cons.mp hsober
      apply (lockstep_visit hfollows hfirst point).bind_eq
      rintro ⟨step, left⟩
      cases step with
      | stop record interruptedBy => exact lockstep_pure rfl
      | abort record error => exact lockstep_pure rfl
      | proceed record => exact (ih hrest left).bind_eq fun _ => lockstep_pure rfl

/-- Visits that a dispatch survives are made from engines alike as well, with the same outcome. -/
theorem Trail.exists_counterpart (hfollows : Follows aside)
    (htrail : Trail powers.runner plan before point legs after left)
    (hproceeds : ∀ leg ∈ legs, leg.Proceeds plan)
    (hsober : ∀ leg ∈ legs, leg.entry.Sober first.sources)
    (halike : Alike first aside before other) :
    ∃ others another, Trail powers.runner plan other point others another left ∧
      others.map Leg.entry = legs.map Leg.entry ∧ others.map Leg.record = legs.map Leg.record ∧
      (∀ leg ∈ others, leg.Proceeds plan) ∧ Alike first aside after another := by
  induction htrail generalizing other with
  | here engine point =>
      exact ⟨[], other, .here other point, rfl, rfl, List.forall_mem_nil _, halike⟩
  | @visit leg legs engine point hhappens hrest ih =>
      obtain ⟨hproceed, hproceeds⟩ := List.forall_mem_cons.mp hproceeds
      obtain ⟨hfirst, hsober⟩ := List.forall_mem_cons.mp hsober
      obtain ⟨⟨step, given⟩, middle, hvisit, hsame, hmiddle⟩ :=
        (lockstep_visit hfollows hfirst leg.arrived).exists_runs halike (hhappens.runs plan)
      obtain ⟨hstep, hleft⟩ := Prod.mk.inj hsame
      obtain ⟨counterpart, hcounterpart, hentry, harrived, rfl, hsteps, hlefts, rfl⟩ :=
        exists_leg hvisit
      have hrecord : counterpart.step plan = .proceed leg.record :=
        hsteps.trans (hstep.symm.trans hproceed)
      have hrecorded : counterpart.record = leg.record := (of_verdict_proceed hrecord).1.symm
      have hsurvives : counterpart.Proceeds plan := by
        rw [Leg.Proceeds, hrecord, hrecorded]
      obtain ⟨others, another, htrail, hentries, hrecords, hothers, hend⟩ :=
        ih hproceeds hsober hmiddle
      refine ⟨counterpart :: others, another, ?_, ?_, ?_,
        List.forall_mem_cons.mpr ⟨hsurvives, hothers⟩, hend⟩
      · rw [← harrived]
        apply Trail.visit hcounterpart
        rwa [hlefts, ← hleft]
      · rw [List.map_cons, List.map_cons, hentry, hentries]
      · rw [List.map_cons, List.map_cons, hrecorded, hrecords]

/-! ## Listeners in lockstep -/

/-- Listeners that give no command are told in lockstep. -/
theorem lockstep_tellAll {listeners : List Listener}
    (hquiet : ∀ listener ∈ listeners, listener.reaction = none) (point : Point) :
    Lockstep (Alike first aside) Eq (tellAll powers.runner point listeners)
      (tellAll powers.runner point listeners) := by
  induction listeners with
  | nil => exact lockstep_pure rfl
  | cons listener rest ih =>
      obtain ⟨hlistener, hrest⟩ := List.forall_mem_cons.mp hquiet
      have htell : Lockstep (Alike first aside) Eq (powers.runner.tell listener point)
          (powers.runner.tell listener point) := by
        apply (lockstep_announce _).bind_eq
        intro _
        rw [hlistener]
        exact lockstep_pure rfl
      rw [tellAll]
      split
      · exact htell.bind_eq fun _ => ih hrest
      · exact ih hrest

theorem audience_eq (halike : Alike first aside before other) (plan : DispatchPlan)
    (kind : PointKind) : audience plan kind before = audience plan kind first := by
  have husesBus : before.usesBus = first.usesBus := congrArg Prod.fst halike.busPart_eq
  have hlisteners : before.listeners = first.listeners := congrArg Prod.snd halike.busPart_eq
  rw [audience, audience, husesBus, hlisteners]

/-- Telling listeners that have no reaction comes to its end. -/
theorem exists_runs_tellAll {listeners : List Listener}
    (hquiet : ∀ listener ∈ listeners, listener.reaction = none) (point : Point) (before : Engine) :
    ∃ after, Runs (tellAll powers.runner point listeners) before () after := by
  induction listeners generalizing before with
  | nil => exact ⟨before, runs_pure.mpr ⟨rfl, rfl⟩⟩
  | cons listener rest ih =>
      obtain ⟨hlistener, hrest⟩ := List.forall_mem_cons.mp hquiet
      rw [tellAll]
      by_cases hkind : listener.kind = point.kind
      · have hheard : Runs (announce (.heard listener.name point)) before () _ :=
          runs_modify.mpr rfl
        have htell : Runs (powers.runner.tell listener point) before ()
            (before.record (.heard listener.name point)) := by
          apply hheard.bind
          rw [hlistener]
          exact runs_pure.mpr ⟨rfl, rfl⟩
        obtain ⟨after, hafter⟩ := ih hrest _
        rw [if_pos hkind]
        exact ⟨after, htell.bind hafter⟩
      · rw [if_neg hkind]
        exact ih hrest before

theorem lockstep_notify {kind : PointKind}
    (hquiet : ∀ listener ∈ Bus.listeners first.listeners kind, listener.reaction = none)
    (point : Point) :
    Lockstep (Alike first aside) Eq (notify powers.runner kind point)
      (notify powers.runner kind point) := by
  refine lockstep_get_then fun {before start} halike => ?_
  have hlisteners : before.listeners = first.listeners := congrArg Prod.snd halike.busPart_eq
  rw [← halike.view_eq Engine.listeners fun _ => rfl, hlisteners]
  rw [Bus.listeners] at hquiet
  cases hfound : first.listeners.get? kind with
  | none => exact lockstep_pure rfl
  | some listeners =>
      rw [hfound] at hquiet
      exact (lockstep_log _ _).bind_eq fun _ => lockstep_tellAll hquiet point

/-- Both engines tell the same listeners. -/
theorem lockstep_notifyOf {kind : PointKind}
    (hquiet : ∀ listener ∈ audience plan kind first, listener.reaction = none) (point : Point) :
    Lockstep (Alike first aside) Eq (notifyOf powers.runner plan kind point)
      (notifyOf powers.runner plan kind point) := by
  refine lockstep_get_then fun {before start} halike => ?_
  have husesBus : before.usesBus = first.usesBus := congrArg Prod.fst halike.busPart_eq
  rw [← halike.view_eq usesBus fun _ => rfl, husesBus]
  rw [audience] at hquiet
  split
  · rename_i hnotifies
    rw [if_pos hnotifies] at hquiet
    exact lockstep_notify hquiet point
  · exact lockstep_pure rfl

/-! ## Before and after the visits -/

/-- Opening adds nothing but diagnostics to what is beside the registry. -/
theorem exists_opened (engine : Engine) (kind : PointKind) :
    ∃ logged, Diagnosed engine logged ∧
      opened engine kind = { logged with registry := engine.registry.remember kind } := by
  have hviewed (engine : Engine) : ∃ logged, Diagnosed engine logged ∧
      engine.viewed kind = { logged with registry := engine.registry.remember kind } :=
    ⟨_, diagnosed_recordAll engine _, rfl⟩
  obtain ⟨logged, hlogged, hopened⟩ := hviewed (engine.record (.log (spanEvent kind)))
  refine ⟨logged, (diagnosed_record engine rfl).trans hlogged, ?_⟩
  rw [opened, hopened, registry_record]

theorem alike_opened (engine : Engine) (registry : Registry Behaviour) (kind : PointKind) :
    Alike engine Eq (opened engine kind) (opened { engine with registry } kind) := by
  obtain ⟨logged, hlogged, hopened⟩ := exists_opened engine kind
  obtain ⟨another, hanother, hother⟩ := exists_opened { engine with registry } kind
  have hsame : Alike engine Eq engine { engine with registry } := ⟨rfl, rfl, rfl⟩
  have halike := hsame.diagnosed hlogged hanother
  rw [hopened, hother]
  exact ⟨halike.shared, halike.calls, halike.fixtures⟩

theorem diagnosed_reported (plan : DispatchPlan) (kind : PointKind) (tour : Tour)
    (engine : Engine) : Diagnosed engine (reported plan kind tour engine) := by
  rw [reported]
  split
  · split
    · exact diagnosed_record engine rfl
    · exact diagnosed_recordAll engine _
  · exact ⟨rfl, rfl⟩

end Dispatch
end Plugboard
