import Mathlib.Data.List.Chain
import Plugboard.Proofs.Dispatch.Endings
import Plugboard.Proofs.Engine.Written

/-!
# Registering while a dispatch runs

Handlers may use the registry of the dispatch that runs them.  The dispatch goes on along the view
that it took when it began; what is muted, and the breaker, it looks up at each visit.  The registry
that it leaves has seen all the operations that were made meanwhile, and so has the view of the
next dispatch.
-/

namespace Plugboard

open Engine

/-! ## Operations of a program -/

def Deed.operation? : Deed → Option (RegistryOperation Behaviour)
  | .operation performed => some performed
  | _ => none

/-- A deed does at most one operation on the registry. -/
theorem Deed.onRegistry_eq (deed : Deed) (registry : Registry Behaviour) :
    deed.onRegistry registry = (registry.performAll deed.operation?.toList).2 := by
  cases deed <;> rfl

namespace Trace

def operations (trace : List Moment) : List (RegistryOperation Behaviour) :=
  trace.flatMap fun moment => moment.deed.operation?.toList

theorem operations_append (first second : List Moment) :
    operations (first ++ second) = operations first ++ operations second :=
  List.flatMap_append

theorem operations_within (scope : OpenScope) (trace : List Moment) :
    operations (trace.map (Moment.within scope)) = operations trace := by
  rw [operations, List.flatMap_map]
  rfl

end Trace

open Trace

theorem Scope.registry_openOn (scope : Scope) (engine : Engine) :
    (scope.openOn engine).registry = engine.registry := by
  cases scope <;> rfl

theorem OpenScope.registry_close (scope : OpenScope) (engine : Engine) :
    (scope.close engine).registry = engine.registry := by
  cases scope <;> rfl

/-- The operations of a course are what happens to the registry. -/
theorem Course.registry_eq {before after : Engine} {trace : List Moment}
    (hcourse : Course before trace after) :
    after.registry = (before.registry.performAll (operations trace)).2 := by
  induction hcourse with
  | single hdoes => rw [hdoes.registry, Deed.onRegistry_eq, operations, List.flatMap_singleton]
  | @inScope scope before ended trace hbody ih =>
      have hsame : operations (⟨[scope.opened before], .other, scope.openOn before⟩ ::
          (trace.map (Moment.within (scope.opened before)) ++
            [⟨[], .other, (scope.opened before).close ended⟩])) = operations trace := by
        rw [← List.singleton_append, operations_append, operations_append, operations_within]
        exact List.append_nil _
      rw [hsame, OpenScope.registry_close, ih, scope.registry_openOn]
  | append hfirst hsecond ihfirst ihsecond =>
      rw [ihsecond, ihfirst, operations_append, Registry.performAll_append]

namespace Dispatch

variable {runner : Runner} {plan : DispatchPlan} {point left : Point} {before after : Engine}
  {leg : Leg} {legs : List Leg}

/-! ## What visits look up -/

/-- The visit skips its entry by what is muted and by the breaker when it begins, and leaves what
its handler left, with the outcome recorded. -/
structure Leg.Heeds (runner : Runner) (leg : Leg) : Prop where
  muted : leg.met = .skipped .muted ↔ leg.entry.id ∈ leg.before.muted
  circuitOpen : leg.met = .skipped .circuitOpen ↔ leg.entry.id ∉ leg.before.muted ∧
    leg.before.breaker.isAvailable leg.before.breakerTime leg.entry.id = false
  ran : ∀ outcome, leg.met = .ran outcome → ∃ handler started touched ended,
    Invokes runner leg.entry leg.arrived leg.before handler started touched outcome ended ∧
      leg.reached.muted = ended.muted ∧
      leg.reached.breaker = ended.breakerAfter leg.entry.id outcome

/-- Every visit heeds what is muted and what the breaker says when it begins. -/
theorem Leg.Happens.heeds (hhappens : leg.Happens runner) : leg.Heeds runner where
  muted := hhappens.meets.muted_iff
  circuitOpen := hhappens.meets.circuitOpen_iff
  ran := by
    intro outcome hmet
    have hmeets := hhappens.meets
    rw [hmet] at hmeets
    obtain ⟨handler, started, touched, ended, hinvokes, -, hreached⟩ := hmeets.invokes
    refine ⟨handler, started, touched, ended, hinvokes, ?_, ?_⟩
    · rw [hreached, afterOutcome]
      change (ended.recordAll _).muted = ended.muted
      exact eq_of_bare_eq Engine.muted (fun _ => rfl) (bare_recordAll ended _)
    · rw [hreached, afterOutcome]

/-- The first visit starts where the dispatch does. -/
theorem Trail.head (htrail : Trail runner plan before point legs after left) :
    ∀ leg ∈ legs.head?, leg.before = before ∧ leg.arrived = point := by
  cases htrail with
  | here => simp
  | visit hhappens hrest => simp

/-- Each visit starts from what the one before it left, but for events. -/
theorem Trail.isChain (htrail : Trail runner plan before point legs after left) :
    legs.IsChain fun earlier later =>
      later.before.bare = earlier.reached.bare ∧ later.arrived = earlier.left := by
  induction htrail with
  | here engine point => exact .nil
  | @visit leg legs engine point hhappens hrest ih =>
      refine List.isChain_cons.mpr ⟨fun later hlater => ?_, ih⟩
      obtain ⟨hbefore, harrived⟩ := hrest.head later hlater
      rw [hbefore, harrived, Leg.after, bare_recordAll]
      exact ⟨rfl, rfl⟩

/-- A dispatch visits the view that it took when it began, entry by entry, whatever its handlers do
to the registry, and each visit goes by what is muted and by the breaker as the visits before it
left them.  The registry that it leaves is the one that all operations made meanwhile lead to, and
along the view of that one goes the next dispatch of a point.  The dispatches of commands can be
seen so, however deep. -/
theorem dispatch_keeps_to_its_view (runner : Runner) (plan : DispatchPlan) (point : Point)
    (before : Engine) :
    (∃ legs toured left, Unfolds runner plan point before legs toured left
        ((dispatch runner plan point).run.run before).1
        ((dispatch runner plan point).run.run before).2 ∧
      (∀ leg ∈ legs, leg.Heeds runner) ∧
      legs.IsChain fun earlier later =>
        later.before.bare = earlier.reached.bare ∧ later.arrived = earlier.left) ∧
    (∀ program : Program (Point × Except DispatchError DispatchResult),
      program.code = dispatch runner plan point →
      ∀ earlier, (Registry.empty.performAll earlier).2 = before.registry →
      let all := earlier ++ operations (program.trace before)
      let ledger := Ledger.empty.replay (Registry.empty.performAll all).1
      (program.after before).registry = (Registry.empty.performAll all).2 ∧
      (∀ kind, (program.after before).registry.view kind = ledger.view kind) ∧
      ∀ (runner : Runner) (plan : DispatchPlan) (next : Point), ∃ legs toured left,
        Unfolds runner plan next (program.after before) legs toured left
          ((dispatch runner plan next).run.run (program.after before)).1
          ((dispatch runner plan next).run.run (program.after before)).2 ∧
        legs.map Leg.entry <+: ledger.view next.kind) ∧
    (runner.Written → Written (dispatch runner plan point)) ∧
    ∀ nesting fuel depth, (Powers.within nesting fuel depth).runner.Written := by
  refine ⟨?_, ?_, fun hrunner => written_dispatch hrunner plan point,
    fun nesting fuel depth => Powers.written_runner (Powers.written_within nesting fuel depth)⟩
  · obtain ⟨legs, toured, left, hunfolds⟩ := exists_unfolds runner plan point before
    exact ⟨legs, toured, left, hunfolds,
      fun leg hleg => (hunfolds.trail.happens leg hleg).heeds, hunfolds.trail.isChain⟩
  · intro program hcode earlier hearlier all ledger
    have hregistry : (program.after before).registry = (Registry.empty.performAll all).2 := by
      rw [(program.course before).registry_eq, Registry.performAll_append, hearlier]
    have hview : ∀ kind, (program.after before).registry.view kind = ledger.view kind := by
      rw [hregistry]
      exact (Registry.mirrors_empty.performAll all).view_eq
    refine ⟨hregistry, hview, fun runner plan next => ?_⟩
    obtain ⟨legs, toured, left, hunfolds⟩ :=
      exists_unfolds runner plan next (program.after before)
    exact ⟨legs, toured, left, hunfolds, hview next.kind ▸ hunfolds.visited⟩

namespace Sample

/-- A handler that takes the second entry out of the registry and mutes the third. -/
def meddler : Handler Behaviour :=
  { id := "meddler", accepts := kind, serial := 0
    react := fun body => .operate (.registry (.remove 2)) fun _ => .operate (.mute "mail") fun _ =>
      .finish body (.ok .null) }

def registrations : List (RegistryOperation Behaviour) :=
  [.register (.live meddler 0), .register (.live (handler "stock" (.ok .null)) 1),
    .register (.live (handler "mail" (.ok .null)) 2)]

def meddled : Engine :=
  { Engine.new .standard 0 with registry := (Registry.empty.performAll registrations).2 }

/-- Dispatches to handlers that may give commands. -/
def meddling : EngineM (Point × Except DispatchError DispatchResult) :=
  dispatch (Powers.within 2 2 0).runner Sample.plan (.blank kind)

end Sample

/-- An entry is visited that was removed meanwhile, and one is skipped that was muted meanwhile; the
next dispatch goes along the two entries that are left. -/
theorem dispatch_keeps_to_its_view_of_sample :
    (∃ legs toured left, Unfolds (Powers.within 2 2 0).runner Sample.plan (.blank Sample.kind)
      Sample.meddled legs toured left (Sample.meddling.run.run Sample.meddled).1
      (Sample.meddling.run.run Sample.meddled).2) ∧
    (∃ left result after, Runs Sample.meddling Sample.meddled (left, .ok result) after ∧
      result.visits.map (fun visit => visit.handler) = ["meddler", "stock", "mail"] ∧
      result.skipped = [("mail", .muted)]) ∧
    ∃ program : Program (Point × Except DispatchError DispatchResult),
      program.code = Sample.meddling ∧
      (program.after Sample.meddled).registry.view Sample.kind =
        (Ledger.empty.replay (Registry.empty.performAll
          (Sample.registrations ++ operations (program.trace Sample.meddled))).1).view
          Sample.kind ∧
      ((program.after Sample.meddled).registry.view Sample.kind).map (fun entry => entry.id) =
        ["meddler", "mail"] := by
  obtain ⟨hvisits, hnext, hwritten, hrunner⟩ := dispatch_keeps_to_its_view
    (Powers.within 2 2 0).runner Sample.plan (.blank Sample.kind) Sample.meddled
  obtain ⟨legs, toured, left, hunfolds, -⟩ := hvisits
  obtain ⟨program, hcode⟩ := hwritten (hrunner 2 2 0)
  have hview := (hnext program hcode Sample.registrations rfl).2.1 Sample.kind
  have hrun : Runs Sample.meddling Sample.meddled (_, .ok _) _ := rfl
  have hafter : program.after Sample.meddled = (Sample.meddling.run.run Sample.meddled).2 := by
    rw [Program.after, hcode, Sample.meddling]
  have hleft : ((program.after Sample.meddled).registry.view Sample.kind).map
      (fun entry => entry.id) = ["meddler", "mail"] := by
    rw [hafter]
    rfl
  exact ⟨⟨legs, toured, left, hunfolds⟩, ⟨_, _, _, hrun, rfl, rfl⟩, program, hcode, hview, hleft⟩

end Dispatch
end Plugboard
