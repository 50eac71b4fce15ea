import Plugboard.Proofs.Engine.Written

/-!
# Silence

An engine is silenced by a switch and by scopes.  The switch is as it was set last, the scopes are
counted, and neither touches the other: so at every moment of a program the engine is silenced if a
scope is open or the switch was set to silence last, however scopes, switches and stops are nested.
-/

namespace Plugboard

open Engine

/-! ## Switches -/

def Deed.switch? : Deed → Option Bool
  | .silenceOn => some true
  | .resume => some false
  | _ => none

theorem Deed.onSilenced_eq (deed : Deed) (silenced : Bool) :
    deed.onSilenced silenced = deed.switch?.getD silenced := by
  cases deed <;> rfl

namespace Trace

/-- What silence was switched to last. -/
def lastSwitch? (trace : List Moment) : Option Bool :=
  (trace.filterMap fun moment => moment.deed.switch?).getLast?

def switched (silenced : Bool) (trace : List Moment) : Bool :=
  trace.foldl (fun silenced moment => moment.deed.onSilenced silenced) silenced

theorem switched_append (silenced : Bool) (first second : List Moment) :
    switched silenced (first ++ second) = switched (switched silenced first) second :=
  List.foldl_append

theorem switched_within (silenced : Bool) (scope : OpenScope) (trace : List Moment) :
    switched silenced (trace.map (Moment.within scope)) = switched silenced trace := by
  rw [switched, List.foldl_map]
  rfl

/-- The switch is as it was set last. -/
theorem switched_eq (silenced : Bool) (trace : List Moment) :
    switched silenced trace = (lastSwitch? trace).getD silenced := by
  induction trace using List.reverseRecOn with
  | nil => rfl
  | append_singleton earlier moment ih =>
      have hlast : lastSwitch? (earlier ++ [moment]) =
          moment.deed.switch?.or (lastSwitch? earlier) := by
        rw [lastSwitch?, List.filterMap_append, List.getLast?_append]
        cases hswitch : moment.deed.switch? <;> simp [lastSwitch?, hswitch]
      rw [switched_append, hlast]
      change moment.deed.onSilenced (switched silenced earlier) = _
      rw [Deed.onSilenced_eq, ih]
      cases moment.deed.switch? <;> rfl

/-- At each moment the depth counts the open scopes that silence, and the switch is as it was set
last. -/
def CountsSilence (depth : Nat) : Bool → List Moment → Prop
  | _, [] => True
  | silenced, moment :: later =>
      moment.engine.silenceDepth = depth + moment.scopes.count .silence ∧
      moment.engine.silenced = moment.deed.onSilenced silenced ∧
      CountsSilence depth (moment.deed.onSilenced silenced) later

theorem countsSilence_append {depth : Nat} {silenced : Bool} {first second : List Moment} :
    CountsSilence depth silenced (first ++ second) ↔
      CountsSilence depth silenced first ∧
        CountsSilence depth (switched silenced first) second := by
  induction first generalizing silenced with
  | nil => exact (and_iff_right trivial).symm
  | cons moment later ih =>
      rw [List.cons_append, CountsSilence, CountsSilence, ih, and_assoc, and_assoc]
      rfl

/-- A scope around everything counts with all moments. -/
theorem CountsSilence.within {depth : Nat} {silenced : Bool} {trace : List Moment}
    (scope : OpenScope) (hcounts : CountsSilence (depth + [scope].count .silence) silenced trace) :
    CountsSilence depth silenced (trace.map (Moment.within scope)) := by
  induction trace generalizing silenced with
  | nil => exact trivial
  | cons moment later ih =>
      obtain ⟨hdepth, hsilenced, hlater⟩ := hcounts
      refine ⟨?_, hsilenced, ih hlater⟩
      rw [Moment.within, List.count_append, hdepth]
      omega

end Trace

open Trace

/-! ## Scopes -/

theorem Scope.silenceDepth_openOn (scope : Scope) (engine : Engine) :
    (scope.openOn engine).silenceDepth =
      engine.silenceDepth + [scope.opened engine].count .silence := by
  cases scope <;> rfl

theorem Scope.silenced_openOn (scope : Scope) (engine : Engine) :
    (scope.openOn engine).silenced = engine.silenced := by
  cases scope <;> rfl

theorem OpenScope.silenceDepth_close (scope : OpenScope) (engine : Engine) :
    (scope.close engine).silenceDepth = engine.silenceDepth - [scope].count .silence := by
  cases scope <;> rfl

theorem OpenScope.silenced_close (scope : OpenScope) (engine : Engine) :
    (scope.close engine).silenced = engine.silenced := by
  cases scope <;> rfl

/-- Along a course the open scopes are counted, and in the end the count is what it was. -/
theorem Course.countsSilence {before after : Engine} {trace : List Moment}
    (hcourse : Course before trace after) :
    CountsSilence before.silenceDepth before.silenced trace ∧
      after.silenceDepth = before.silenceDepth ∧
      after.silenced = switched before.silenced trace := by
  induction hcourse with
  | single hdoes =>
      exact ⟨⟨hdoes.silenceDepth, hdoes.silenced, trivial⟩, hdoes.silenceDepth, hdoes.silenced⟩
  | @inScope scope before ended trace hbody ih =>
      obtain ⟨hcounts, hdepth, hsilenced⟩ := ih
      rw [scope.silenceDepth_openOn, scope.silenced_openOn] at hcounts
      rw [scope.silenceDepth_openOn] at hdepth
      rw [scope.silenced_openOn] at hsilenced
      have hclosed : ((scope.opened before).close ended).silenceDepth = before.silenceDepth := by
        rw [OpenScope.silenceDepth_close, hdepth, Nat.add_sub_cancel]
      have hleft : ((scope.opened before).close ended).silenced =
          switched before.silenced (trace.map (Moment.within (scope.opened before))) := by
        rw [OpenScope.silenced_close, hsilenced, switched_within]
      refine ⟨⟨scope.silenceDepth_openOn before, scope.silenced_openOn before, ?_⟩, hclosed, ?_⟩
      · exact countsSilence_append.mpr ⟨hcounts.within _, hclosed, hleft, trivial⟩
      · change _ = switched before.silenced (trace.map _ ++ [_])
        rw [hleft, switched_append]
        rfl
  | append hfirst hsecond ihfirst ihsecond =>
      obtain ⟨hcounts, hdepth, hsilenced⟩ := ihfirst
      obtain ⟨hlater, hend, hswitched⟩ := ihsecond
      rw [hdepth, hsilenced] at hlater
      refine ⟨countsSilence_append.mpr ⟨hcounts, hlater⟩, hend.trans hdepth, ?_⟩
      rw [hswitched, hsilenced, switched_append]

/-- At every moment of a program the engine is silenced exactly if a scope is open or silence was
switched on last, be it by the program or before it. -/
theorem Program.isSilenced_at {α : Type} {program : Program α} {before : Engine}
    {earlier later : List Moment} {moment : Moment}
    (htrace : program.trace before = earlier ++ moment :: later) :
    moment.engine.silenceDepth = before.silenceDepth + moment.scopes.count .silence ∧
    (moment.engine.isSilenced = true ↔
      0 < before.silenceDepth ∨ .silence ∈ moment.scopes ∨
        (lastSwitch? (earlier ++ [moment])).getD before.silenced = true) := by
  obtain ⟨hcounts, -, -⟩ := (program.course before).countsSilence
  rw [htrace] at hcounts
  obtain ⟨hdepth, hsilenced, -⟩ := (countsSilence_append.mp hcounts).2
  refine ⟨hdepth, ?_⟩
  have hswitched : moment.engine.silenced =
      (lastSwitch? (earlier ++ [moment])).getD before.silenced := by
    rw [← switched_eq, switched_append]
    exact hsilenced
  rw [isSilenced, hdepth, hswitched, Bool.or_eq_true, decide_eq_true_iff,
    Nat.add_pos_iff_pos_or_pos, List.count_pos_iff]
  tauto

end Plugboard
