import Plugboard.Proofs.Data.Table
import Plugboard.Proofs.Dispatch.Completion
import Plugboard.Proofs.Dispatch.Endings
import Plugboard.Proofs.Engine.Silence

/-!
# Dispatches and silence

A dispatch looks at the silence where it begins and nowhere else.  One that begins in silence
leaves everything as it is and answers that nothing was to be done; one that has begun is carried
out, whatever is silenced in the meantime, and tells the listeners.
-/

namespace Plugboard

open Engine

namespace Dispatch

/-! ## Dispatches that begin in silence -/

/-- While the engine is silenced a dispatch gives an empty result and leaves its point as it was. -/
theorem runs_dispatch_silenced (runner : Runner) (plan : DispatchPlan) (point : Point)
    {before : Engine} (hsilenced : before.isSilenced = true) :
    Runs (dispatch runner plan point) before (point, .ok (.empty point.kind.name))
      (before.recordAll (silentEvents point.kind)) :=
  runs_dispatch.mpr (.silenced hsilenced)

/-- The point of a request: the one kept under its slot, or a new one. -/
def pointOf (request : DispatchRequest) (engine : Engine) : Point :=
  ⟨request.kind,
    (request.slot.bind fun slot => engine.kept.get? (request.kind, slot)).getD request.body⟩

def silentAnswer (request : DispatchRequest) (point : Point) : Answer :=
  match request.mode with
  | .plain | .silent => .completed point
  | .interruptible | .interruptibleSilent => .verdict true point
  | .results =>
    .results (.empty request.kind.name)
      (request.lookup.map fun ids => ids.map fun _ => ⟨none, none, none⟩)
      (request.strategy.map fun strategy => strategy.aggregate []) point
  | .aggregate =>
    match request.strategy with
    | some strategy => .aggregated (strategy.aggregate []) point
    | none => .unsupported

theorem answerResult_empty (request : DispatchRequest) (point : Point) :
    Powers.answerResult request (.empty request.kind.name) point = silentAnswer request point := by
  rw [Powers.answerResult, silentAnswer]
  cases request.mode <;> rfl

def taken (request : DispatchRequest) (engine : Engine) : Engine :=
  { engine with
    kept := match request.slot with
      | none => engine.kept
      | some slot => engine.kept.remove (request.kind, slot) }

def keeping (request : DispatchRequest) (point : Point) (engine : Engine) : Engine :=
  { engine with
    kept := match request.slot with
      | none => engine.kept
      | some slot => engine.kept.set (request.kind, slot) point.body }

theorem runs_takePoint {request : DispatchRequest} {before after : Engine} {point : Point} :
    Runs (Powers.takePoint request) before point after ↔
      point = pointOf request before ∧ after = taken request before := by
  rw [Powers.takePoint, pointOf, taken]
  cases request.slot with
  | none => exact runs_pure
  | some slot =>
      simp only [runs_get_then, Option.bind_some]
      cases hkept : before.kept.get? (request.kind, slot) with
      | none =>
          rw [Table.remove_of_get?_eq_none hkept]
          exact runs_pure
      | some body =>
          simp only [runs_modify_then, runs_pure]
          exact Iff.rfl

theorem runs_keepPoint {request : DispatchRequest} {point : Point} {before after : Engine}
    {value : Unit} :
    Runs (Powers.keepPoint request point) before value after ↔
      after = keeping request point before := by
  rw [Powers.keepPoint, keeping]
  cases request.slot with
  | none => simp
  | some slot => exact runs_modify

theorem record_keeping (request : DispatchRequest) (point : Point) (engine : Engine)
    (event : Event) :
    (keeping request point engine).record event = keeping request point (engine.record event) := by
  cases event with
  | log entry =>
      simp only [record, keeping]
      split
      · split <;> rfl
      · rfl
  | _ => rfl

theorem recordAll_keeping (request : DispatchRequest) (point : Point) (engine : Engine)
    (events : List LogEvent) :
    (keeping request point engine).recordAll events =
      keeping request point (engine.recordAll events) := by
  induction events generalizing engine with
  | nil => rfl
  | cons event events ih => rw [recordAll_cons, recordAll_cons, record_keeping, ih]

/-- The engine with the point of a request kept as it is, and the time of the request noted. -/
def requested (request : DispatchRequest) (engine : Engine) : Engine :=
  keeping request (pointOf request engine)
    (taken request { engine with dispatchedAt := engine.time })

/-- Under the slot of a request its point is kept as it was, and other points are not touched. -/
theorem get?_requested (request : DispatchRequest) (engine : Engine) (key : PointKind × String) :
    (requested request engine).kept.get? key =
      if request.slot = some key.2 ∧ request.kind = key.1 then some (pointOf request engine).body
      else engine.kept.get? key := by
  rw [requested, keeping, taken]
  cases hslot : request.slot with
  | none => simp
  | some slot =>
      by_cases hkey : (request.kind, slot) = key
      · subst hkey
        simp
      · have hother : ¬ (some slot = some key.2 ∧ request.kind = key.1) := by
          rintro ⟨hsame, hkind⟩
          exact hkey (Prod.ext hkind (Option.some.inj hsame))
        rw [if_neg hother]
        dsimp only
        rw [Table.get?_set_of_ne (Ne.symm hkey), Table.get?_remove_of_ne (Ne.symm hkey)]

/-- While the engine is silenced a request is answered without anything being done to its point. -/
theorem runs_performDispatch_silenced (powers : Powers) (request : DispatchRequest)
    {before : Engine} (hsilenced : before.isSilenced = true) :
    Runs (Powers.performDispatch powers request) before
      (silentAnswer request (pointOf request before))
      ((requested request before).recordAll (silentEvents request.kind)) := by
  let started : Engine := taken request { before with dispatchedAt := before.time }
  have htaken : Runs (Powers.takePoint request) { before with dispatchedAt := before.time }
      (pointOf request before) started := runs_takePoint.mpr ⟨rfl, rfl⟩
  have hdispatch (plan : DispatchPlan) :
      Runs (dispatch powers.runner plan (pointOf request before)) started
        (pointOf request before, .ok (.empty request.kind.name))
        (started.recordAll (silentEvents request.kind)) :=
    runs_dispatch_silenced _ _ _ hsilenced
  rw [Powers.performDispatch, runs_modify_then]
  apply htaken.bind
  rw [runs_get_then]
  apply (hdispatch _).bind
  rw [requested, recordAll_keeping]
  have hkept : Runs (Powers.keepPoint request (pointOf request before))
      (started.recordAll (silentEvents request.kind)) () _ := runs_keepPoint.mpr rfl
  apply hkept.bind
  rw [answerResult_empty]
  exact runs_pure.mpr ⟨rfl, rfl⟩

theorem runs_propagateBlank_silenced (powers : Powers) (kind : PointKind) (strict : Bool)
    {before : Engine} (hsilenced : before.isSilenced = true) :
    Runs (Powers.propagateBlank powers kind strict) before (.ok (.empty kind.name))
      (before.recordAll (silentEvents kind)) := by
  rw [Powers.propagateBlank, runs_get_then]
  apply (runs_dispatch_silenced _ _ _ hsilenced).bind
  exact runs_pure.mpr ⟨rfl, rfl⟩

/-- At every moment of a program the engine is silenced exactly if a scope is open or silence was
switched on last, and a program, stopped or not, leaves the count of open scopes as it was; a scope
is counted once until it ends.  A dispatch that begins in silence, by whatever entry, succeeds with
nothing done; any other is carried out, and comes to its end if what it runs for others does.
Commands are such programs, and scopes are made of them as programs are. -/
theorem silence_decides_at_start :
    (∀ {α : Type} (program : Program α) (before : Engine),
      (∀ earlier moment later, program.trace before = earlier ++ moment :: later →
        moment.engine.silenceDepth = before.silenceDepth + moment.scopes.count .silence ∧
        (moment.engine.isSilenced = true ↔
          0 < before.silenceDepth ∨ .silence ∈ moment.scopes ∨
            (Trace.lastSwitch? (earlier ++ [moment])).getD before.silenced = true)) ∧
      (program.after before).silenceDepth = before.silenceDepth ∧
      (program.after before).silenced =
        (Trace.lastSwitch? (program.trace before)).getD before.silenced ∧
      (program.after (Scope.silence.openOn before)).silenceDepth = before.silenceDepth + 1) ∧
    (∀ (powers : Powers) (before : Engine), before.isSilenced = true →
      (∀ request, Runs (Powers.performDispatch powers request) before
        (silentAnswer request (pointOf request before))
        ((requested request before).recordAll (silentEvents request.kind))) ∧
      (∀ request key, (requested request before).kept.get? key =
        if request.slot = some key.2 ∧ request.kind = key.1 then
          some (pointOf request before).body
        else before.kept.get? key) ∧
      (∀ kind strict, Runs (Powers.propagateBlank powers kind strict) before
        (.ok (.empty kind.name)) (before.recordAll (silentEvents kind)))) ∧
    (∀ (runner : Runner) (plan : DispatchPlan) (point : Point) (before : Engine),
      before.isSilenced = false →
      (∃ legs toured left, Unfolds runner plan point before legs toured left
        ((dispatch runner plan point).run.run before).1
        ((dispatch runner plan point).run.run before).2) ∧
      (runner.Completes → ∃ left outcome after,
        Runs (dispatch runner plan point) before (left, outcome) after)) ∧
    ∀ (powers : Powers) (commands : List (Command Behaviour)) (nesting fuel depth : Nat),
      Powers.performWith powers (.silence commands) =
        Scope.silence.around (Powers.performAll powers commands) >>= (fun answers =>
          pure (.list answers)) ∧
      Engine.Written (Powers.performAll (Powers.within nesting fuel depth) commands) := by
  refine ⟨fun program before => ⟨fun earlier moment later htrace => program.isSilenced_at htrace,
      ?_, ?_, ?_⟩,
    fun powers before hsilenced =>
      ⟨fun request => runs_performDispatch_silenced powers request hsilenced,
        fun request key => get?_requested request before key,
        fun kind strict => runs_propagateBlank_silenced powers kind strict hsilenced⟩,
    fun runner plan point before hsounds =>
      ⟨exists_unfolds runner plan point before, fun hrunner => ?_⟩,
    fun powers commands nesting fuel depth => ⟨Powers.performWith_silence powers commands,
      Powers.written_performAll (Powers.written_within nesting fuel depth) commands⟩⟩
  · exact (program.course before).countsSilence.2.1
  · rw [← Trace.switched_eq]
    exact (program.course before).countsSilence.2.2
  · exact (program.course (Scope.silence.openOn before)).countsSilence.2.1
  · obtain ⟨⟨left, outcome⟩, after, hrun⟩ := dispatch_completes hrunner point before
    exact ⟨left, outcome, after, hrun⟩

namespace Sample

/-- A handler that silences the engine before its dispatch is over. -/
def hush : Handler Behaviour :=
  { id := "hush", accepts := kind, serial := 0
    react := fun body => .operate .silenceOn fun _ => .finish body (.ok .null) }

/-- An engine with a handler that silences it, another one after it, and a listener. -/
def hushed : Engine :=
  { Engine.new .standard 0 with
    registry := ((Registry.empty.insert (.live hush 0)).1.insert
      (.live (handler "mail" (.ok .null)) 1)).1
    listeners := [(kind, [⟨kind, "audit", none⟩])] }

def idle : Runner :=
  ⟨fun _ point => pure (point, .ok .null), fun _ => pure none, fun _ => pure (.ok ()),
    fun _ _ => pure ()⟩

end Sample

/-- A dispatch silenced by its first handler visits the second all the same; the next one does
nothing with its point; and a scope keeps silence on whatever is resumed in it. -/
theorem silence_decides_at_start_of_sample :
    (∃ legs toured left given result after,
      Unfolds (Powers.within 2 2 0).runner Sample.plan (.blank Sample.kind) Sample.hushed legs toured
        left (.ok (given, .ok result)) after ∧
      result.visits.length = 2 ∧ after.isSilenced = true ∧
      ∀ request, Runs (Powers.performDispatch (Powers.within 2 2 0) request) after
        (silentAnswer request (pointOf request after))
        ((requested request after).recordAll (silentEvents request.kind))) ∧
    (∃ left outcome after, Runs (dispatch Sample.idle Sample.plan (.blank Sample.kind))
      Sample.hushed (left, outcome) after) ∧
    ∃ earlier moment later,
      (Program.inScope .silence (.act .resume)).trace Sample.hushed =
        earlier ++ moment :: later ∧
      moment.deed = .resume ∧ moment.engine.isSilenced = true := by
  obtain ⟨hprogram, hsilenced, hsounds, -⟩ := silence_decides_at_start
  refine ⟨?_, ?_, ?_⟩
  · have hunfolds := (hsounds (Powers.within 2 2 0).runner Sample.plan (.blank Sample.kind)
      Sample.hushed rfl).1
    have hrun : Runs (dispatch (Powers.within 2 2 0).runner Sample.plan (.blank Sample.kind))
        Sample.hushed (_, .ok _) _ := rfl
    rw [show (dispatch _ _ _).run.run Sample.hushed = _ from hrun] at hunfolds
    obtain ⟨legs, toured, left, hunfolds⟩ := hunfolds
    exact ⟨legs, toured, left, _, _, _, hunfolds, rfl, rfl, (hsilenced (Powers.within 2 2 0) _ rfl).1⟩
  · have hidle : Sample.idle.Completes :=
      ⟨fun _ _ => completes_pure _, fun _ => completes_pure _, fun _ => completes_pure _,
        fun _ _ => completes_pure _⟩
    exact (hsounds Sample.idle Sample.plan _ Sample.hushed rfl).2 hidle
  · have htrace : (Program.inScope .silence (.act .resume)).trace Sample.hushed =
        [⟨[.silence], .other, _⟩] ++ ⟨[.silence], .resume, _⟩ :: [⟨[], .other, _⟩] := rfl
    have hmoment := (hprogram _ Sample.hushed).1 _ _ _ htrace
    exact ⟨_, _, _, htrace, rfl, hmoment.2.mpr (.inr (.inl (List.mem_singleton_self _)))⟩

end Dispatch
end Plugboard
