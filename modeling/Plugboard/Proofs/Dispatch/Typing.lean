import Plugboard.Proofs.Dispatch.Veto
import Plugboard.Proofs.Registry.Fitting

/-!
# Handlers get points of their kind

Handlers and queued calls check the kind of the point that they are given, and so does the
dispatcher before it hands a call to the queue.  A dispatch over a registry that was built in
the usual way never fails these checks: code outside that stops at the first handler or call
of another kind cannot be told from code that does not.
-/

namespace Plugboard

open Engine

variable {α β : Type}

/-- Programs that begin alike and go on alike from wherever the beginning comes to are alike. -/
theorem Engine.run_bind_congr {first : EngineM α} {next other : α → EngineM β} {before : Engine}
    (hnext : ∀ given middle, Runs first before given middle →
      (next given).run.run middle = (other given).run.run middle) :
    (first >>= next).run.run before = (first >>= other).run.run before := by
  rw [run_bind, run_bind]
  split
  · rename_i given middle hfirst
    exact hnext given middle hfirst
  · rfl

/-! ## Queued calls -/

/-- The handler of the call accepts its payload, of which copies can be made. -/
structure QueuedCall.Fits {ρ : Type} (call : QueuedCall ρ) (kind : PointKind) : Prop where
  accepts : call.handler.accepts = kind
  payload : call.payload.kind = kind
  copies : call.copies = kind

/-- Runs a handler on what a point of the kind that it accepts holds. -/
def Handler.runBody (powers : Powers) (handler : Handler Behaviour) (body : PointBody) :
    EngineM (PointBody × HandlerResult) := do
  let (left, outcome) ← (handler.react body).run powers handler.serial
  modify fun engine =>
    { engine with
      runs := engine.runs ++ [⟨handler.id, engine.time - engine.dispatchedAt, outcome⟩] }
  return (left, outcome)

/-- On a point of the kind that it accepts, a handler checks nothing in effect. -/
theorem Handler.run_eq_runBody (powers : Powers) {handler : Handler Behaviour} {point : Point}
    (haccepts : handler.accepts = point.kind) :
    handler.run powers point = do
      let (body, outcome) ← handler.runBody powers point.body
      return ({ point with body }, outcome) := by
  rw [Handler.run, if_pos haccepts, Handler.runBody]
  simp only [bind_assoc, pure_bind]

/-- A call that fits runs its handler on the payload, which is not refused. -/
theorem QueuedCall.run_eq_runBody (powers : Powers) {call : QueuedCall Behaviour}
    {kind : PointKind} (hfits : call.Fits kind) :
    call.run powers = do return (← call.handler.runBody powers call.payload.body).2 := by
  have hcopy : call.copy? = some call.payload := by
    rw [QueuedCall.copy?, if_pos (hfits.payload.trans hfits.copies.symm)]
  have haccepts : call.handler.accepts = call.payload.kind :=
    hfits.accepts.trans hfits.payload.symm
  rw [QueuedCall.run, hcopy]
  simp only [Handler.run_eq_runBody powers haccepts, bind_assoc, pure_bind]

/-! ## Runners -/

namespace Runner

/-- Running a handler does not change the kind of the point. -/
def KeepsKinds (runner : Runner) : Prop :=
  ∀ {handler point before left outcome after},
    Runs (runner.run handler point) before (left, outcome) after → left.kind = point.kind

/-- The runner that stops at once where a handler or a call is not for points of the kind. -/
def guarded (runner : Runner) (kind : PointKind) (abort : Abort) : Runner :=
  { runner with
    run := fun handler point =>
      if handler.accepts = kind ∧ point.kind = kind then runner.run handler point
      else throw abort
    enqueue := fun call =>
      if call.handler.accepts = kind ∧ call.payload.kind = kind ∧ call.copies = kind then
        runner.enqueue call
      else throw abort }

end Runner

/-- Whatever code can ask for, running it keeps the kinds of points. -/
theorem Powers.runner_keepsKinds (powers : Powers) : powers.runner.KeepsKinds := by
  intro handler point before left outcome after hrun
  change Runs (Handler.run powers handler point) before (left, outcome) after at hrun
  rw [Handler.run] at hrun
  split at hrun
  · obtain ⟨⟨body, given⟩, middle, -, hrun⟩ := runs_bind.mp hrun
    rw [runs_modify_then, runs_pure] at hrun
    rw [(Prod.mk.inj hrun.1).1]
  · rw [runs_pure] at hrun
    rw [(Prod.mk.inj hrun.1).1]

namespace Dispatch

variable {runner : Runner} {plan : DispatchPlan} {entry : Entry Behaviour}
  {entries : List (Entry Behaviour)} {kind : PointKind} {point : Point} {before : Engine}
  {abort : Abort}

/-! ## Guarded visits -/

/-- The handler that is found for a fitting entry accepts the points of the kind. -/
theorem Sought.accepts {handler : Handler Behaviour} {after : Engine}
    (hsought : Sought runner kind entry before (.ok handler) after) (hfits : entry.Fits kind) :
    handler.accepts = kind := by
  cases hsought with
  | live hlive => exact hfits.accepts handler hlive
  | resolved hdeferred hlookup haccepts => exact haccepts

theorem offer_guarded {handler : Handler Behaviour} {queuePlan : QueuePlan}
    (haccepts : handler.accepts = kind) (hcopies : queuePlan.copies = kind)
    (hkind : point.kind = kind) :
    offer (runner.guarded kind abort) handler queuePlan point =
      offer runner handler queuePlan point := by
  have henqueue (settings : DispatchSettings) :
      (runner.guarded kind abort).enqueue (callOf settings handler queuePlan point) =
        runner.enqueue (callOf settings handler queuePlan point) :=
    if_pos ⟨haccepts, hkind, hcopies⟩
  simp only [offer, henqueue]

theorem invoke_guarded {handler : Handler Behaviour} (haccepts : handler.accepts = kind)
    (hkind : point.kind = kind) :
    invoke (runner.guarded kind abort) entry handler point = invoke runner entry handler point := by
  have hrun : (runner.guarded kind abort).run handler point = runner.run handler point :=
    if_pos ⟨haccepts, hkind⟩
  simp only [invoke, hrun]

/-- Among entries that fit, what is met is the same under guard. -/
theorem encounter_guarded (hfits : entry.Fits kind) (hkind : point.kind = kind) :
    (encounter (runner.guarded kind abort) entry point).run.run before =
      (encounter runner entry point).run.run before := by
  apply run_bind_congr
  intro engine middle _
  split
  · rfl
  · split
    · rfl
    · apply run_bind_congr
      intro found ready hfound
      cases found with
      | error error => rfl
      | ok handler =>
          rw [← hkind] at hfits
          have haccepts := (sought_of_runs hfound).accepts hfits
          rw [hkind] at haccepts hfits
          cases hqueue : entry.queue with
          | none =>
              dsimp only
              rw [invoke_guarded haccepts hkind]
          | some queuePlan =>
              have hcopies := hfits.copies queuePlan hqueue
              simp only [handOver, offer_guarded haccepts hcopies hkind]

theorem visit_guarded (hfits : entry.Fits kind) (hkind : point.kind = kind) :
    (visit (runner.guarded kind abort) plan entry point).run.run before =
      (visit runner plan entry point).run.run before := by
  rw [visit, visit, run_bind, run_bind, encounter_guarded hfits hkind]

/-- A visit leaves a point of the kind that it found. -/
theorem Meets.kind_left {met : Encounter} {left : Point} {after : Engine}
    (hmeets : Meets runner entry point before met left after) (hkeeps : runner.KeepsKinds) :
    left.kind = point.kind := by
  cases hmeets with
  | invoked hinvokes => exact (kind_vetoed _ _ _ _).trans (hkeeps hinvokes.runs)
  | _ => rfl

/-- Among entries that fit, all visits are the same under guard. -/
theorem tour_guarded (hkeeps : runner.KeepsKinds) (hfits : ∀ entry ∈ entries, entry.Fits kind)
    (hkind : point.kind = kind) :
    (tour (runner.guarded kind abort) plan entries point).run.run before =
      (tour runner plan entries point).run.run before := by
  induction entries generalizing point before with
  | nil => rfl
  | cons entry rest ih =>
      obtain ⟨hentry, hrest⟩ := List.forall_mem_cons.mp hfits
      have hvisit : ∀ engine, (visit (runner.guarded kind abort) plan entry point).run.run engine =
          (visit runner plan entry point).run.run engine :=
        fun _ => visit_guarded hentry hkind
      rw [tour, tour, run_bind, hvisit, ← run_bind]
      apply run_bind_congr
      rintro ⟨step, left⟩ middle hstep
      obtain ⟨leg, hhappens, rfl, rfl, -, -, rfl, -⟩ := exists_leg hstep
      have hleft := (hhappens.meets.kind_left hkeeps).trans hkind
      cases step with
      | stop record interruptedBy => rfl
      | abort record error => rfl
      | proceed record =>
          dsimp only
          rw [run_bind, run_bind, ih hrest hleft]

theorem tellAll_guarded (listeners : List Listener) :
    tellAll (runner.guarded kind abort) point listeners = tellAll runner point listeners := by
  induction listeners with
  | nil => rfl
  | cons listener rest ih =>
      rw [tellAll, tellAll, ih]
      rfl

theorem conclude_guarded (entered : PointKind) (count : Nat) (tour : Tour) :
    conclude (runner.guarded kind abort) plan entered count tour =
      conclude runner plan entered count tour := by
  simp only [conclude, notifyOf, notify, tellAll_guarded]

/-- A dispatch on a registry that was built cannot be told from one under guard. -/
theorem run_dispatch_guarded (hkeeps : runner.KeepsKinds) (hbuilt : before.registry.Built)
    (plan : DispatchPlan) (point : Point) (abort : Abort) :
    (dispatch (runner.guarded point.kind abort) plan point).run.run before =
      (dispatch runner plan point).run.run before := by
  apply run_bind_congr
  intro _ logged hlogged
  rw [runs_log] at hlogged
  apply run_bind_congr
  intro engine middle hengine
  obtain ⟨-, rfl⟩ := runs_get.mp hengine
  split
  · rfl
  · apply run_bind_congr
    intro entries viewed hview
    obtain ⟨rfl, -⟩ := runs_view.mp hview
    have hfits : ∀ entry ∈ middle.registry.view point.kind, entry.Fits point.kind := by
      intro entry hentry
      rw [hlogged, registry_record] at hentry
      exact hbuilt.fits_of_mem_view hentry
    split
    · rfl
    · rw [run_bind, run_bind, tour_guarded hkeeps hfits (kind_modifyInterruption point _)]
      simp only [conclude_guarded]

/-! ## Visits of a dispatch -/

/-- The dispatch comes to the entry: it took the view of the kind, the visits to the entries
before went on, and they left this point and this engine. -/
inductive GetsTo (runner : Runner) (plan : DispatchPlan) (point : Point) (before : Engine) :
    Entry Behaviour → Point → Engine → Prop where
  | after {early : List Leg} {entry : Entry Behaviour} {rest : List (Entry Behaviour)}
      {arrived : Point} {reached : Engine} (hheard : before.isSilenced = false)
      (hview : before.registry.view point.kind = early.map Leg.entry ++ entry :: rest)
      (hproceeds : ∀ leg ∈ early, leg.Proceeds plan)
      (htrail : Trail runner plan (opened before point.kind)
        (point.modifyInterruption fun _ => .fresh) early reached arrived) :
      GetsTo runner plan point before entry arrived reached

/-- Offers a copy of the point to the queue whatever the kind of the copies. -/
def offerUnchecked (runner : Runner) (handler : Handler Behaviour) (plan : QueuePlan)
    (point : Point) : EngineM (Except QueueError Unit) := do
  let engine ← get
  if engine.queueLink = .none then return .error (.notConfigured handler.id)
  else runner.enqueue (callOf engine.settings handler plan point)

theorem offer_eq_offerUnchecked {queuePlan : QueuePlan} (handler : Handler Behaviour)
    (hcopies : queuePlan.copies = point.kind) :
    offer runner handler queuePlan point = offerUnchecked runner handler queuePlan point := by
  have hchecked : ¬ point.kind ≠ queuePlan.copies := fun hne => hne hcopies.symm
  simp only [offer, offerUnchecked, if_neg hchecked]

/-- Whatever the visit has to do with is for points of the kind: the point and the entry, a
handler that is found, which is run as if it did not check, and a call made for the queue, for
which nothing is refused. -/
structure OfKind (powers : Powers) (kind : PointKind) (entry : Entry Behaviour) (arrived : Point)
    (reached : Engine) : Prop where
  arrives : arrived.kind = kind
  registered : entry.Fits kind
  handler : ∀ {handler ready}, Reaches powers.runner entry arrived reached handler ready →
    handler.accepts = kind ∧
      handler.run powers arrived = do
        let (body, outcome) ← handler.runBody powers arrived.body
        return ({ arrived with body }, outcome)
  call : ∀ {handler ready queuePlan}, Reaches powers.runner entry arrived reached handler ready →
    entry.queue = some queuePlan →
      (∀ settings, (callOf settings handler queuePlan arrived).Fits kind) ∧
        offer powers.runner handler queuePlan arrived =
          offerUnchecked powers.runner handler queuePlan arrived

/-- Visits leave a point of the kind that they began with. -/
theorem Trail.kind_eq {legs : List Leg} {left : Point} {after : Engine}
    (htrail : Trail runner plan before point legs after left) (hkeeps : runner.KeepsKinds) :
    left.kind = point.kind := by
  induction htrail with
  | here engine point => rfl
  | visit hhappens hrest ih => exact ih.trans (hhappens.meets.kind_left hkeeps)

/-- Whatever a dispatch comes to is of the kind of its point. -/
theorem GetsTo.ofKind {powers : Powers} {arrived : Point} {reached : Engine}
    (hgets : GetsTo powers.runner plan point before entry arrived reached)
    (hbuilt : before.registry.Built) : OfKind powers point.kind entry arrived reached := by
  cases hgets with
  | after hheard hview hproceeds htrail =>
      have hmember : entry ∈ before.registry.view point.kind := by
        rw [hview]
        exact List.mem_append_right _ List.mem_cons_self
      have hfits := hbuilt.fits_of_mem_view hmember
      have harrived := (htrail.kind_eq powers.runner_keepsKinds).trans
        (kind_modifyInterruption point _)
      rw [← harrived] at hfits ⊢
      refine ⟨rfl, hfits, ?_, ?_⟩
      · intro handler ready hreaches
        have haccepts := hreaches.sought.accepts hfits
        exact ⟨haccepts, Handler.run_eq_runBody powers haccepts⟩
      · intro handler ready queuePlan hreaches hqueue
        have hcopies := hfits.copies queuePlan hqueue
        have haccepts := hreaches.sought.accepts hfits
        exact ⟨fun settings => ⟨haccepts, rfl, hcopies⟩, offer_eq_offerUnchecked handler hcopies⟩

end Dispatch
end Plugboard
