import Plugboard.Proofs.Dispatch.Graceful
import Plugboard.Proofs.Dispatch.Silenced
import Plugboard.Proofs.Engine.Subscriptions

/-!
# Who is told

A dispatch that notifies and succeeds tells everyone who listens when its visits are over: each
once, in the order of subscribing, about the point that it gives back.  Who listens is settled
before the first of them is told.  A dispatch that is silent, silenced, or fails is the same
whatever telling a listener would do: it tells nobody.
-/

namespace Plugboard

open Engine

namespace Dispatch

variable {runner : Runner} {plan : DispatchPlan} {point left : Point} {before after : Engine}
  {abort : Abort}

/-! ## Telling -/

/-- Each of the listeners is told about the point once, one after the other. -/
inductive Told (runner : Runner) (point : Point) : List Listener → Engine → Engine → Prop where
  | nobody (engine : Engine) : Told runner point [] engine engine
  | next {listener : Listener} {rest : List Listener} {before middle after : Engine}
      (htell : Runs (runner.tell listener point) before () middle)
      (hrest : Told runner point rest middle after) :
      Told runner point (listener :: rest) before after

/-- Listeners for points of the kind are told, all of them. -/
theorem runs_tellAll {listeners : List Listener}
    (hkinds : ∀ listener ∈ listeners, listener.kind = point.kind) :
    Runs (tellAll runner point listeners) before () after ↔
      Told runner point listeners before after := by
  induction listeners generalizing before with
  | nil =>
      constructor
      · intro hrun
        obtain ⟨-, rfl⟩ := runs_pure.mp hrun
        exact .nobody after
      · intro htold
        cases htold
        exact runs_pure.mpr ⟨rfl, rfl⟩
  | cons listener rest ih =>
      obtain ⟨hkind, hothers⟩ := List.forall_mem_cons.mp hkinds
      rw [tellAll, if_pos hkind]
      constructor
      · intro hrun
        obtain ⟨⟨⟩, middle, htell, hrest⟩ := runs_bind.mp hrun
        exact .next htell ((ih hothers).mp hrest)
      · intro htold
        cases htold with
        | next htell hrest => exact htell.bind ((ih hothers).mpr hrest)

/-- What stops in the middle of telling is a listener for points of the kind, when those before it
were told. -/
theorem stops_tellAll {listeners : List Listener}
    (hstop : Stops (tellAll runner point listeners) before abort after) :
    ∃ early listener rest middle, listeners = early ++ listener :: rest ∧
      Runs (tellAll runner point early) before () middle ∧ listener.kind = point.kind ∧
      Stops (runner.tell listener point) middle abort after := by
  induction listeners generalizing before with
  | nil => exact absurd hstop not_stops_pure
  | cons first others ih =>
      rw [tellAll] at hstop
      by_cases hkind : first.kind = point.kind
      · rw [if_pos hkind] at hstop
        rcases stops_bind.mp hstop with htell | ⟨told, middle, htold, hothers⟩
        · exact ⟨[], first, others, before, rfl, runs_pure.mpr ⟨rfl, rfl⟩, hkind, htell⟩
        · obtain ⟨early, listener, rest, reached, rfl, hearly, hlistener, htell⟩ := ih hothers
          refine ⟨first :: early, listener, rest, reached, rfl, ?_, hlistener, htell⟩
          rw [tellAll, if_pos hkind]
          exact htold.bind hearly
      · rw [if_neg hkind] at hstop
        obtain ⟨early, listener, rest, reached, rfl, hearly, hlistener, htell⟩ := ih hstop
        refine ⟨first :: early, listener, rest, reached, rfl, ?_, hlistener, htell⟩
        rw [tellAll, if_neg hkind]
        exact hearly

/-- Who is told about a point of the kind by a dispatch that has come to this engine. -/
def audience (plan : DispatchPlan) (kind : PointKind) (engine : Engine) : List Listener :=
  if plan.notify && engine.usesBus then Bus.listeners engine.listeners kind else []

/-- A notification tells the audience, and adds nothing to that but an event before it. -/
theorem run_notifyOf (runner : Runner) (plan : DispatchPlan) (kind : PointKind) (point : Point)
    (engine : Engine) :
    ∃ started, started.bare = engine.bare ∧
      (notifyOf runner plan kind point).run.run engine =
        (tellAll runner point (audience plan kind engine)).run.run started := by
  have hget {next : Engine → EngineM Unit} :
      (get >>= next).run.run engine = (next engine).run.run engine := rfl
  rw [notifyOf, hget, audience]
  cases hnotify : plan.notify && engine.usesBus with
  | false => exact ⟨engine, rfl, rfl⟩
  | true =>
      simp only [if_true]
      rw [notify, hget, Bus.listeners]
      cases engine.listeners.get? kind with
      | none => exact ⟨engine, rfl, rfl⟩
      | some listeners => exact ⟨_, bare_record engine _, rfl⟩

/-- Only what telling listeners for points of the kind does matters to a notification. -/
theorem notifyOf_withTell {tell : Listener → Point → EngineM Unit} (plan : DispatchPlan)
    (kind : PointKind) (hsame : plan.notify = true → ∀ listener, listener.kind = point.kind →
      tell listener point = runner.tell listener point) :
    notifyOf { runner with tell } plan kind point = notifyOf runner plan kind point := by
  have htellAll (hsame : ∀ listener, listener.kind = point.kind →
      tell listener point = runner.tell listener point) (listeners : List Listener) :
      tellAll { runner with tell } point listeners = tellAll runner point listeners := by
    induction listeners with
    | nil => rfl
    | cons listener rest ih =>
        rw [tellAll, tellAll, ih]
        by_cases hkind : listener.kind = point.kind
        · simp only [if_pos hkind, hsame listener hkind]
        · rw [if_neg hkind, if_neg hkind]
  unfold notifyOf
  cases hnotify : plan.notify with
  | false => simp only [Bool.false_and, Bool.false_eq_true, if_false]
  | true => simp only [notify, htellAll (hsame hnotify)]

/-! ## The run of a dispatch -/

/-- A dispatch does nothing, or it makes its visits and concludes. -/
theorem run_dispatch (runner : Runner) (plan : DispatchPlan) (point : Point) (before : Engine) :
    (dispatch runner plan point).run.run before =
      if before.isSilenced = true then
        (.ok (point, .ok (.empty point.kind.name)), before.recordAll (silentEvents point.kind))
      else if plan.flags.strict && (before.registry.view point.kind).isEmpty then
        (.ok (point, .error (.unhandled point.kind.name)), opened before point.kind)
      else
        (do
          let tour ← tour runner plan (before.registry.view point.kind)
            (point.modifyInterruption fun _ => .fresh)
          return (tour.point, ← conclude runner plan point.kind
            (before.registry.view point.kind).length tour)).run.run (opened before point.kind) := by
  have hlogged : Runs (log (spanEvent point.kind)) before () _ := runs_log.mpr rfl
  have hget : Runs get (before.record (.log (spanEvent point.kind))) _ _ := runs_get.mpr ⟨rfl, rfl⟩
  rw [dispatch, hlogged.run_then, hget.run_then, isSilenced_record]
  by_cases hsilenced : before.isSilenced = true
  · rw [if_pos hsilenced, if_pos hsilenced]
    rfl
  · have hviewed : Runs (view point.kind) (before.record (.log (spanEvent point.kind))) _ _ :=
      runs_view.mpr ⟨rfl, rfl⟩
    rw [if_neg hsilenced, if_neg hsilenced, hviewed.run_then, registry_record]
    split
    · rfl
    · rfl

/-- What telling a listener does is of no matter to the visits. -/
theorem tour_withTell (runner : Runner) (tell : Listener → Point → EngineM Unit)
    (plan : DispatchPlan) (entries : List (Entry Behaviour)) (point : Point) :
    tour { runner with tell } plan entries point = tour runner plan entries point := by
  induction entries generalizing point with
  | nil => rfl
  | cons entry rest ih =>
      have hvisit : visit { runner with tell } plan entry point = visit runner plan entry point :=
        rfl
      simp only [tour, hvisit, ih]

/-- A dispatch is the same whatever is told to others than the listeners for points of its kind,
and whatever is told at all if it does not notify. -/
theorem run_dispatch_withTell {tell : Listener → Point → EngineM Unit}
    (hkeeps : runner.KeepsKinds) (before : Engine)
    (hsame : plan.notify = true → ∀ left, left.kind = point.kind → ∀ listener,
      listener.kind = point.kind → tell listener left = runner.tell listener left) :
    (dispatch { runner with tell } plan point).run.run before =
      (dispatch runner plan point).run.run before := by
  rw [run_dispatch, run_dispatch, tour_withTell]
  split
  · rfl
  · split
    · rfl
    · apply run_bind_congr
      intro tour toured htour
      obtain ⟨legs, hjourney⟩ := exists_journey htour
      have hkind : tour.point.kind = point.kind :=
        (hjourney.trail.kind_eq hkeeps).trans (kind_modifyInterruption point _)
      have hnotify : notifyOf { runner with tell } plan point.kind tour.point =
          notifyOf runner plan point.kind tour.point := by
        apply notifyOf_withTell
        intro hnotifies listener hlistener
        exact hsame hnotifies _ hkind listener (hlistener.trans hkind)
      simp only [conclude, hnotify]

/-- The dispatch is the same whatever telling a listener does: no listener is told by it. -/
def TellsNobody (runner : Runner) (plan : DispatchPlan) (point : Point) (before : Engine) : Prop :=
  ∀ tell : Listener → Point → EngineM Unit,
    (dispatch { runner with tell } plan point).run.run before =
      (dispatch runner plan point).run.run before

/-- The dispatch is the same whatever telling a listener for points of another kind does: no such
listener is told by it. -/
def TellsNobodyElse (runner : Runner) (plan : DispatchPlan) (point : Point) (before : Engine) :
    Prop :=
  ∀ tell : Listener → Point → EngineM Unit,
    (∀ listener, listener.kind = point.kind → tell listener = runner.tell listener) →
    (dispatch { runner with tell } plan point).run.run before =
      (dispatch runner plan point).run.run before

/-- A silenced engine tells nobody. -/
theorem tellsNobody_of_silenced (hsilenced : before.isSilenced = true) :
    TellsNobody runner plan point before := by
  intro tell
  rw [run_dispatch, run_dispatch, if_pos hsilenced, if_pos hsilenced]

/-- A dispatch that is not to notify tells nobody. -/
theorem tellsNobody_of_silent (hkeeps : runner.KeepsKinds) (hsilent : plan.notify = false) :
    TellsNobody runner plan point before := by
  intro tell
  apply run_dispatch_withTell hkeeps
  intro hnotify
  rw [hsilent] at hnotify
  cases hnotify

/-- A dispatch that fails tells nobody. -/
theorem tellsNobody_of_error {error : DispatchError}
    (hrun : Runs (dispatch runner plan point) before (left, .error error) after) :
    TellsNobody runner plan point before := by
  intro tell
  suffices hother : Runs (dispatch { runner with tell } plan point) before (left, .error error)
      after from hother.trans hrun.symm
  cases runs_dispatch.mp hrun with
  | unhandled hsounds hstrict hempty => exact runs_dispatch.mpr (.unhandled hsounds hstrict hempty)
  | @visits legs tour toured _ _ hsounds hhandled hjourney hconclude =>
      cases herror : tour.error with
      | none =>
          obtain ⟨told, -, houtcome, -⟩ := (runs_conclude_ok herror).mp hconclude
          cases houtcome
      | some raised =>
          obtain ⟨houtcome, hafter⟩ := (runs_conclude_error herror).mp hconclude
          exact runs_dispatch.mpr (.visits hsounds hhandled (hjourney.withTell tell)
            ((runs_conclude_error herror).mpr ⟨houtcome, hafter⟩))

/-- The dispatch has made its visits and told some of the listeners when telling the next one
stops. -/
def StoppedByListener (runner : Runner) (plan : DispatchPlan) (point : Point) (before : Engine)
    (abort : Abort) (after : Engine) : Prop :=
  ∃ legs tour toured started early listener rest middle,
    Journey runner plan (before.registry.view point.kind) (opened before point.kind)
      (point.modifyInterruption fun _ => .fresh) legs tour toured ∧
    tour.error = none ∧ started.bare = toured.bare ∧
    audience plan point.kind toured = early ++ listener :: rest ∧
    Runs (tellAll runner tour.point early) started () middle ∧
    listener.kind = tour.point.kind ∧ Stops (runner.tell listener tour.point) middle abort after

theorem audience_reported (kind : PointKind) (tour : Tour) (engine : Engine) :
    audience plan kind (reported plan kind tour engine) = audience plan kind engine :=
  eq_of_bare_eq (audience plan kind) (fun _ => rfl) (bare_reported plan kind tour engine)

/-- After the visits only a listener stops a dispatch. -/
theorem Journey.stoppedByListener {legs : List Leg} {tour : Tour} {toured : Engine} {count : Nat}
    (hjourney : Journey runner plan (before.registry.view point.kind) (opened before point.kind)
      (point.modifyInterruption fun _ => .fresh) legs tour toured)
    (hstop : Stops (conclude runner plan point.kind count tour) toured abort after) :
    StoppedByListener runner plan point before abort after := by
  obtain ⟨herror, hnotice⟩ := stops_conclude hstop
  obtain ⟨started, hstarted, hsame⟩ := run_notifyOf runner plan point.kind tour.point
    (reported plan point.kind tour toured)
  rw [audience_reported] at hsame
  obtain ⟨early, listener, rest, middle, haudience, hearly, hkind, htell⟩ :=
    stops_tellAll (hsame.symm.trans hnotice)
  exact ⟨legs, tour, toured, started, early, listener, rest, middle, hjourney, herror,
    hstarted.trans (bare_reported plan _ _ _), haudience, hearly, hkind, htell⟩

/-- A dispatch that is stopped tells nobody, unless it is a listener that stops it. -/
theorem tellsNobody_of_stops (hstop : Stops (dispatch runner plan point) before abort after) :
    TellsNobody runner plan point before ∨
      StoppedByListener runner plan point before abort after := by
  have hrun : (dispatch runner plan point).run.run before = (.error abort, after) := hstop
  rw [run_dispatch] at hrun
  split at hrun
  · cases hrun
  · rename_i hsounds
    split at hrun
    · cases hrun
    · rename_i hhandled
      rcases stops_bind.mp hrun with htour | ⟨tour, toured, htour, hrest⟩
      · left
        intro tell
        rw [run_dispatch, run_dispatch, if_neg hsounds, if_neg hsounds, if_neg hhandled,
          if_neg hhandled, tour_withTell]
        apply run_bind_congr
        intro given middle hgiven
        have hclash := hgiven.symm.trans htour
        cases hclash
      · right
        obtain ⟨legs, hjourney⟩ := exists_journey htour
        rcases stops_bind.mp hrest with hconclude | ⟨answer, ended, -, hnone⟩
        · exact hjourney.stoppedByListener hconclude
        · exact absurd hnone not_stops_pure

/-! ## Notifications -/

/-- After its visits the dispatch tells everyone who listens by then, and is over. -/
def TellsEveryone (runner : Runner) (plan : DispatchPlan) (point left : Point) (before : Engine)
    (earlier : List BusOperation) (result : DispatchResult) (after : Engine) : Prop :=
  ∃ legs toured started ended,
    Trail runner plan (opened before point.kind) (point.modifyInterruption fun _ => .fresh)
      legs toured left ∧
    legs.map Leg.entry <+: before.registry.view point.kind ∧
    (∃ during, toured.listeners = Bus.performAll [] (earlier ++ during)) ∧
    started.bare = toured.bare ∧
    (∀ history, toured.listeners = Bus.performAll [] history →
      Told runner left (subscribers point.kind history) started ended) ∧
    after = ended.record (.log
      (completionEvent (before.registry.view point.kind).length result))

/-- A dispatch that succeeds tells everyone who has subscribed since all were unsubscribed last. -/
theorem tellsEveryone_of_ok (hkeeps : runner.KeepsKinds) (htunes : runner.OnlyTunes)
    {earlier : List BusOperation} {result : DispatchResult} (hbus : before.usesBus = true)
    (hearlier : before.listeners = Bus.performAll [] earlier) (hsounds : before.isSilenced = false)
    (hnotify : plan.notify = true)
    (hrun : Runs (dispatch runner plan point) before (left, .ok result) after) :
    TellsEveryone runner plan point left before earlier result after := by
  obtain ⟨legs, tour, toured, told, hjourney, -, rfl, rfl, htold, rfl⟩ :=
    exists_journey_of_ok hsounds hrun
  have htuned : Tuned before toured := by
    have hopened : Tuned before (opened before point.kind) :=
      tuned_of_busPart_eq (untouched_busPart.opened before point.kind)
    have htour := onlyTunes_tour htunes plan (before.registry.view point.kind)
      (point.modifyInterruption fun _ => .fresh) (opened before point.kind)
    rw [show (Dispatch.tour _ _ _ _).run.run _ = (.ok tour, toured) from hjourney.runs] at htour
    exact hopened.trans htour
  obtain ⟨during, hduring⟩ := htuned.listeners
  obtain ⟨started, hstarted, hsame⟩ := run_notifyOf runner plan point.kind tour.point
    (reported plan point.kind tour toured)
  have hbare : started.bare = toured.bare := hstarted.trans (bare_reported plan _ _ _)
  refine ⟨legs, toured, started, told, hjourney.trail, hjourney.entries_isPrefix, ⟨during, ?_⟩,
    hbare, ?_, rfl⟩
  · rw [hduring, hearlier, Bus.performAll_append]
  · intro history hhistory
    have haudience : audience plan point.kind toured = subscribers point.kind history := by
      rw [audience, hnotify, htuned.usesBus, hbus, hhistory]
      exact Bus.listeners_performAll history point.kind
    have hkind : tour.point.kind = point.kind :=
      (hjourney.trail.kind_eq hkeeps).trans (kind_modifyInterruption point _)
    rw [audience_reported, haudience] at hsame
    apply (runs_tellAll _).mp (hsame.symm.trans htold)
    intro listener hlistener
    exact (kind_of_mem_subscribers hlistener).trans hkind.symm

/-! ## Calls -/

def planOf (request : DispatchRequest) (settings : DispatchSettings) : DispatchPlan :=
  let flags := DispatchFlags.ofSettings settings
  { flags := (request.flags.map flags.choose).getD flags
    notify := request.mode.notifies
    strategy := if request.mode = .aggregate then request.strategy.map Strategy.aggregation
      else none }

def begun (request : DispatchRequest) (engine : Engine) : Engine :=
  taken request { engine with dispatchedAt := engine.time }

def answered (request : DispatchRequest) :
    Point × Except DispatchError DispatchResult → EngineM Answer
  | (point, .ok result) => do
    Powers.keepPoint request point
    return Powers.answerResult request result point
  | (point, .error error) =>
    if request.mode.consumesPoint then return .failed error none
    else do
      Powers.keepPoint request point
      return .failed error (some point)

/-- The call is a dispatch with something before it and after it that tells nobody. -/
structure Calls {α : Type} (call : EngineM α) (before : Engine) (powers : Powers)
    (plan : DispatchPlan) (point : Point) (start : Engine)
    (finish : Point × Except DispatchError DispatchResult → EngineM α) : Prop where
  run : call.run.run before = (dispatch powers.runner plan point >>= finish).run.run start
  isSilenced : start.isSilenced = before.isSilenced
  busPart : start.busPart = before.busPart

/-- A request dispatches the point that is kept for it, and keeps it again. -/
theorem calls_performDispatch (powers : Powers) (request : DispatchRequest) (before : Engine) :
    Calls (Powers.performDispatch powers request) before powers (planOf request before.settings)
      (pointOf request before) (begun request before) (answered request) where
  isSilenced := rfl
  busPart := rfl
  run := by
    have hnoted : Runs (modify fun engine : Engine => { engine with dispatchedAt := engine.time })
        before () _ := runs_modify.mpr rfl
    have htaken : Runs (Powers.takePoint request) { before with dispatchedAt := before.time }
        (pointOf request before) (begun request before) := runs_takePoint.mpr ⟨rfl, rfl⟩
    have hget : Runs get (begun request before) _ _ := runs_get.mpr ⟨rfl, rfl⟩
    rw [Powers.performDispatch, hnoted.run_then, htaken.run_then, hget.run_then]
    apply run_bind_congr
    intro given middle _
    obtain ⟨left, outcome⟩ := given
    cases outcome <;> rfl

/-- Propagation dispatches a blank point. -/
theorem calls_propagateBlank (powers : Powers) (kind : PointKind) (strict : Bool)
    (before : Engine) :
    Calls (Powers.propagateBlank powers kind strict) before powers
      ⟨{ DispatchFlags.ofSettings before.settings with strict }, true, none⟩ (.blank kind) before
      (fun given => pure given.2) where
  isSilenced := rfl
  busPart := rfl
  run := by
    have hget : Runs get before _ _ := runs_get.mpr ⟨rfl, rfl⟩
    rw [Powers.propagateBlank, hget.run_then]

def givenBack? : Answer → Option Point
  | .completed point | .verdict _ point | .aggregated _ point | .results _ _ _ point => some point
  | .failed _ point => point
  | _ => none

theorem givenBack?_answerResult {request : DispatchRequest}
    (hfolds : request.mode = .aggregate → request.strategy.isSome = true)
    (result : DispatchResult) (left : Point) :
    givenBack? (Powers.answerResult request result left) = some left := by
  rw [Powers.answerResult]
  cases hmode : request.mode with
  | aggregate =>
      obtain ⟨strategy, hstrategy⟩ := Option.isSome_iff_exists.mp (hfolds hmode)
      rw [hstrategy]
      rfl
  | _ => rfl

/-- A dispatch that notifies, does not begin in silence and comes to a result tells everyone who
subscribed for the kind of its point since all listeners for it were unsubscribed last: each once,
in the order of subscribing, after the last visit, about the point that comes back.  Who subscribes
meanwhile is not told.  Any other dispatch tells nobody, unless a listener stops it, and listeners
for other kinds are told in no case.  What is asked of the dispatcher are such dispatches, and they
notify unless they are asked to be silent. -/
theorem dispatches_notify_once :
    (∀ (nesting fuel depth : Nat) (plan : DispatchPlan) (point : Point) (before : Engine)
        (earlier : List BusOperation),
      before.usesBus = true → before.listeners = Bus.performAll [] earlier →
      let runner := (Powers.within nesting fuel depth).runner
      TellsNobodyElse runner plan point before ∧
      (∀ left result after, before.isSilenced = false → plan.notify = true →
        Runs (dispatch runner plan point) before (left, .ok result) after →
        TellsEveryone runner plan point left before earlier result after) ∧
      ((before.isSilenced = true ∨ plan.notify = false ∨
          ∀ left result after,
            ¬ Runs (dispatch runner plan point) before (left, .ok result) after) →
        TellsNobody runner plan point before ∨
          ∃ abort after, StoppedByListener runner plan point before abort after)) ∧
    (∀ (powers : Powers) (request : DispatchRequest) (before : Engine),
      Calls (Powers.performDispatch powers request) before powers (planOf request before.settings)
        (pointOf request before) (begun request before) (answered request) ∧
      (planOf request before.settings).notify = request.mode.notifies ∧
      (pointOf request before).kind = request.kind ∧
      ((request.mode = .aggregate → request.strategy.isSome = true) →
        ∀ left result ended answer after,
          Runs (answered request (left, .ok result)) ended answer after →
          givenBack? answer = some left)) ∧
    (∀ (powers : Powers) (kind : PointKind) (strict : Bool) (before : Engine),
      Calls (Powers.propagateBlank powers kind strict) before powers
        ⟨{ DispatchFlags.ofSettings before.settings with strict }, true, none⟩ (.blank kind) before
        (fun given => pure given.2)) := by
  refine ⟨?_, ?_, calls_propagateBlank⟩
  · intro nesting fuel depth plan point before earlier hbus hearlier runner
    have hkeeps : runner.KeepsKinds := (Powers.within nesting fuel depth).runner_keepsKinds
    have htunes : runner.OnlyTunes :=
      Powers.runner_onlyTunes (Powers.within_onlyTunes nesting fuel depth)
    refine ⟨?others, ?everyone, ?nobody⟩
    case others =>
      intro tell hsame
      apply run_dispatch_withTell hkeeps
      intro _ left _ listener hlistener
      rw [hsame listener hlistener]
    case everyone =>
      intro left result after hsounds hnotify hrun
      exact tellsEveryone_of_ok hkeeps htunes hbus hearlier hsounds hnotify hrun
    case nobody =>
      rintro (hsilenced | hsilent | hfails)
      · exact .inl (tellsNobody_of_silenced hsilenced)
      · exact .inl (tellsNobody_of_silent hkeeps hsilent)
      · rcases runs_or_stops (dispatch runner plan point) before with
          ⟨⟨left, outcome⟩, after, hrun⟩ | ⟨abort, after, hstop⟩
        · cases outcome with
          | ok result => exact absurd hrun (hfails left result after)
          | error error => exact .inl (tellsNobody_of_error hrun)
        · rcases tellsNobody_of_stops hstop with hnobody | hlistener
          · exact .inl hnobody
          · exact .inr ⟨abort, after, hlistener⟩
  · intro powers request before
    refine ⟨calls_performDispatch powers request before, rfl, rfl, ?_⟩
    intro hfolds left result ended answer after hrun
    obtain ⟨⟨⟩, middle, -, hanswer⟩ := runs_bind.mp hrun
    obtain ⟨rfl, -⟩ := runs_pure.mp hanswer
    exact givenBack?_answerResult hfolds result left

namespace Sample

def twin : PointKind := ⟨"order", "Shipment", .writable⟩

/-- Two listeners for the kind remain, of which the first subscribes a third when it is told. -/
def history : List BusOperation :=
  [.subscribe ⟨kind, "old", none⟩, .unsubscribeAll kind,
    .subscribe ⟨kind, "audit", some (.subscribe kind "late" none)⟩,
    .subscribe ⟨twin, "twin", none⟩, .subscribe ⟨kind, "mirror", none⟩]

def observed : Engine := { engine with listeners := Bus.performAll [] history }

end Sample

/-- A vetoed dispatch tells the two, and the third is there for the next one. -/
theorem dispatches_notify_once_of_sample :
    let runner := (Powers.within 2 2 0).runner
    (subscribers Sample.kind Sample.history).map Listener.name = ["audit", "mirror"] ∧
    ∃ left result after,
      Runs (dispatch runner Sample.plan (.blank Sample.kind)) Sample.observed
        (left, .ok result) after ∧
      result.interruptedBy = some "fraud" ∧
      TellsEveryone runner Sample.plan (.blank Sample.kind) left Sample.observed Sample.history
        result after ∧
      (Bus.listeners after.listeners Sample.kind).map Listener.name = ["audit", "mirror", "late"] ∧
      TellsNobody runner { Sample.plan with notify := false } (.blank Sample.kind)
        Sample.observed := by
  intro runner
  have hrun : Runs (dispatch runner Sample.plan (.blank Sample.kind)) Sample.observed
      (_, .ok _) _ := rfl
  obtain ⟨-, heveryone, -⟩ := dispatches_notify_once.1 2 2 0 Sample.plan (.blank Sample.kind)
    Sample.observed Sample.history rfl rfl
  obtain ⟨-, -, hnobody⟩ := dispatches_notify_once.1 2 2 0 { Sample.plan with notify := false }
    (.blank Sample.kind) Sample.observed Sample.history rfl rfl
  refine ⟨rfl, _, _, _, hrun, rfl, heveryone _ _ _ rfl rfl hrun, rfl, ?_⟩
  rcases hnobody (.inr (.inl rfl)) with hsilent | ⟨abort, after, hstopped⟩
  · exact hsilent
  · obtain ⟨legs, tour, toured, started, early, listener, rest, middle, -, -, -, haudience, -⟩ :=
      hstopped
    exact absurd haudience.symm (List.append_ne_nil_of_right_ne_nil _ (List.cons_ne_nil _ _))

end Dispatch
end Plugboard
