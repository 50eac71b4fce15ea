import Plugboard.Proofs.Engine.Commands
import Plugboard.Proofs.Queue.Workload

/-!
# No handler meets a foreign point

A sound engine has a registry that was built in the usual way, and in its queues nothing but
calls whose handler accepts the payload.  Engines are sound at the start of a session and stay
sound, so neither a dispatch nor a queued call ever fails for the kind of its point.
-/

namespace Plugboard

/-! ## The calls in a queue -/

namespace TimedQueue

variable {ρ : Type} {queue : TimedQueue ρ} {call : QueuedCall ρ}

def calls (queue : TimedQueue ρ) : List (QueuedCall ρ) :=
  queue.waiting.map Waiting.call ++ queue.unread

theorem mem_calls : call ∈ queue.calls ↔
    (∃ waiting ∈ queue.waiting, waiting.call = call) ∨ call ∈ queue.unread := by
  rw [calls, List.mem_append, List.mem_map]

/-- Offering a call brings no other into the queue. -/
theorem Offered.mem_calls {now : Nat} {offered : QueuedCall ρ} {after : TimedQueue ρ}
    {answer : Option (Except QueueError Unit)} (hoffered : Offered queue now offered after answer)
    (hcall : call ∈ after.calls) : call = offered ∨ call ∈ queue.calls := by
  cases hoffered with
  | accepted hopen hfree hexpires hlistening hroom =>
      rw [calls, ← List.append_assoc] at hcall
      rcases List.mem_append.mp hcall with hcall | hcall
      · exact .inr hcall
      · exact .inl (List.mem_singleton.mp hcall)
  | _ => exact .inr hcall

theorem calls_receive (queue : TimedQueue ρ) : queue.receive.calls = queue.calls := by
  rw [receive]
  split
  · rfl
  · simp only [calls, List.map_append, List.map_map, List.append_nil]
    congr 1
    exact List.map_id _

/-- The next attempt is of a call in the queue. -/
theorem calls_of_next {attempted : Waiting ρ} {after : TimedQueue ρ}
    (hnext : queue.next? = some (attempted, after)) :
    attempted.call ∈ queue.calls ∧ after.calls ⊆ queue.calls := by
  obtain ⟨first, hfirst, hpair⟩ := Option.map_eq_some_iff.mp hnext
  obtain ⟨rfl, rfl⟩ := Prod.mk.inj hpair
  have hperm := takeDue_perm hfirst
  constructor
  · exact mem_calls.mpr (.inl ⟨first, hperm.mem_iff.mpr List.mem_cons_self, rfl⟩)
  · intro call hcall
    rcases mem_calls.mp hcall with ⟨waiting, hwaiting, rfl⟩ | hunread
    · exact mem_calls.mpr (.inl ⟨waiting, hperm.mem_iff.mpr (List.mem_cons_of_mem _ hwaiting), rfl⟩)
    · exact mem_calls.mpr (.inr hunread)

theorem mem_calls_settle {attempted : Waiting ρ} {outcome : AttemptOutcome}
    (hcall : call ∈ (queue.settle attempted outcome).calls) :
    call = attempted.call ∨ call ∈ queue.calls := by
  cases hends : endOf? attempted outcome with
  | none =>
      rw [settle_of_retry hends] at hcall
      rcases TimedQueue.mem_calls.mp hcall with ⟨waiting, hwaiting, rfl⟩ | hunread
      · rcases List.mem_append.mp hwaiting with hbefore | hagain
        · exact .inr (TimedQueue.mem_calls.mpr (.inl ⟨waiting, hbefore, rfl⟩))
        · rw [List.mem_singleton.mp hagain]
          exact .inl rfl
      · exact .inr (TimedQueue.mem_calls.mpr (.inr hunread))
  | some how =>
      rw [settle_of_end hends] at hcall
      exact .inr hcall

end TimedQueue

/-! ## Sound engines -/

namespace Engine

def queued (engine : Engine) : List (QueuedCall Behaviour) :=
  engine.memory.calls ++ engine.timed.toList.flatMap TimedQueue.calls

theorem mem_queued {engine : Engine} {call : QueuedCall Behaviour} :
    call ∈ engine.queued ↔ call ∈ engine.memory.calls ∨
      ∃ queue, engine.timed = some queue ∧ call ∈ queue.calls := by
  rw [queued, List.mem_append, List.mem_flatMap]
  simp only [Option.mem_toList]

/-- The registry was built in the usual way, and every call in a queue is for points of some
kind. -/
structure Sound (engine : Engine) : Prop where
  built : engine.registry.Built
  queued : ∀ call ∈ engine.queued, ∃ kind, call.Fits kind

variable {before after engine : Engine}

/-- A sound engine stays so if what is new in its queues fits. -/
theorem Sound.queue (hsound : before.Sound) (hregistry : after.registry = before.registry)
    (hqueued : ∀ call ∈ after.queued, call ∈ before.queued ∨ ∃ kind, call.Fits kind) :
    after.Sound where
  built := by rw [hregistry]; exact hsound.built
  queued := fun call hcall => (hqueued call hcall).elim (hsound.queued call) id

/-- So it does if what is new after a change of the timed queue fits. -/
theorem Sound.changeTimed (hsound : engine.Sound)
    {change : TimedQueue Behaviour → TimedQueue Behaviour}
    (hcalls : ∀ queue, engine.timed = some queue → ∀ call ∈ (change queue).calls,
      call ∈ queue.calls ∨ ∃ kind, call.Fits kind) :
    Sound { engine with timed := engine.timed.map change } := by
  refine hsound.queue rfl fun call hcall => ?_
  rcases mem_queued.mp hcall with hcall | ⟨after, hafter, hcall⟩
  · exact .inl (mem_queued.mpr (.inl hcall))
  · obtain ⟨queue, hqueue, rfl⟩ := Option.map_eq_some_iff.mp hafter
    exact (hcalls queue hqueue call hcall).imp_left fun hbefore =>
      mem_queued.mpr (.inr ⟨queue, hqueue, hbefore⟩)

theorem queued_of_beside (hbeside : Beside before after) : after.queued = before.queued := by
  rw [queued, queued, hbeside.memory, hbeside.timed]

/-- Being sound is kept by code. -/
def soundness : Invariant where
  holds := Sound
  suits kind entry := entry.Fits kind
  admits call := ∃ kind, call.Fits kind
  beside := by
    intro before after hsound hbeside
    refine hsound.queue hbeside.registry fun call hcall => .inl ?_
    rwa [queued_of_beside hbeside] at hcall
  perform hsound hproper := ⟨hsound.built.perform hproper, hsound.queued⟩
  entries hsound hentry := hsound.built.fits_of_mem_view hentry
  calls := by
    intro runner entry point plan handler before after settings hfits hqueue hsought
    exact ⟨point.kind, hsought.accepts hfits, rfl, hfits.copies plan hqueue⟩
  collect := by
    intro engine call hsound hfits
    refine hsound.queue rfl fun other hother => ?_
    rcases mem_queued.mp hother with hother | hother
    · rcases List.mem_append.mp hother with hother | hother
      · exact .inl (mem_queued.mpr (.inl hother))
      · rw [List.mem_singleton.mp hother]
        exact .inr hfits
    · exact .inl (mem_queued.mpr (.inr hother))
  drain := by
    intro engine hsound
    refine hsound.queue rfl fun call hcall => .inl ?_
    exact List.mem_append_right _ hcall
  offer := by
    intro engine call hsound hfits
    refine hsound.changeTimed fun queue hqueue other hother => ?_
    rcases (TimedQueue.offered_enqueue queue engine.uptime call).mem_calls hother with rfl | hother
    · exact .inr hfits
    · exact .inl hother

/-! ## The worker -/

theorem keeps_changeTimed {change : TimedQueue Behaviour → TimedQueue Behaviour}
    (hcalls : ∀ queue, ∀ call ∈ (change queue).calls,
      call ∈ queue.calls ∨ ∃ kind, call.Fits kind) :
    Keeps soundness (changeTimed change) :=
  fun _ hsound => Sound.changeTimed hsound fun queue _ => hcalls queue

theorem keeps_receive : Keeps soundness (changeTimed TimedQueue.receive) :=
  keeps_changeTimed fun queue call hcall => .inl (by rwa [TimedQueue.calls_receive] at hcall)

/-- What the worker takes out of the queue fits. -/
theorem Sound.nextAttempt (hsound : before.Sound) (limit : Option Nat) :
    ∃ found after, Runs (nextAttempt limit) before found after ∧ after.Sound ∧
      ∀ waiting, found = some waiting → ∃ kind, waiting.call.Fits kind := by
  obtain ⟨found, after, hrun, hfetched⟩ := exists_runs_nextAttempt before limit
  have hready : before.received.Sound := keeps_receive before hsound
  refine ⟨found, after, hrun, ?_⟩
  cases hfetched with
  | idle hidle => exact ⟨hready, by rintro waiting ⟨⟩⟩
  | later hnext hlimit => exact ⟨hready, by rintro waiting ⟨⟩⟩
  | @taken waiting rest hnext =>
      obtain ⟨queue, hqueue, htaken⟩ := Option.bind_eq_some_iff.mp hnext
      obtain ⟨hcall, hrest⟩ := TimedQueue.calls_of_next htaken
      constructor
      · refine hready.changeTimed fun other hother call hleft => .inl ?_
        obtain rfl := Option.some.inj (hqueue.symm.trans hother)
        exact hrest hleft
      · rintro other ⟨⟩
        exact hready.queued _ (mem_queued.mpr (.inr ⟨queue, hqueue, hcall⟩))

/-- The worker puts nothing back into the queue but what it took out. -/
theorem keeps_work (nesting : Nat) (limit : Option Nat) (attempts : Nat) :
    Keeps soundness (work nesting limit attempts) := by
  induction attempts with
  | zero => exact keeps_throw _
  | succ attempts ih =>
      intro before hsound
      obtain ⟨found, middle, hrun, hmiddle, hfits⟩ := Sound.nextAttempt hsound limit
      rw [work, run_bind, show (nextAttempt limit).run.run before = _ from hrun]
      cases found with
      | none => exact hmiddle
      | some waiting =>
          have hsettle (outcome : AttemptOutcome) :
              Keeps soundness (changeTimed fun queue => queue.settle waiting outcome) := by
            refine keeps_changeTimed fun queue call hcall => ?_
            rcases TimedQueue.mem_calls_settle hcall with rfl | hcall
            · exact .inr (hfits waiting rfl)
            · exact .inl hcall
          have hrest := Keeps.bind (keeps_attempt nesting waiting) fun outcome =>
            keeps_receive.bind fun _ =>
              (keeps_log (TimedQueue.settleEvent waiting outcome)).bind fun _ =>
                (hsettle outcome).bind fun _ => ih
          exact hrest middle hmiddle

theorem keeps_advanceTo (time : TimedQueue Behaviour → Nat) :
    Keeps soundness (changeTimed fun queue => queue.advanceTo (time queue)) :=
  keeps_changeTimed fun _ _ hcall => .inl hcall

/-! ## Sessions -/

theorem keeps_report : Keeps soundness Session.report := by
  refine .bind keeps_get fun engine => ?_
  split
  · have hruns : Keeps soundness takeRuns :=
      .bind keeps_get fun _ => .bind (keeps_modify fun _ => ⟨rfl, rfl, rfl, rfl⟩) fun _ => keeps_pure _
    exact hruns.bind fun _ => keeps_pure _
  · exact keeps_pure _

/-- No step makes an engine unsound. -/
theorem keeps_step (nesting : Nat) (step : Step) :
    Keeps soundness (Session.perform nesting step) := by
  cases step with
  | command command => exact keeps_command nesting command
  | stats => exact keeps_report
  | drain =>
      refine .bind (.bind keeps_get fun engine => ?_) fun _ => keeps_report
      split
      · exact keeps_pure _
      · split
        · exact keeps_pure _
        · exact (keeps_work _ _ _).bind fun _ => keeps_advanceTo _
  | shutdown =>
      refine .bind (.bind keeps_get fun engine => ?_) fun _ => keeps_report
      split
      · exact keeps_pure _
      · refine (keeps_logAll _).bind fun _ => keeps_changeTimed fun queue call hcall => ?_
        cases hcall
  | queueName =>
      refine .bind keeps_get fun engine => ?_
      split <;> exact keeps_pure _
  | wait milliseconds =>
      refine .bind (.bind keeps_get fun engine => ?_) fun _ => keeps_pure _
      split
      · exact keeps_pure _
      · exact (keeps_work _ _ _).bind fun _ => keeps_advanceTo _
  | elapse nanoseconds =>
      exact .bind (fun _ hsound => ⟨hsound.built, hsound.queued⟩) fun _ => keeps_pure _

/-- An engine with an empty registry and nothing in its queues is sound. -/
theorem sound_of_idle (hregistry : engine.registry = .empty) (hidle : engine.queued = []) :
    engine.Sound where
  built := by rw [hregistry]; exact .empty
  queued := by
    intro call hcall
    rw [hidle] at hcall
    cases hcall

theorem Sound.record (hsound : engine.Sound) (event : Event) : (engine.record event).Sound :=
  soundness.beside hsound (beside_of_bare_eq (bare_record engine event))

/-- A session starts with a sound engine. -/
theorem sound_start {setup : SessionSetup} (hstart : Session.start setup = .ok engine) :
    engine.Sound := by
  rw [Session.start] at hstart
  cases hqueue : setup.queue with
  | none =>
      rw [hqueue] at hstart
      cases hstart
      exact sound_of_idle rfl rfl
  | memory =>
      rw [hqueue] at hstart
      cases hstart
      exact sound_of_idle rfl rfl
  | timed name capacity =>
      rw [hqueue] at hstart
      dsimp only at hstart
      split at hstart
      · cases hstart
        exact (sound_of_idle rfl rfl).record _
      · cases hstart

/-- So does an application. -/
theorem sound_assemble {settings : Settings} {hasRuntime : Bool} {clock : UInt64}
    {logLevel : Option Level}
    (hassemble : Session.assemble settings hasRuntime clock logLevel = .ok engine) :
    engine.Sound := by
  rw [Session.assemble] at hassemble
  split at hassemble
  · cases hassemble
  · cases hassemble
    refine ((sound_of_idle rfl ?_).record _).record _
    cases hasRuntime <;> rfl

/-- A session with a step behind it has the engine of the step without its events. -/
theorem Sound.step (hsound : engine.Sound) (nesting : Nat) (step : Step) :
    (Session.step nesting engine step).1.Sound :=
  soundness.beside (keeps_step nesting step engine hsound) ⟨rfl, rfl, rfl, rfl⟩

/-! ## Engines that come up -/

/-- The engines that come up: at the start, and wherever a step, a command, the code of a
handler, the visits of a dispatch or the worker came to or were stopped.  What they hold beside
their registry and their queues may be anything. -/
inductive Occurs : Engine → Prop where
  | started {setup : SessionSetup} {engine : Engine} (hstart : Session.start setup = .ok engine) :
      Occurs engine
  | assembled {settings : Settings} {hasRuntime : Bool} {clock : UInt64} {logLevel : Option Level}
      {engine : Engine}
      (hassemble : Session.assemble settings hasRuntime clock logLevel = .ok engine) :
      Occurs engine
  | beside {before after : Engine} (hoccurs : before.Occurs) (hbeside : Beside before after) :
      Occurs after
  | stepped {engine : Engine} (hoccurs : engine.Occurs) (nesting : Nat) (step : Step) :
      Occurs (Session.step nesting engine step).1
  | commanded {engine : Engine} (hoccurs : engine.Occurs) (nesting fuel depth : Nat)
      (command : Command Behaviour) :
      Occurs ((Powers.performWith (Powers.within nesting fuel depth) command).run.run engine).2
  | behaved {engine : Engine} (hoccurs : engine.Occurs) (nesting fuel depth serial : Nat)
      (behaviour : Behaviour) :
      Occurs ((behaviour.run (Powers.within nesting fuel depth) serial).run.run engine).2
  | toured {engine : Engine} (hoccurs : engine.Occurs) (nesting fuel depth : Nat)
      (plan : DispatchPlan) (point : Point) {entries : List (Entry Behaviour)}
      (hentries : entries <+: engine.registry.view point.kind) :
      Occurs ((Dispatch.tour (Powers.within nesting fuel depth).runner plan entries
        (point.modifyInterruption fun _ => .fresh)).run.run
          (Dispatch.opened engine point.kind)).2
  | fetched {engine : Engine} (hoccurs : engine.Occurs) (limit : Option Nat) :
      Occurs ((nextAttempt limit).run.run engine).2
  | worked {engine : Engine} (hoccurs : engine.Occurs) (nesting : Nat) (limit : Option Nat)
      (attempts : Nat) :
      Occurs ((work nesting limit attempts).run.run engine).2

/-- A dispatch starts from a sound engine. -/
theorem Sound.opened (hsound : engine.Sound) (kind : PointKind) :
    (Dispatch.opened engine kind).Sound := by
  have hview : Keeps soundness (view kind) := keeps_view kind
  exact hview.of_runs (hsound.record _) (runs_view.mpr ⟨rfl, rfl⟩)

/-- All engines that come up are sound. -/
theorem Occurs.sound (hoccurs : engine.Occurs) : engine.Sound := by
  have hwithin (nesting fuel depth : Nat) : (Powers.within nesting fuel depth).Keeping soundness :=
    Powers.within_keeping nesting fuel depth
  induction hoccurs with
  | started hstart => exact sound_start hstart
  | assembled hassemble => exact sound_assemble hassemble
  | beside _ hbeside ih => exact soundness.beside ih hbeside
  | stepped _ nesting step ih => exact ih.step nesting step
  | commanded _ nesting fuel depth command ih =>
      exact Powers.keeps_performWith (hwithin nesting fuel depth) command _ ih
  | behaved _ nesting fuel depth serial behaviour ih =>
      exact Behaviour.keeps_run (hwithin nesting fuel depth) serial behaviour _ ih
  | @toured engine _ nesting fuel depth plan point entries hentries ih =>
      have hsuits : ∀ entry ∈ entries,
          entry.Fits (point.modifyInterruption fun _ => .fresh).kind := by
        intro entry hentry
        rw [Dispatch.kind_modifyInterruption]
        exact ih.built.fits_of_mem_view (hentries.subset hentry)
      have hrunner := Powers.runner_keeping (hwithin nesting fuel depth)
      exact Dispatch.keeps_tour hrunner plan hsuits _ (ih.opened point.kind)
  | fetched _ limit ih =>
      obtain ⟨found, after, hrun, hafter, -⟩ := Sound.nextAttempt ih limit
      rwa [show (nextAttempt limit).run.run _ = _ from hrun]
  | worked _ nesting limit attempts ih => exact keeps_work nesting limit attempts _ ih

end Engine

/-- Handlers get points of the kind that they accept: the dispatch cannot be told from one that
is stopped as soon as it runs a handler or hands over a call for another kind than that of its
point, also for a kind of the same name; wherever it comes to an entry, everything there is of
its kind; and every call in a queue runs its handler on a payload of the kind that the handler
accepts, with nothing to refuse. -/
structure KindsRespected (engine : Engine) (powers : Powers) (plan : DispatchPlan)
    (point : Point) : Prop where
  dispatch : ∀ abort,
    (Dispatch.dispatch (powers.runner.guarded point.kind abort) plan point).run.run engine =
      (Dispatch.dispatch powers.runner plan point).run.run engine
  visits : ∀ {entry arrived reached},
    Dispatch.GetsTo powers.runner plan point engine entry arrived reached →
      Dispatch.OfKind powers point.kind entry arrived reached
  calls : ∀ call ∈ engine.queued, ∃ kind, call.Fits kind ∧
    call.run powers = do return (← call.handler.runBody powers call.payload.body).2

/-- Kinds are respected in every engine that comes up. -/
theorem handlers_get_points_of_their_kind {engine : Engine} (hoccurs : engine.Occurs)
    (powers : Powers) (plan : DispatchPlan) (point : Point) :
    KindsRespected engine powers plan point := by
  have hsound := hoccurs.sound
  refine ⟨?dispatch, ?visits, ?calls⟩
  case dispatch =>
    exact Dispatch.run_dispatch_guarded powers.runner_keepsKinds hsound.built plan point
  case visits => exact fun hgets => hgets.ofKind hsound.built
  case calls =>
    intro call hcall
    obtain ⟨kind, hfits⟩ := hsound.queued call hcall
    exact ⟨kind, hfits, QueuedCall.run_eq_runBody powers hfits⟩

namespace Namesakes

def order : PointKind := ⟨"shop", "order", .hidden⟩

/-- Another kind of the same name. -/
def standing : PointKind := ⟨"bank", "order", .hidden⟩

def code (id : HandlerId) (kind : PointKind) : HandlerCode Behaviour :=
  ⟨id, kind, fun body => .finish body (.ok .null)⟩

def plan : DispatchPlan := ⟨⟨true, false, false⟩, true, none⟩

/-- A handler for each of the two kinds, one of them queued, and an id that the resolver knows
as a handler for the wrong one. -/
def commands : List (Command Behaviour) :=
  [.registry (.register (code "stock" order) 0),
   .registry (.registerQueued (code "debit" standing) 0 .standard),
   .addFactory "ship" (code "ship" standing),
   .registry (.registerDeferred order "ship" 1),
   .dispatch ⟨standing, .plain, none, none, ⟨[], [], .fresh⟩, none, none⟩]

def engine : Engine :=
  commands.foldl
    (fun engine command =>
      ((Powers.performWith (Powers.within 1 1 0) command).run.run engine).2)
    (Engine.new .standard 0)

end Namesakes

open Namesakes in
/-- A dispatch that meets a handler for a kind of the same name, and a call in the queue. -/
theorem handlers_get_points_of_their_kind_of_namesakes :
    order ≠ standing ∧ order.name = standing.name ∧
      engine.queued.map (fun call => (call.handler.id, call.payload.kind)) =
        [("debit", standing)] ∧
      (engine.registry.view order).map Entry.id = ["stock", "ship"] ∧
      KindsRespected engine (.within 1 1 0) plan (.blank order) := by
  have hstarted : (Engine.new .standard 0).Occurs :=
    .started (show Session.start ⟨.standard, 0, true, true, .memory, .events, none, false⟩ =
      .ok (Engine.new .standard 0) from rfl)
  have hoccurs : engine.Occurs :=
    ((((hstarted.commanded 1 1 0 _).commanded 1 1 0 _).commanded 1 1 0 _).commanded 1 1 0
      _).commanded 1 1 0 _
  exact ⟨by decide, rfl, rfl, rfl, handlers_get_points_of_their_kind hoccurs _ _ _⟩

end Plugboard
