import Plugboard.Session.Basic
import Plugboard.Proofs.Engine.Offers
import Plugboard.Proofs.Queue.Tickets

/-!
# What engines do to their timed queue

Whatever code an engine runs, its timed queue takes the steps of a workload: commands offer
calls, a drain reads calls, makes attempts and settles them, and a shutdown of a queue with
nothing unread closes it and abandons what waits.  So what holds of every workload holds of
the queue of every session.
-/

namespace Plugboard

namespace TimedQueue

variable {ρ : Type}

/-- Taking out the call that is due first leaves the others in their order. -/
theorem takeDue_split {first : Waiting ρ} {waiting : List (Waiting ρ)}
    (hfirst : earliest? waiting = some first) :
    ∃ front back, waiting = front ++ first :: back ∧
      takeDue first.due waiting = front ++ back := by
  induction waiting generalizing first with
  | nil => simp [earliest?] at hfirst
  | cons head rest ih =>
      simp only [earliest?] at hfirst
      split at hfirst
      · cases hfirst
        exact ⟨[], rest, rfl, by simp [takeDue]⟩
      · rename_i least hleast
        split at hfirst <;> cases hfirst
        · exact ⟨[], rest, rfl, by simp [takeDue]⟩
        · have hlater : head.due ≠ first.due := by omega
          obtain ⟨front, back, hsplit, htaken⟩ := ih hleast
          refine ⟨head :: front, back, by rw [hsplit]; rfl, ?_⟩
          simp only [takeDue, hlater, if_false, htaken]
          rfl

theorem next?_eq_none {queue : TimedQueue ρ} (hnone : queue.next? = none) : queue.waiting = [] := by
  rw [next?, Option.map_eq_none_iff] at hnone
  cases hwaiting : queue.waiting with
  | nil => rfl
  | cons head rest =>
      rw [hwaiting] at hnone
      simp only [earliest?] at hnone
      split at hnone
      · cases hnone
      · split at hnone <;> cases hnone

theorem unread_receive (queue : TimedQueue ρ) : queue.receive.unread = [] := by
  rw [receive]
  split
  · simpa using ‹queue.unread.isEmpty = true›
  · rfl

def leaveAll (calls : List (Waiting ρ)) (queue : TimedQueue ρ) : TimedQueue ρ :=
  calls.foldl (fun queue waiting => queue.leave waiting.call) queue

/-- What has nothing to do with leaving may as well be changed before. -/
theorem leaveAll_comm (change : TimedQueue ρ → TimedQueue ρ)
    (hchange : ∀ queue call, change (queue.leave call) = (change queue).leave call)
    (calls : List (Waiting ρ)) (queue : TimedQueue ρ) :
    change (leaveAll calls queue) = leaveAll calls (change queue) := by
  induction calls generalizing queue with
  | nil => rfl
  | cons first rest ih => exact (ih (queue.leave first.call)).trans (by rw [hchange]; rfl)

end TimedQueue

namespace Workload

variable {ρ : Type} {workload : Workload ρ}

/-- Offering a call is a step, whatever comes of it. -/
theorem exists_offer {now : Nat} (hclock : workload.clock ≤ now) (call : QueuedCall ρ) :
    ∃ next, workload.Step next ∧ next.queue = (workload.queue.enqueue now call).1 ∧
      next.running = workload.running ∧ next.clock = now := by
  cases hanswer : (workload.queue.enqueue now call).2 with
  | none => exact ⟨_, .crash hclock (Prod.ext rfl hanswer), rfl, rfl, rfl⟩
  | some answer =>
      cases answer with
      | ok done => exact ⟨_, .accept hclock (Prod.ext rfl hanswer), rfl, rfl, rfl⟩
      | error error => exact ⟨_, .refuse hclock (Prod.ext rfl hanswer), rfl, rfl, rfl⟩

/-- Offering calls while the clock stands still. -/
theorem steps_offerAll (calls : List (QueuedCall ρ)) {now : Nat} (hclock : workload.clock ≤ now) :
    ∃ next, Steps workload next ∧ next.queue = workload.queue.offerAll now calls ∧
      next.running = workload.running ∧ next.clock ≤ now := by
  induction calls generalizing workload with
  | nil => exact ⟨workload, .refl, rfl, rfl, hclock⟩
  | cons call rest ih =>
      obtain ⟨middle, hoffer, hmiddle, hsame, hnow⟩ := exists_offer hclock call
      obtain ⟨next, hsteps, hqueue, hrunning, hlater⟩ := ih (Nat.le_of_eq hnow)
      rw [hmiddle] at hqueue
      exact ⟨next, .head hoffer hsteps, hqueue, hrunning.trans hsame, hlater⟩

/-- The worker reads all that is unread in one step. -/
theorem steps_receive (htold : workload.Told) :
    ∃ next, Steps workload next ∧ next.queue = workload.queue.receive ∧
      next.running = workload.running ∧ next.clock = workload.clock := by
  cases hunread : workload.unread with
  | nil =>
      refine ⟨workload, .refl, ?_, rfl, rfl⟩
      simp [TimedQueue.receive, htold.unread, hunread]
  | cons first rest =>
      have hall : workload.unread = workload.unread ++ [] := (List.append_nil _).symm
      have hsome : workload.unread ≠ [] := by simp [hunread]
      refine ⟨workload.reading workload.unread [], .single (.read hall hsome), ?_, rfl, rfl⟩
      have hqueue : ({ workload.queue with unread := workload.unread.map Prod.snd }) =
          workload.queue := by
        rw [← htold.unread]
      simp only [reading, hqueue, List.map_nil]
      rw [← workload.queue.unread_receive]

/-- Taking up the next attempt is a run of steps. -/
theorem steps_next (htold : workload.Told) {first : Waiting ρ} {queue : TimedQueue ρ}
    (hnext : workload.queue.next? = some (first, queue)) :
    ∃ ticket next, Steps workload next ∧ next.queue = queue ∧
      next.running = (ticket, first) :: workload.running ∧ next.clock = workload.clock := by
  rw [TimedQueue.next?, Option.map_eq_some_iff] at hnext
  obtain ⟨earliest, hearliest, hpair⟩ := hnext
  cases hpair
  obtain ⟨front, back, hsplit, htaken⟩ := TimedQueue.takeDue_split hearliest
  rw [htold.waiting] at hsplit
  obtain ⟨before, later, hwaiting, hfront, hlater⟩ := List.map_eq_append_iff.mp hsplit
  obtain ⟨⟨ticket, attempted⟩, after, rfl, hattempted, hback⟩ := List.map_eq_cons_iff.mp hlater
  obtain rfl : attempted = first := hattempted
  let passed : Workload ρ := { workload with queue := workload.queue.advanceTo attempted.due }
  have hbegin : passed.Step _ := .begin hwaiting (Nat.le_max_right _ _)
  refine ⟨ticket, _, .tail (.single .pass) hbegin, ?_, rfl, rfl⟩
  simp only [taking, List.map_append, hfront, hback, passed, TimedQueue.advanceTo, htaken]

theorem steps_settle {ticket : Nat} {attempted : Waiting ρ} {rest : List (Nat × Waiting ρ)}
    (hrunning : workload.running = (ticket, attempted) :: rest) (outcome : AttemptOutcome) :
    ∃ next, Steps workload next ∧ next.queue = workload.queue.settle attempted outcome ∧
      next.running = rest ∧ next.clock = workload.clock := by
  have hfirst : workload.running = [] ++ (ticket, attempted) :: rest := hrunning
  cases hends : TimedQueue.endOf? attempted outcome with
  | none => exact ⟨_, .single (.retry hfirst hends), rfl, rfl, rfl⟩
  | some how => exact ⟨_, .single (.finish hfirst hends), rfl, rfl, rfl⟩

/-- Once the queue is closed the calls that wait can leave it one after the other. -/
theorem steps_abandon (htold : workload.Told) (hclosed : workload.queue.closed = true) :
    ∃ next, Steps workload next ∧
      next.queue = TimedQueue.leaveAll workload.queue.waiting { workload.queue with waiting := [] } ∧
      next.running = workload.running ∧ next.clock = workload.clock := by
  rw [htold.waiting]
  generalize hcalls : workload.waiting = calls
  induction calls generalizing workload with
  | nil =>
      have hnone : workload.queue.waiting = [] := by rw [htold.waiting, hcalls, List.map_nil]
      refine ⟨workload, .refl, ?_, rfl, rfl⟩
      change workload.queue = { workload.queue with waiting := [] }
      rw [← hnone]
  | cons call rest ih =>
      obtain ⟨ticket, waiting⟩ := call
      have hfirst : workload.waiting = [] ++ (ticket, waiting) :: rest := hcalls
      have hstep := Step.abandon hclosed hfirst
      obtain ⟨next, hsteps, hqueue, hrunning, hclock⟩ := ih (htold.step hstep) hclosed rfl
      exact ⟨next, .head hstep hsteps, hqueue, hrunning, hclock⟩

/-- A shutdown with nothing unread is a run of steps. -/
theorem steps_shutdown (htold : workload.Told) (hunread : workload.unread = []) :
    ∃ next, Steps workload next ∧ next.queue = workload.queue.shutdown ∧
      next.running = workload.running ∧ next.clock = workload.clock := by
  have hclose := Step.close hunread
  obtain ⟨next, hsteps, hqueue, hrunning, hclock⟩ := steps_abandon (htold.step hclose) rfl
  refine ⟨next, .head hclose hsteps, ?_, hrunning, hclock⟩
  have hnone : workload.queue.unread = [] := by rw [htold.unread, hunread, List.map_nil]
  have hchange := TimedQueue.leaveAll_comm
    (fun queue => { queue with closed := true, hungUp := true, waiting := [], unread := [] })
    (fun _ _ => rfl) workload.queue.waiting workload.queue
  rw [hqueue, TimedQueue.shutdown]
  refine Eq.trans ?_ hchange.symm
  rw [← hnone]
  rfl

end Workload

/-! ## Code over an engine -/

namespace Engine

variable {before after : Engine} {workload : Workload Behaviour}

/-- The timed queue of the engine is the one of a workload, and no call was offered later than
now. -/
structure Carries (engine : Engine) (workload : Workload Behaviour) : Prop where
  timed : engine.timed = some workload.queue
  clock : workload.clock ≤ engine.uptime
  told : workload.Told

/-- What is done beside the queue leaves the workload as it is. -/
theorem Carries.beside (hcarries : before.Carries workload) (hbeside : Beside before after) :
    after.Carries workload where
  timed := hbeside.timed.trans hcarries.timed
  clock := by rw [hbeside.uptime]; exact hcarries.clock
  told := hcarries.told

/-- Offering calls takes a workload further, whatever attempts are under way. -/
theorem Carries.offers (hcarries : before.Carries workload) (hoffers : Offers before after) :
    ∃ next, workload.Steps next ∧ after.Carries next ∧ next.running = workload.running := by
  obtain ⟨calls, hafter⟩ := hoffers.timed
  obtain ⟨next, hsteps, hqueue, hrunning, hclock⟩ := Workload.steps_offerAll calls hcarries.clock
  rw [hcarries.timed, Option.map_some, ← hqueue] at hafter
  rw [← hoffers.uptime] at hclock
  exact ⟨next, hsteps, ⟨hafter, hclock, hcarries.told.steps hsteps⟩, hrunning⟩

/-- Changing the queue as steps of a workload do takes the workload further. -/
theorem Carries.change (hcarries : before.Carries workload)
    (change : TimedQueue Behaviour → TimedQueue Behaviour) {next : Workload Behaviour}
    (hsteps : workload.Steps next) (hqueue : next.queue = change workload.queue)
    (hclock : next.clock = workload.clock) :
    Carries { before with timed := before.timed.map change } next where
  timed := by rw [hqueue, hcarries.timed, Option.map_some]
  clock := by rw [hclock]; exact hcarries.clock
  told := hcarries.told.steps hsteps

theorem Carries.record (hcarries : before.Carries workload) (event : Event) :
    (before.record event).Carries workload :=
  hcarries.beside (beside_of_bare_eq (bare_record before event))

theorem OnlyOffers.of_runs {α : Type} {code : EngineM α} (hcode : OnlyOffers code) {value : α}
    (hrun : Runs code before value after) : Offers before after := by
  have hoffers := hcode before
  rwa [show code.run.run before = (.ok value, after) from hrun] at hoffers

theorem onlyOffers_attempt (nesting : Nat) (waiting : Waiting Behaviour) :
    OnlyOffers (attempt nesting waiting) :=
  onlyOffers_of_keeps fun _ => keeps_attempt nesting waiting

/-- The worker finds the attempt that is due first, or nothing that is due before the limit. -/
theorem Carries.nextAttempt (hcarries : before.Carries workload) {limit : Option Nat}
    {found : Option (Waiting Behaviour)} (hrun : Runs (nextAttempt limit) before found after) :
    ∃ next, workload.Steps next ∧ after.Carries next ∧
      (∀ attempted, found = some attempted →
        ∃ ticket, next.running = (ticket, attempted) :: workload.running) ∧
      (found = none → next.running = workload.running ∧
        (limit = none → next.queue.unread = [] ∧ next.queue.waiting = [])) := by
  obtain ⟨read, hreceive, hqueue, hrunning, hclock⟩ := Workload.steps_receive hcarries.told
  have hmiddle : before.received.Carries read :=
    hcarries.change TimedQueue.receive hreceive hqueue hclock
  have hread : read.queue.unread = [] := by rw [hqueue, TimedQueue.unread_receive]
  have hfetched := fetched_of_runs hrun
  cases hfetched with
  | idle hidle =>
      rw [hmiddle.timed, Option.bind_some] at hidle
      refine ⟨read, hreceive, hmiddle, ?_, fun _ => ⟨hrunning, fun _ => ⟨hread, ?_⟩⟩⟩
      · rintro other ⟨⟩
      · exact TimedQueue.next?_eq_none hidle
  | later hnext hlimit =>
      refine ⟨read, hreceive, hmiddle, ?_, fun _ => ⟨hrunning, fun hnone => ?_⟩⟩
      · rintro other ⟨⟩
      · exact absurd hnone hlimit
  | @taken attempted queue hnext =>
      rw [hmiddle.timed, Option.bind_some] at hnext
      obtain ⟨ticket, begun, hbegin, hbegun, hattempted, hlater⟩ :=
        Workload.steps_next hmiddle.told hnext
      have hcarried := hmiddle.change (fun _ => queue) hbegin hbegun hlater
      refine ⟨begun, hreceive.trans hbegin, hcarried, ?_, ?_⟩
      · rintro other ⟨⟩
        exact ⟨ticket, by rw [hattempted, hrunning]⟩
      · rintro ⟨⟩

/-- The worker leaves no attempt under way that it began; without a limit it leaves nothing to
attempt. -/
theorem Carries.work (hcarries : before.Carries workload) {nesting : Nat} {limit : Option Nat}
    {attempts : Nat} {value : Unit} (hrun : Runs (work nesting limit attempts) before value after) :
    ∃ next, workload.Steps next ∧ after.Carries next ∧ next.running = workload.running ∧
      (limit = none → next.queue.unread = [] ∧ next.queue.waiting = []) := by
  induction attempts generalizing before workload with
  | zero => cases hrun
  | succ attempts ih =>
      rw [Engine.work, runs_bind] at hrun
      obtain ⟨found, middle, hfound, hrun⟩ := hrun
      obtain ⟨begun, hbegin, hmiddle, hsome, hnone⟩ := hcarries.nextAttempt hfound
      cases found with
      | none =>
          obtain ⟨-, rfl⟩ := runs_pure.mp hrun
          exact ⟨begun, hbegin, hmiddle, hnone rfl⟩
      | some attempted =>
          obtain ⟨ticket, hattempted⟩ := hsome attempted rfl
          obtain ⟨outcome, tried, hattempt, hrun⟩ := runs_bind.mp hrun
          rw [runs_then runs_changeTimed, runs_log_then, runs_then runs_changeTimed] at hrun
          -- the calls that the attempt offered are read before the attempt is settled
          obtain ⟨offered, hoffer, htried, hsame⟩ :=
            hmiddle.offers ((onlyOffers_attempt nesting attempted).of_runs hattempt)
          obtain ⟨read, hread, hqueue, hunder, hclock⟩ := Workload.steps_receive htried.told
          have hreading := (htried.change TimedQueue.receive hread hqueue hclock).record
            (.log (TimedQueue.settleEvent attempted outcome))
          obtain ⟨settled, hsettle, hsettled, hleft, hlater⟩ :=
            Workload.steps_settle (hunder.trans (hsame.trans hattempted)) outcome
          obtain ⟨next, hrest, hcarried, hrunning, hidle⟩ :=
            ih (hreading.change (·.settle attempted outcome) hsettle hsettled hlater) hrun
          have hsteps := hbegin.trans (hoffer.trans (hread.trans (hsettle.trans hrest)))
          exact ⟨next, hsteps, hcarried, hrunning.trans hleft, hidle⟩

/-- A drain that comes to its end has waited for every call, unless the queue is closed. -/
theorem Carries.drain (hcarries : before.Carries workload) {nesting : Nat} {value : Unit}
    (hrun : Runs (drainTimed nesting) before value after) :
    ∃ next, workload.Steps next ∧ after.Carries next ∧ next.running = workload.running ∧
      (next.queue.closed = true ∨ next.queue.pending = 0 ∨
        next.queue.unread = [] ∧ next.queue.waiting = []) := by
  rw [drainTimed, runs_get_then, hcarries.timed] at hrun
  dsimp only at hrun
  split at hrun
  · rename_i hover
    obtain ⟨-, rfl⟩ := runs_pure.mp hrun
    refine ⟨workload, .refl, hcarries, rfl, ?_⟩
    rcases Bool.or_eq_true_iff.mp hover with hnone | hclosed
    · exact .inr (.inl (beq_iff_eq.mp hnone))
    · exact .inl hclosed
  · rw [runs_bind] at hrun
    obtain ⟨done, middle, hwork, hrun⟩ := hrun
    obtain ⟨worked, hsteps, hmiddle, hrunning, hidle⟩ := hcarries.work hwork
    rw [runs_changeTimed] at hrun
    obtain ⟨hread, hwaiting⟩ := hidle rfl
    rw [hrun]
    exact ⟨_, .tail hsteps .pass, hmiddle.change _ (.single .pass) rfl rfl, hrunning,
      .inr (.inr ⟨hread, hwaiting⟩)⟩

/-- Waiting for a time is work on the calls that are due before. -/
theorem Carries.wait (hcarries : before.Carries workload) {nesting milliseconds : Nat}
    {value : Unit} (hrun : Runs (waitTimed nesting milliseconds) before value after) :
    ∃ next, workload.Steps next ∧ after.Carries next ∧ next.running = workload.running := by
  rw [waitTimed, runs_get_then, hcarries.timed] at hrun
  dsimp only at hrun
  rw [runs_bind] at hrun
  obtain ⟨done, middle, hwork, hrun⟩ := hrun
  obtain ⟨worked, hsteps, hmiddle, hrunning, -⟩ := hcarries.work hwork
  rw [runs_changeTimed] at hrun
  rw [hrun]
  exact ⟨_, .tail hsteps .pass, hmiddle.change _ (.single .pass) rfl rfl, hrunning⟩

/-- A shutdown with nothing unread closes the queue and abandons what waits. -/
theorem Carries.shutdown (hcarries : before.Carries workload) (hunread : workload.unread = [])
    {value : Unit} (hrun : Runs shutdownTimed before value after) :
    ∃ next, workload.Steps next ∧ after.Carries next ∧ next.running = workload.running := by
  rw [shutdownTimed, runs_get_then, hcarries.timed] at hrun
  dsimp only at hrun
  rw [runs_logAll_then, runs_changeTimed] at hrun
  obtain ⟨next, hsteps, hqueue, hrunning, hclock⟩ :=
    Workload.steps_shutdown hcarries.told hunread
  have hlogged : (before.recordAll workload.queue.shutdownEvents).Carries workload :=
    hcarries.beside (beside_of_bare_eq (bare_recordAll before _))
  rw [hrun]
  exact ⟨next, hsteps, hlogged.change TimedQueue.shutdown hsteps hqueue hclock, hrunning⟩

/-! ## Sessions -/

/-- A command offers calls, also one that stops. -/
theorem onlyOffers_command (nesting : Nat) (command : Command Behaviour) :
    OnlyOffers (Session.perform nesting (.command command)) :=
  onlyOffers_of_keeps fun _ => keeps_command nesting command

/-- Every step of a session that is not stopped takes the workload further. -/
theorem Carries.session (hcarries : before.Carries workload) {nesting : Nat} {step : Step}
    (hshutdown : step = .shutdown → workload.unread = []) {answer : StepAnswer}
    (hrun : Runs (Session.perform nesting step) before answer after) :
    ∃ next, workload.Steps next ∧ after.Carries next ∧ next.running = workload.running := by
  have hreport {middle : Engine} {reached : Workload Behaviour} (hmiddle : middle.Carries reached)
      (hreported : Runs Session.report middle answer after) : after.Carries reached := by
    rw [Session.report, runs_get_then, hmiddle.timed] at hreported
    dsimp only at hreported
    rw [takeRuns, runs_bind] at hreported
    obtain ⟨runs, later, htaken, hreported⟩ := hreported
    rw [runs_get_then, runs_modify_then, runs_pure] at htaken
    rw [runs_pure] at hreported
    rw [hreported.2, htaken.2]
    exact ⟨hmiddle.timed, hmiddle.clock, hmiddle.told⟩
  cases step with
  | command command => exact hcarries.offers ((onlyOffers_command nesting command).of_runs hrun)
  | drain =>
      obtain ⟨done, middle, hdrain, hrest⟩ := runs_bind.mp hrun
      obtain ⟨next, hsteps, hmiddle, hrunning, -⟩ := hcarries.drain hdrain
      exact ⟨next, hsteps, hreport hmiddle hrest, hrunning⟩
  | shutdown =>
      obtain ⟨done, middle, hshut, hrest⟩ := runs_bind.mp hrun
      obtain ⟨next, hsteps, hmiddle, hrunning⟩ := hcarries.shutdown (hshutdown rfl) hshut
      exact ⟨next, hsteps, hreport hmiddle hrest, hrunning⟩
  | stats => exact ⟨workload, .refl, hreport hcarries hrun, rfl⟩
  | queueName =>
      rw [Session.perform, runs_get_then, hcarries.timed] at hrun
      obtain ⟨-, rfl⟩ := runs_pure.mp hrun
      exact ⟨workload, .refl, hcarries, rfl⟩
  | wait milliseconds =>
      obtain ⟨done, middle, hwait, hrest⟩ := runs_bind.mp hrun
      obtain ⟨-, rfl⟩ := runs_pure.mp hrest
      exact hcarries.wait hwait
  | elapse nanoseconds =>
      rw [Session.perform, runs_modify_then, runs_pure] at hrun
      rw [hrun.2]
      have hclock := Nat.le_trans hcarries.clock (Nat.le_add_right _ nanoseconds)
      exact ⟨workload, .refl, ⟨hcarries.timed, hclock, hcarries.told⟩, rfl⟩

end Engine

namespace Session

def engineAfter (nesting : Nat) (engine : Engine) : List Step → Engine
  | [] => engine
  | first :: rest => engineAfter nesting (step nesting engine first).1 rest

/-- Steps that come to their end, of which only commands may be stopped, and no shutdown of a
queue with calls unread. -/
def Orderly (nesting : Nat) (engine : Engine) : List Step → Prop
  | [] => True
  | first :: rest =>
      ((∃ command, first = .command command) ∨
          ∃ answer, ((perform nesting first).run.run engine).1 = .ok answer) ∧
        (first = .shutdown → ∀ queue, engine.timed = some queue → queue.unread = []) ∧
        Orderly nesting (step nesting engine first).1 rest

end Session

namespace Engine

variable {before : Engine} {workload : Workload Behaviour} {nesting : Nat}

/-- A step of a session takes the workload further. -/
theorem Carries.step (hcarries : before.Carries workload) {first : Step}
    (hends : (∃ command, first = .command command) ∨
      ∃ answer, ((Session.perform nesting first).run.run before).1 = .ok answer)
    (hshutdown : first = .shutdown → workload.unread = []) :
    ∃ next, workload.Steps next ∧ (Session.step nesting before first).1.Carries next ∧
      next.running = workload.running := by
  -- a step of a session only takes the noticed events away from what performing it leaves
  have hnoted {reached : Workload Behaviour}
      (hreached : ((Session.perform nesting first).run.run before).2.Carries reached) :
      (Session.step nesting before first).1.Carries reached :=
    ⟨hreached.timed, hreached.clock, hreached.told⟩
  rcases hends with ⟨command, rfl⟩ | ⟨answer, hanswer⟩
  · obtain ⟨next, hsteps, hnext, hrunning⟩ :=
      hcarries.offers (onlyOffers_command nesting command before)
    exact ⟨next, hsteps, hnoted hnext, hrunning⟩
  · obtain ⟨next, hsteps, hnext, hrunning⟩ := hcarries.session hshutdown (Prod.ext hanswer rfl)
    exact ⟨next, hsteps, hnoted hnext, hrunning⟩

/-- A session takes the workload of its engine further. -/
theorem Carries.engineAfter (hcarries : before.Carries workload) {steps : List Step}
    (horderly : Session.Orderly nesting before steps) :
    ∃ next, workload.Steps next ∧ (Session.engineAfter nesting before steps).Carries next ∧
      next.running = workload.running := by
  induction steps generalizing before workload with
  | nil => exact ⟨workload, .refl, hcarries, rfl⟩
  | cons first rest ih =>
      obtain ⟨hends, hshutdown, hrest⟩ := horderly
      have hunread (hfirst : first = .shutdown) : workload.unread = [] := by
        rw [← List.map_eq_nil_iff, ← hcarries.told.unread]
        exact hshutdown hfirst workload.queue hcarries.timed
      obtain ⟨middle, hfirst, hmiddle, hsame⟩ := hcarries.step hends hunread
      obtain ⟨next, hsteps, hnext, hrunning⟩ := ih hmiddle hrest
      exact ⟨next, hfirst.trans hsteps, hnext, hrunning.trans hsame⟩

/-- A session with a timed queue begins with a workload that has nothing to do. -/
theorem carries_start {setup : SessionSetup} {name : String} {capacity : Nat}
    (hqueue : setup.queue = .timed name capacity) {engine : Engine}
    (hstart : Session.start setup = .ok engine) :
    engine.Carries (Workload.start name capacity) := by
  rw [Session.start, hqueue] at hstart
  dsimp only at hstart
  split at hstart
  · cases hstart
    exact ⟨timed_record _ _, Nat.zero_le _, Workload.told_start name capacity⟩
  · cases hstart

/-- Whatever a session does, its timed queue takes the steps of a workload from the start. -/
theorem carries_engineAfter_start {setup : SessionSetup} {name : String} {capacity : Nat}
    (hqueue : setup.queue = .timed name capacity) {engine : Engine}
    (hstart : Session.start setup = .ok engine) {steps : List Step}
    (horderly : Session.Orderly nesting engine steps) :
    ∃ reached, Workload.Steps (Workload.start name capacity) reached ∧
      (Session.engineAfter nesting engine steps).Carries reached ∧ reached.running = [] :=
  (carries_start hqueue hstart).engineAfter horderly

end Engine

/-! ## What a run conserves -/

namespace Workload

open Engine

/-- Where no call is in play none is pending. -/
theorem pending_of_idle {ρ : Type} {workload : Workload ρ} (htold : workload.Told)
    (hbalanced : workload.Balanced) (hunread : workload.queue.unread = [])
    (hwaiting : workload.queue.waiting = []) (hrunning : workload.running = []) :
    workload.queue.pending = 0 := by
  rw [htold.unread, List.map_eq_nil_iff] at hunread
  rw [htold.waiting, List.map_eq_nil_iff] at hwaiting
  rw [hbalanced.pending, inPlay, hunread, hwaiting, hrunning]
  rfl

/-- A drain that comes to its end leaves nothing pending in an open queue: every accepted call has
completed or failed. -/
theorem drain_conserves_calls {name : String} {capacity nesting : Nat}
    {workload : Workload Behaviour} (hsteps : Steps (start name capacity) workload)
    (hidle : workload.running = []) {before after : Engine} (hcarries : before.Carries workload)
    (hdrain : Runs (drainTimed nesting) before () after) :
    ∃ drained, Steps workload drained ∧ after.Carries drained ∧ drained.running = [] ∧
      drained.queue.isDrained = true ∧
      (drained.queue.closed = false →
        drained.queue.stats.accepted =
          drained.queue.stats.completed + drained.queue.stats.failed) := by
  obtain ⟨drained, hmore, hdrained, hrunning, hwhy⟩ := hcarries.drain hdrain
  have hall := Steps.alone (hsteps.trans hmore)
  have hover : drained.queue.isDrained = true := by
    rw [TimedQueue.isDrained, Bool.or_eq_true_iff, beq_iff_eq]
    rcases hwhy with hclosed | hnone | ⟨hunread, hwaiting⟩
    · exact .inr hclosed
    · exact .inl hnone
    · have hbalanced := Steps.balanced (hsteps.trans hmore)
      exact .inl (pending_of_idle hdrained.told hbalanced hunread hwaiting (hrunning.trans hidle))
  refine ⟨drained, hmore, hdrained, hrunning.trans hidle, hover, fun hopen => ?_⟩
  have hbalanced := (Traffic.balanced_start name capacity).steps hall
  exact (hbalanced.of_isDrained hover hopen).2.2

end Workload
end Plugboard
