import Plugboard.Proofs.Queue.Keys

/-!
# Moves of a timed queue

The steps of a workload, told apart by what is done: which call is offered and how that is
answered, which attempt begins, and how one comes out.  A queue may be closed here before the
worker has read every call; what is unread then is lost.  As long as the queue is open a
course of moves is a run of the workload, and every run is a course of moves.
-/

namespace Plugboard

variable {ρ : Type}

namespace Workload

/-- What is done in one step.  A call that is read or attempted is told with its ticket and
with the time of the queue. -/
inductive Move (ρ : Type) where
  | offer (now : Nat) (call : QueuedCall ρ) (answer : Except QueueError Unit)
  | crash (now : Nat) (call : QueuedCall ρ)
  | read (calls : List (Nat × QueuedCall ρ)) (time : Nat)
  | begin (ticket : Nat) (waiting : Waiting ρ) (time : Nat)
  | settle (ticket : Nat) (attempted : Waiting ρ) (outcome : AttemptOutcome) (time : Nat)
  | close
  | lose
  | abandon (ticket : Nat)
  | pass (time : Nat)

def losing (workload : Workload ρ) : Workload ρ :=
  { workload with queue := { workload.queue with unread := [] }, unread := [] }

/-- The moves that can be made, and what each leads to. -/
inductive Moves (workload : Workload ρ) : Move ρ → Workload ρ → Prop where
  | accept {now : Nat} {call : QueuedCall ρ} {queue : TimedQueue ρ}
      (hclock : workload.clock ≤ now)
      (haccepted : workload.queue.enqueue now call = (queue, some (.ok ()))) :
      Moves workload (.offer now call (.ok ())) (workload.accepting queue now call)
  | refuse {now : Nat} {call : QueuedCall ρ} {queue : TimedQueue ρ} {error : QueueError}
      (hclock : workload.clock ≤ now)
      (hrefused : workload.queue.enqueue now call = (queue, some (.error error))) :
      Moves workload (.offer now call (.error error)) (workload.refusing queue now call error)
  | crash {now : Nat} {call : QueuedCall ρ} {queue : TimedQueue ρ}
      (hclock : workload.clock ≤ now)
      (hcrashed : workload.queue.enqueue now call = (queue, none)) :
      Moves workload (.crash now call) { workload with queue, clock := now }
  | read {front back : List (Nat × QueuedCall ρ)} (hunread : workload.unread = front ++ back)
      (hfront : front ≠ []) :
      Moves workload (.read front workload.queue.time) (workload.reading front back)
  | begin {front back : List (Nat × Waiting ρ)} {ticket : Nat} {waiting : Waiting ρ}
      (hwaiting : workload.waiting = front ++ (ticket, waiting) :: back)
      (hdue : waiting.due ≤ workload.queue.time) :
      Moves workload (.begin ticket waiting workload.queue.time)
        { workload.taking (front ++ back) with running := (ticket, waiting) :: workload.running }
  | retry {front back : List (Nat × Waiting ρ)} {ticket : Nat} {attempted : Waiting ρ}
      {outcome : AttemptOutcome}
      (hrunning : workload.running = front ++ (ticket, attempted) :: back)
      (hretry : TimedQueue.endOf? attempted outcome = none) :
      Moves workload (.settle ticket attempted outcome workload.queue.time)
        { workload with
          queue := workload.queue.settle attempted outcome
          waiting := workload.waiting ++ [(ticket, workload.queue.again attempted)]
          running := front ++ back }
  | finish {front back : List (Nat × Waiting ρ)} {ticket : Nat} {attempted : Waiting ρ}
      {outcome : AttemptOutcome} {how : CallEnd}
      (hrunning : workload.running = front ++ (ticket, attempted) :: back)
      (hends : TimedQueue.endOf? attempted outcome = some how) :
      Moves workload (.settle ticket attempted outcome workload.queue.time)
        { workload with
          queue := workload.queue.settle attempted outcome
          running := front ++ back
          history := .ended ticket attempted.call how :: workload.history }
  | close : Moves workload .close workload.closing
  | lose (hclosed : workload.queue.closed = true) : Moves workload .lose workload.losing
  | abandon {front back : List (Nat × Waiting ρ)} {ticket : Nat} {waiting : Waiting ρ}
      (hclosed : workload.queue.closed = true)
      (hwaiting : workload.waiting = front ++ (ticket, waiting) :: back) :
      Moves workload (.abandon ticket)
        { workload with
          queue := ({ workload.queue with waiting := (front ++ back).map Prod.snd }).leave
            waiting.call
          waiting := front ++ back
          history := .ended ticket waiting.call .abandoned :: workload.history }
  | pass {time : Nat} :
      Moves workload (.pass time) { workload with queue := workload.queue.advanceTo time }

/-- Moves made one after the other. -/
inductive Course (workload : Workload ρ) : List (Move ρ) → Workload ρ → Prop where
  | nil : Course workload [] workload
  | concat {moves : List (Move ρ)} {reached next : Workload ρ} {move : Move ρ}
      (hcourse : Course workload moves reached) (hmove : reached.Moves move next) :
      Course workload (moves ++ [move]) next

variable {workload reached next : Workload ρ} {move : Move ρ} {moves more : List (Move ρ)}

/-! ## Moves and steps -/

/-- Every step is a move. -/
theorem exists_move (hstep : workload.Step next) : ∃ move, workload.Moves move next := by
  cases hstep with
  | accept hclock haccepted => exact ⟨_, .accept hclock haccepted⟩
  | refuse hclock hrefused => exact ⟨_, .refuse hclock hrefused⟩
  | crash hclock hcrashed => exact ⟨_, .crash hclock hcrashed⟩
  | read hunread hfront => exact ⟨_, .read hunread hfront⟩
  | begin hwaiting hdue => exact ⟨_, .begin hwaiting hdue⟩
  | retry hrunning hretry => exact ⟨_, .retry hrunning hretry⟩
  | finish hrunning hends => exact ⟨_, .finish hrunning hends⟩
  | close hunread => exact ⟨_, .close⟩
  | abandon hclosed hwaiting => exact ⟨_, .abandon hclosed hwaiting⟩
  | pass => exact ⟨_, .pass⟩

/-- A move is a step, or closes the queue, or loses calls of a closed one. -/
theorem Moves.step_or (hmove : workload.Moves move next) :
    workload.Step next ∨ next = workload.closing ∨
      workload.queue.closed = true ∧ next = workload.losing := by
  cases hmove with
  | accept hclock haccepted => exact .inl (.accept hclock haccepted)
  | refuse hclock hrefused => exact .inl (.refuse hclock hrefused)
  | crash hclock hcrashed => exact .inl (.crash hclock hcrashed)
  | read hunread hfront => exact .inl (.read hunread hfront)
  | begin hwaiting hdue => exact .inl (.begin hwaiting hdue)
  | retry hrunning hretry => exact .inl (.retry hrunning hretry)
  | finish hrunning hends => exact .inl (.finish hrunning hends)
  | close => exact .inr (.inl rfl)
  | lose hclosed => exact .inr (.inr ⟨hclosed, rfl⟩)
  | abandon hclosed hwaiting => exact .inl (.abandon hclosed hwaiting)
  | pass => exact .inl .pass

theorem reading_eq {front : List (Nat × QueuedCall ρ)} (hfront : front ≠ [])
    (back : List (Nat × QueuedCall ρ)) :
    workload.reading front back =
      { workload with
        queue := { workload.queue with
          unread := back.map Prod.snd
          waiting := workload.queue.waiting.map Waiting.overtake ++
            (front.map Prod.snd).map workload.queue.waitFor }
        unread := back
        waiting := workload.waiting.map (Prod.map id Waiting.overtake) ++
          front.map (Prod.map id workload.queue.waitFor) } := by
  have hread : (front.map Prod.snd).isEmpty = false := by simpa using hfront
  simp only [reading, TimedQueue.receive, hread]
  rfl

/-- What an offer comes to is one of the outcomes told. -/
theorem offered_of_enqueue {queue after : TimedQueue ρ} {now : Nat} {call : QueuedCall ρ}
    {answer : Option (Except QueueError Unit)}
    (hanswer : queue.enqueue now call = (after, answer)) :
    queue.Offered now call after answer := by
  have hoffered := queue.offered_enqueue now call
  rwa [hanswer] at hoffered

/-- A closed queue stays closed. -/
theorem Moves.closed (hmove : workload.Moves move next)
    (hclosed : workload.queue.closed = true) : next.queue.closed = true := by
  cases hmove with
  | accept hclock haccepted =>
      cases offered_of_enqueue haccepted
      exact hclosed
  | refuse hclock hrefused => cases offered_of_enqueue hrefused <;> exact hclosed
  | crash hclock hcrashed =>
      cases offered_of_enqueue hcrashed
      exact hclosed
  | read hunread hfront =>
      rw [reading_eq hfront]
      exact hclosed
  | retry hrunning hretry =>
      rw [TimedQueue.settle_of_retry hretry]
      exact hclosed
  | finish hrunning hends =>
      rw [TimedQueue.settle_of_end hends]
      exact hclosed
  | close => rfl
  | begin _ _ | lose _ | abandon _ _ | pass => exact hclosed

/-- Where the queue is open a move was a step of an open queue. -/
theorem Moves.step_of_open (hmove : workload.Moves move next)
    (hopen : next.queue.closed = false) :
    workload.queue.closed = false ∧ workload.Step next := by
  have hbefore : workload.queue.closed = false := by
    apply Bool.eq_false_iff.mpr
    intro hclosed
    rw [hmove.closed hclosed] at hopen
    cases hopen
  refine ⟨hbefore, ?_⟩
  rcases hmove.step_or with hstep | rfl | ⟨hclosed, -⟩
  · exact hstep
  · cases hopen
  · rw [hbefore] at hclosed
    cases hclosed

/-! ## Courses and runs -/

/-- Every run is a course of moves. -/
theorem exists_course (hsteps : Steps workload next) : ∃ moves, Course workload moves next := by
  induction hsteps with
  | refl => exact ⟨[], .nil⟩
  | tail _ hlast ih =>
      obtain ⟨moves, hcourse⟩ := ih
      obtain ⟨move, hmove⟩ := exists_move hlast
      exact ⟨moves ++ [move], .concat hcourse hmove⟩

/-- A course that leaves the queue open is a run. -/
theorem Course.steps (hcourse : Course workload moves reached)
    (hopen : reached.queue.closed = false) : Steps workload reached := by
  induction hcourse with
  | nil => exact .refl
  | concat _ hmove ih =>
      obtain ⟨hbefore, hstep⟩ := hmove.step_of_open hopen
      exact .tail (ih hbefore) hstep

theorem Course.append (hfirst : Course workload moves reached)
    (hrest : Course reached more next) : Course workload (moves ++ more) next := by
  induction hrest with
  | nil =>
      rw [List.append_nil]
      exact hfirst
  | concat _ hmove ih =>
      rw [← List.append_assoc]
      exact .concat ih hmove

/-- What every move preserves is preserved by a course. -/
theorem Course.preserve {holds : Workload ρ → Prop} (hcourse : Course workload moves reached)
    (hmove : ∀ {before after move}, holds before → before.Moves move after → holds after)
    (hstart : holds workload) : holds reached := by
  induction hcourse with
  | nil => exact hstart
  | concat _ hlast ih => exact hmove ih hlast

end Workload
end Plugboard
