import Mathlib.Algebra.Ring.Nat
import Plugboard.Proofs.Queue.Lives

/-!
# Every accepted call ends

As long as a queue is open there is something to do for every call in play: what is unread can
be read, a wait can come to its end, an attempt can come out, and each takes the call further.
So every call can be brought to its end, however the attempts come out.  And every call does
end where the worker goes on reading, every wait comes to its end and every attempt comes out.
-/

namespace Plugboard

variable {ρ : Type}

namespace Workload

variable {reached workload next : Workload ρ} {moves more : List (Move ρ)} {move : Move ρ}
  {ticket : Nat} {call : QueuedCall ρ} {stage : Stage} {answers : Nat → AttemptOutcome}
  {name : String} {capacity time : Nat}

/-! ## How the attempts come out -/

/-- The attempts of a call have come out as they are answered. -/
def ComeOut (answers : Nat → AttemptOutcome) (ticket : Nat) (moves : List (Move ρ)) : Prop :=
  ∀ attempt outcome, (outcomes ticket moves)[attempt]? = some outcome → outcome = answers attempt

theorem ComeOut.earlier (hlater : ComeOut answers ticket (moves ++ more)) :
    ComeOut answers ticket moves := by
  intro attempt outcome houtcome
  apply hlater attempt outcome
  rw [outcomes_append, List.getElem?_append_left (List.getElem?_eq_some_iff.mp houtcome).1]
  exact houtcome

/-- Where no attempt of the call comes out, nothing is to be answered. -/
theorem ComeOut.append (hanswers : ComeOut answers ticket moves)
    (hnone : outcomes ticket more = []) : ComeOut answers ticket (moves ++ more) := by
  intro attempt outcome houtcome
  rw [outcomes_append, hnone, List.append_nil] at houtcome
  exact hanswers attempt outcome houtcome

theorem ComeOut.settle (hanswers : ComeOut answers ticket moves) {other : Nat}
    {attempted : Waiting ρ}
    (hlength : other = ticket → (outcomes ticket moves).length = attempted.retries) :
    ComeOut answers ticket
      (moves ++ [.settle other attempted (answers attempted.retries) time]) := by
  intro attempt outcome houtcome
  rw [outcomes_concat, Move.outcome?] at houtcome
  by_cases hsame : other = ticket
  · rw [if_pos hsame, Option.toList_some] at houtcome
    rcases Nat.lt_trichotomy attempt (outcomes ticket moves).length with hlt | rfl | hgt
    · rw [List.getElem?_append_left hlt] at houtcome
      exact hanswers attempt outcome houtcome
    · rw [List.getElem?_concat_length, ← hlength hsame] at houtcome
      exact (Option.some.inj houtcome).symm
    · rw [List.getElem?_eq_none (by simpa using Nat.succ_le_of_lt hgt)] at houtcome
      cases houtcome
  · rw [if_neg hsame, Option.toList_none, List.append_nil] at houtcome
    exact hanswers attempt outcome houtcome

/-! ## How far a call has come -/

def Stage.rank : Stage → Nat
  | .unread => 0
  | .waiting retries _ => 3 * retries + 1
  | .running retries => 3 * retries + 2
  | .ended retries _ => 3 * retries + 3

theorem Stage.rank_eq (stage : Stage) :
    stage.rank = stage.paused + stage.begun + stage.settled := by
  cases stage <;> simp only [rank, paused, begun, settled] <;> omega

/-- With more moves a call has come at least as far. -/
theorem Life.rank_le {more : List (Move ρ)} {later : Stage} (hlife : Life ticket call moves stage)
    (hlater : Life ticket call (moves ++ more) later) : stage.rank ≤ later.rank := by
  obtain ⟨hpauses, hbeginnings, houtcomes, -⟩ := hlife.counts
  obtain ⟨hpauses', hbeginnings', houtcomes', -⟩ := hlater.counts
  rw [pauses_append, List.length_append] at hpauses'
  rw [beginnings_append, List.length_append] at hbeginnings'
  rw [outcomes_append, List.length_append] at houtcomes'
  rw [Stage.rank_eq, Stage.rank_eq]
  omega

/-- A call goes through no more stages than its retries allow. -/
theorem Life.rank_le_bound (hlife : Life ticket call moves stage) :
    stage.rank ≤ 3 * call.options.retries.toNat + 3 := by
  have hle := hlife.retries_le
  cases stage <;> simp only [Stage.rank, Stage.retries] at hle ⊢ <;> omega

theorem ticketsAt_of_rank_eq (workload : Workload ρ) {further : Stage}
    (hrank : stage.rank = further.rank) :
    workload.ticketsAt stage = workload.ticketsAt further := by
  cases stage <;> cases further <;> simp only [Stage.rank] at hrank <;>
    first | rfl | (exfalso; omega)

/-! ## What is left to do -/

/-- What a call in play has still to go through. -/
def ahead (entry : Nat × QueuedCall ρ × Stage) : Nat :=
  3 * entry.2.1.options.retries.toNat + 3 - entry.2.2.rank

def remaining (workload : Workload ρ) : Nat := (workload.standing.map ahead).sum

/-- Less is left to do where calls have come further. -/
theorem remaining_lt {gone come rest : List (Nat × QueuedCall ρ × Stage)}
    (hbefore : workload.standing.Perm (gone ++ rest))
    (hafter : next.standing.Perm (come ++ rest))
    (hless : (come.map ahead).sum < (gone.map ahead).sum) :
    next.remaining < workload.remaining := by
  have hsum {state : Workload ρ} {here : List (Nat × QueuedCall ρ × Stage)}
      (hperm : state.standing.Perm (here ++ rest)) :
      state.remaining = (here.map ahead).sum + (rest.map ahead).sum := by
    rw [remaining, (hperm.map ahead).sum_nat, List.map_append, List.sum_append]
  rw [hsum hbefore, hsum hafter]
  exact Nat.add_lt_add_right hless _

/-- More moves take the calls further and leave the queue open. -/
def Furthers (workload : Workload ρ) (more : List (Move ρ)) (next : Workload ρ) : Prop :=
  Course workload more next ∧ next.queue.closed = false ∧ next.remaining < workload.remaining

/-- Where calls are unread the worker can read them. -/
theorem exists_furthers_of_unread (hopen : workload.queue.closed = false)
    (hunread : workload.unread ≠ []) (hanswers : ComeOut answers ticket moves) :
    ∃ more next, workload.Furthers more next ∧ ComeOut answers ticket (moves ++ more) := by
  obtain ⟨entry, back, hhead⟩ := List.exists_cons_of_ne_nil hunread
  have hsplit : workload.unread = [entry] ++ back := hhead
  have hfront : [entry] ≠ [] := List.cons_ne_nil _ _
  have hless : (workload.reading [entry] back).remaining < workload.remaining := by
    refine remaining_lt (standing_of_unread hsplit) (standing_reading hfront back) ?_
    simp [ahead, asUnread, asWaiting, Stage.rank, TimedQueue.waitFor]
  refine ⟨_, _, ⟨.concat .nil (.read hsplit hfront), ?_, hless⟩, hanswers.append rfl⟩
  rw [reading_eq hfront]
  exact hopen

/-- Where calls wait one of them can begin. -/
theorem exists_furthers_of_waiting (hopen : workload.queue.closed = false)
    (hliving : workload.Living moves) (hwaiting : workload.waiting ≠ [])
    (hanswers : ComeOut answers ticket moves) :
    ∃ more next, workload.Furthers more next ∧ ComeOut answers ticket (moves ++ more) := by
  obtain ⟨⟨other, held⟩, back, hhead⟩ := List.exists_cons_of_ne_nil hwaiting
  let later := { workload with queue := workload.queue.advanceTo held.due }
  have hheld : later.waiting = [] ++ (other, held) :: back := hhead
  have hpass : workload.Moves (.pass held.due) later := .pass
  have hbegin := Moves.begin hheld (Nat.le_max_right workload.queue.time held.due)
  have hstood := standing_of_waiting hheld
  have hmember := hstood.symm.subset (List.mem_append_left _ (List.mem_singleton_self _))
  have hretries : held.retries ≤ held.call.options.retries.toNat :=
    (hliving.lives _ _ _ hmember).retries_le
  have hahead : ahead (asRunning (other, held)) < ahead (asWaiting (other, held)) := by
    simp only [ahead, asWaiting, asRunning, Stage.rank]
    omega
  have hless := remaining_lt hstood (standing_beginning ([] ++ back) (other, held)) hahead
  exact ⟨_, _, ⟨.concat (.concat .nil hpass) hbegin, hopen, hless⟩, hanswers.append rfl⟩

/-- Where attempts run one of them can come out. -/
theorem exists_furthers_of_running (hopen : workload.queue.closed = false)
    (hliving : workload.Living moves) (hrunning : workload.running ≠ [])
    (hanswers : ComeOut answers ticket moves) :
    ∃ more next, workload.Furthers more next ∧ ComeOut answers ticket (moves ++ more) := by
  obtain ⟨⟨other, attempted⟩, back, hhead⟩ := List.exists_cons_of_ne_nil hrunning
  have hheld : workload.running = [] ++ (other, attempted) :: back := hhead
  have hstood := standing_of_running hheld
  have hmember := hstood.symm.subset (List.mem_append_left _ (List.mem_singleton_self _))
  have hlife : Life other attempted.call moves (.running attempted.retries) :=
    hliving.lives _ _ _ hmember
  have hretries : attempted.retries ≤ attempted.call.options.retries.toNat := hlife.retries_le
  have hanswered : ComeOut answers ticket (moves ++
      [.settle other attempted (answers attempted.retries) workload.queue.time]) := by
    refine hanswers.settle ?_
    rintro rfl
    exact hlife.settled_eq
  cases hends : TimedQueue.endOf? attempted (answers attempted.retries) with
  | none =>
      have hmay := (TimedQueue.endOf?_eq_none_iff.mp hends).2
      have hahead : ahead (asWaiting (other, workload.queue.again attempted)) <
          ahead (asRunning (other, attempted)) := by
        simp only [ahead, asWaiting, asRunning, Stage.rank, TimedQueue.again]
        omega
      have hless := remaining_lt hstood
        (standing_again (workload.queue.settle attempted (answers attempted.retries)) ([] ++ back)
          (other, workload.queue.again attempted)) hahead
      refine ⟨_, _, ⟨.concat .nil (.retry hheld hends), ?_, hless⟩, hanswered⟩
      rw [TimedQueue.settle_of_retry hends]
      exact hopen
  | some how =>
      have hmove := Moves.finish hheld hends
      have hafter : ({ workload with
          queue := workload.queue.settle attempted (answers attempted.retries)
          running := [] ++ back
          history := .ended other attempted.call how :: workload.history }).standing.Perm
            ([] ++ ({ workload with running := [] ++ back }).standing) := .refl _
      have hahead : 0 < ahead (asRunning (other, attempted)) := by
        simp only [ahead, asRunning, Stage.rank]
        omega
      have hless := remaining_lt hstood hafter hahead
      refine ⟨_, _, ⟨.concat .nil hmove, ?_, hless⟩, hanswered⟩
      rw [TimedQueue.settle_of_end hends]
      exact hopen

/-- As long as calls are in play they can be taken further. -/
theorem exists_furthers (hopen : workload.queue.closed = false)
    (hliving : workload.Living moves) (hplay : workload.standing ≠ [])
    (hanswers : ComeOut answers ticket moves) :
    ∃ more next, workload.Furthers more next ∧ ComeOut answers ticket (moves ++ more) := by
  by_cases hunread : workload.unread = []
  · by_cases hwaiting : workload.waiting = []
    · refine exists_furthers_of_running hopen hliving (fun hrunning => hplay ?_) hanswers
      rw [standing, hunread, hwaiting, hrunning]
      rfl
    · exact exists_furthers_of_waiting hopen hliving hwaiting hanswers
  · exact exists_furthers_of_unread hopen hunread hanswers

/-- All calls in play can be brought to their end. -/
theorem exists_settled (hcourse : Course (start name capacity) moves reached)
    (hopen : reached.queue.closed = false) (hanswers : ComeOut answers ticket moves) :
    ∃ more final, Course reached more final ∧ final.queue.closed = false ∧
      final.standing = [] ∧ ComeOut answers ticket (moves ++ more) := by
  induction hleft : reached.remaining using Nat.strongRecOn generalizing reached moves with
  | ind left ih =>
      by_cases hplay : reached.standing = []
      · exact ⟨[], reached, .nil, hopen, hplay, by rwa [List.append_nil]⟩
      · obtain ⟨more, next, ⟨hfurther, hstill, hless⟩, hanswered⟩ :=
          exists_furthers hopen (hcourse.living hopen) hplay hanswers
        obtain ⟨rest, final, hrest, hfinal, hnone, hagree⟩ :=
          ih _ (hleft ▸ hless) (hcourse.append hfurther) hstill hanswered rfl
        refine ⟨more ++ rest, final, hfurther.append hrest, hfinal, hnone, ?_⟩
        rwa [← List.append_assoc]

/-! ## Runs without end -/

/-- A run without end from a workload on, in which the queue is never closed. -/
structure Endless (workload : Workload ρ) where
  state : Nat → Workload ρ
  move : Nat → Move ρ
  first : state 0 = workload
  moves : ∀ moment, (state moment).Moves (move moment) (state (moment + 1))
  opened : ∀ moment, (state moment).queue.closed = false

namespace Endless

def past (run : Endless workload) (moment : Nat) : List (Move ρ) :=
  (List.range moment).map run.move

/-- What is asked of everything around the queue: the worker goes on reading, a wait comes to
its end and is followed by the attempt, and an attempt comes out. -/
structure Fair (run : Endless workload) : Prop where
  reads : ∀ moment, ∀ ticket ∈ (run.state moment).unread.map Prod.fst,
    ∃ later ≥ moment, ticket ∉ (run.state later).unread.map Prod.fst
  wakes : ∀ moment, ∀ ticket ∈ (run.state moment).waiting.map Prod.fst,
    ∃ later ≥ moment, ticket ∉ (run.state later).waiting.map Prod.fst
  returns : ∀ moment, ∀ ticket ∈ (run.state moment).running.map Prod.fst,
    ∃ later ≥ moment, ticket ∉ (run.state later).running.map Prod.fst

/-- In a fair run no call stays where it is. -/
theorem Fair.leaves {run : Endless workload} (hfair : run.Fair) (moment : Nat) (stage : Stage) :
    ∀ ticket ∈ (run.state moment).ticketsAt stage,
      ∃ later ≥ moment, ticket ∉ (run.state later).ticketsAt stage := by
  cases stage with
  | unread => exact hfair.reads moment
  | waiting retries due => exact hfair.wakes moment
  | running retries => exact hfair.returns moment
  | ended retries how =>
      intro ticket hnone
      cases hnone

theorem course (run : Endless workload) (moment : Nat) :
    Course workload (run.past moment) (run.state moment) := by
  induction moment with
  | zero =>
      rw [run.first]
      exact .nil
  | succ moment ih =>
      rw [past, List.range_succ, List.map_append]
      exact .concat ih (run.moves moment)

theorem past_append (run : Endless workload) {moment later : Nat} (hlater : moment ≤ later) :
    ∃ more, run.past later = run.past moment ++ more := by
  obtain ⟨between, rfl⟩ := Nat.exists_eq_add_of_le hlater
  rw [past, List.range_add, List.map_append]
  exact ⟨_, rfl⟩

/-- Nothing is left to do, and time passes. -/
def idle (hopen : workload.queue.closed = false) : Endless workload where
  state := fun _ => workload
  move := fun _ => .pass 0
  first := rfl
  moves := by
    intro moment
    have hsame : workload.queue.advanceTo 0 = workload.queue :=
      congrArg (fun time => { workload.queue with time := time }) (Nat.max_zero _)
    have hpass : workload.Moves (.pass 0) { workload with queue := workload.queue.advanceTo 0 } :=
      .pass
    rwa [hsame] at hpass
  opened := fun _ => hopen

/-- One move, and then a run. -/
def preceded (run : Endless next) (hmove : workload.Moves move next) : Endless workload where
  state
    | 0 => workload
    | moment + 1 => run.state moment
  move
    | 0 => move
    | moment + 1 => run.move moment
  first := rfl
  moves := by
    intro moment
    cases moment with
    | zero =>
        change workload.Moves move (run.state 0)
        rwa [run.first]
    | succ moment => exact run.moves moment
  opened := by
    intro moment
    cases moment with
    | zero =>
        have hopen := run.opened 0
        rw [run.first] at hopen
        exact (hmove.step_of_open hopen).1
    | succ moment => exact run.opened moment

theorem past_preceded (run : Endless next) (hmove : workload.Moves move next) (moment : Nat) :
    (run.preceded hmove).past (moment + 1) = move :: run.past moment := by
  rw [past, List.range_succ_eq_map, List.map_cons, List.map_map]
  rfl

end Endless

/-- A course that goes on as a run. -/
theorem Course.exists_run (hcourse : Course workload moves reached) (run : Endless reached) :
    ∃ whole : Endless workload, ∀ moment,
      whole.past (moves.length + moment) = moves ++ run.past moment ∧
        whole.state (moves.length + moment) = run.state moment := by
  induction hcourse with
  | nil =>
      refine ⟨run, fun moment => ?_⟩
      rw [List.length_nil, Nat.zero_add]
      exact ⟨rfl, rfl⟩
  | concat _ hmove ih =>
      obtain ⟨whole, hwhole⟩ := ih (run.preceded hmove)
      refine ⟨whole, fun moment => ?_⟩
      obtain ⟨hpast, hstate⟩ := hwhole (moment + 1)
      rw [List.length_append, List.length_singleton, Nat.add_assoc, Nat.add_comm 1]
      refine ⟨?_, hstate⟩
      rw [hpast, Endless.past_preceded, List.append_assoc]
      rfl

/-- However the attempts of a call are to come out, there is a fair run in which they do. -/
theorem exists_fair (hcourse : Course (start name capacity) moves reached)
    (hopen : reached.queue.closed = false) (hanswers : ComeOut answers ticket moves) :
    ∃ run : Endless reached, run.Fair ∧
      ∀ moment, ComeOut answers ticket (moves ++ run.past moment) := by
  obtain ⟨more, final, hmore, hfinal, hnone, hanswered⟩ := exists_settled hcourse hopen hanswers
  obtain ⟨run, hrun⟩ := hmore.exists_run (Endless.idle hfinal)
  have hempty (stage : Stage) : final.ticketsAt stage = [] := by
    obtain ⟨hunread, hwaiting, hrunning⟩ :
        final.unread = [] ∧ final.waiting = [] ∧ final.running = [] := by
      simpa [standing, and_assoc] using hnone
    cases stage <;> simp [ticketsAt, hunread, hwaiting, hrunning]
  have hleaves (moment : Nat) (stage : Stage) (other : Nat) :
      ∃ later ≥ moment, other ∉ (run.state later).ticketsAt stage := by
    refine ⟨more.length + moment, Nat.le_add_left _ _, ?_⟩
    rw [(hrun moment).2]
    change other ∉ final.ticketsAt stage
    rw [hempty]
    exact List.not_mem_nil
  refine ⟨run, ⟨?_, ?_, ?_⟩, fun moment => ?_⟩
  · exact fun moment other _ => hleaves moment .unread other
  · exact fun moment other _ => hleaves moment (.waiting 0 0) other
  · exact fun moment other _ => hleaves moment (.running 0) other
  · obtain ⟨rest, hrest⟩ := run.past_append (Nat.le_add_left moment more.length)
    have hidle : outcomes ticket ((Endless.idle hfinal).past moment) = [] := by
      simp [outcomes, Endless.past, Endless.idle, Move.outcome?]
    have hlater := hanswered.append hidle
    rw [List.append_assoc, ← (hrun moment).1, hrest, ← List.append_assoc] at hlater
    exact hlater.earlier

/-! ## Every call ends -/

/-- What has happened is not forgotten. -/
theorem Moves.history_subset (hmove : workload.Moves move next) :
    workload.history ⊆ next.history := by
  cases hmove with
  | accept _ _ | refuse _ _ | finish _ _ | abandon _ _ => exact List.subset_cons_self _ _
  | crash _ _ | read _ _ | begin _ _ | retry _ _ | close | lose _ | pass =>
      exact List.Subset.refl _

namespace Endless

/-- At every moment an accepted call has a life and stands where that life has come to. -/
theorem exists_life (run : Endless reached) (hcourse : Course (start name capacity) moves reached)
    (haccepted : .accepted ticket call time ∈ reached.history) (moment : Nat) :
    ∃ stage, Life ticket call (moves ++ run.past moment) stage ∧
      Stands ticket call stage (run.state moment) := by
  have hlater := hcourse.append (run.course moment)
  have hsteps := hlater.steps (run.opened moment)
  have hkept : reached.history ⊆ (run.state moment).history :=
    @Course.preserve _ _ _ _ (fun later => reached.history ⊆ later.history) (run.course moment)
      (fun hsubset hmove => List.Subset.trans hsubset hmove.history_subset) (List.Subset.refl _)
  exact (hlater.living (run.opened moment)).exists_life hsteps.balanced
    ((traced_start name capacity).steps hsteps) (hkept haccepted)

/-- A call in play comes further. -/
theorem advances (run : Endless reached) (hfair : run.Fair)
    (hcourse : Course (start name capacity) moves reached)
    (haccepted : .accepted ticket call time ∈ reached.history) {moment : Nat}
    (hlife : Life ticket call (moves ++ run.past moment) stage)
    (hstands : (ticket, call, stage) ∈ (run.state moment).standing) :
    ∃ later further, Life ticket call (moves ++ run.past later) further ∧
      Stands ticket call further (run.state later) ∧ stage.rank < further.rank := by
  have hfurther (later : Nat) (hlater : moment ≤ later) :
      ∃ further, Life ticket call (moves ++ run.past later) further ∧
        Stands ticket call further (run.state later) ∧ stage.rank ≤ further.rank := by
    obtain ⟨further, hcontinued, hplace⟩ := run.exists_life hcourse haccepted later
    obtain ⟨more, hmore⟩ := run.past_append hlater
    refine ⟨further, hcontinued, hplace, ?_⟩
    rw [hmore, ← List.append_assoc] at hcontinued
    exact hlife.rank_le hcontinued
  have hplace := mem_ticketsAt hstands
  obtain ⟨later, hlater, hgone⟩ := hfair.leaves moment stage ticket hplace
  obtain ⟨further, hcontinued, hfar, hle⟩ := hfurther later hlater
  refine ⟨later, further, hcontinued, hfar, Nat.lt_of_le_of_ne hle fun hrank => ?_⟩
  rcases hfar with hstill | ⟨retries, how, rfl, -⟩
  · rw [ticketsAt_of_rank_eq _ hrank] at hgone
    exact hgone (mem_ticketsAt hstill)
  · rw [ticketsAt_of_rank_eq _ hrank] at hplace
    cases hplace

/-- A call that has come somewhere comes to its end. -/
theorem exists_ended_of_stands (run : Endless reached) (hfair : run.Fair)
    (hcourse : Course (start name capacity) moves reached)
    (haccepted : .accepted ticket call time ∈ reached.history) (moment : Nat) (stage : Stage)
    (hlife : Life ticket call (moves ++ run.past moment) stage)
    (hstands : Stands ticket call stage (run.state moment)) :
    ∃ later retries how, Life ticket call (moves ++ run.past later) (.ended retries how) ∧
      (ticket, how) ∈ (run.state later).history.ends := by
  induction hleft : 3 * call.options.retries.toNat + 3 - stage.rank using Nat.strongRecOn
    generalizing moment stage with
  | ind left ih =>
      rcases hstands with hplay | ⟨retries, how, rfl, hended⟩
      · obtain ⟨later, further, hcontinued, hfar, hrank⟩ :=
          run.advances hfair hcourse haccepted hlife hplay
        have hbound := hcontinued.rank_le_bound
        exact ih _ (by omega) later further hcontinued hfar rfl
      · exact ⟨moment, retries, how, hlife, hended⟩

end Endless

end Workload
end Plugboard
