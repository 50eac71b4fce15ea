import Mathlib.Data.List.Nodup
import Plugboard.Proofs.Queue.Liveness

/-!
# The schedule of attempts

How the attempts of a call come out decides how many there are.  In a queue that is never
closed a call is attempted so often and no more, it waits as it is to before each attempt, and
it ends with the last one.
-/

namespace Plugboard

variable {ρ : Type}

def AttemptOutcome.isFailure : AttemptOutcome → Bool
  | .failure _ => true
  | .value _ | .panic _ => false

namespace Workload

/-! ## The last attempt -/

/-- The number of the attempt that ends a call whose attempts come out like this: the first
that is no failure or, if the retries do not reach it, the one after the last retry. -/
def lastAttempt (retries : Nat) (outcome : Nat → AttemptOutcome) : Nat :=
  (List.range retries).findIdx (fun attempt => !(outcome attempt).isFailure) + 1

section LastAttempt

variable {retries attempts : Nat} {outcome : Nat → AttemptOutcome}

theorem lastAttempt_le (retries : Nat) (outcome : Nat → AttemptOutcome) :
    lastAttempt retries outcome ≤ retries + 1 := by
  have hle : (List.range retries).findIdx (fun attempt => !(outcome attempt).isFailure) ≤
      (List.range retries).length := List.findIdx_le_length
  rw [List.length_range] at hle
  exact Nat.succ_le_succ hle

/-- The last attempt is the first that is no failure, or the one after the last retry. -/
theorem lastAttempt_eq (hle : attempts ≤ retries)
    (hfailures : ∀ attempt < attempts, (outcome attempt).isFailure = true)
    (hlast : (outcome attempts).isFailure = true → attempts = retries) :
    lastAttempt retries outcome = attempts + 1 := by
  rw [lastAttempt, Nat.add_right_cancel_iff]
  rcases Nat.eq_or_lt_of_le hle with rfl | hlt
  · have hnone : ∀ attempt ∈ List.range attempts, (!(outcome attempt).isFailure) = false := by
      intro attempt hattempt
      simp [hfailures attempt (List.mem_range.mp hattempt)]
    rw [List.findIdx_eq_length_of_false hnone, List.length_range]
  · have hbound : attempts < (List.range retries).length := by rwa [List.length_range]
    rw [List.findIdx_eq hbound]
    constructor
    · rw [List.getElem_range, Bool.not_eq_true', Bool.eq_false_iff]
      exact fun hfailure => Nat.ne_of_lt hlt (hlast hfailure)
    · intro attempt hattempt
      simp [hfailures attempt hattempt]

/-- Where every attempt so far has failed and retries are left, the last is still to come. -/
theorem lt_lastAttempt (hle : attempts ≤ retries)
    (hfailures : ∀ attempt < attempts, (outcome attempt).isFailure = true) :
    attempts < lastAttempt retries outcome := by
  rcases Nat.eq_or_lt_of_le hle with rfl | hlt
  · rw [lastAttempt_eq (Nat.le_refl attempts) hfailures fun _ => rfl]
    exact Nat.lt_succ_self attempts
  · have hbound : attempts < (List.range retries).length := by rwa [List.length_range]
    refine Nat.lt_succ_of_le (List.le_findIdx_of_not hbound fun attempt hattempt => ?_)
    simp [hfailures attempt hattempt]

end LastAttempt

/-! ## What has happened to a call -/

variable {reached workload next : Workload ρ} {moves : List (Move ρ)} {move : Move ρ}
  {ticket : Nat} {call : QueuedCall ρ} {stage : Stage} {answers : Nat → AttemptOutcome}

/-- All attempts but the last have failed. -/
theorem Life.isFailure (hlife : Life ticket call moves stage)
    (hanswers : ComeOut answers ticket moves) :
    ∀ attempt < stage.retries, (answers attempt).isFailure = true := by
  intro attempt hattempt
  obtain ⟨failure, hfailure⟩ := hlife.failures hattempt
  rw [← hanswers attempt _ hfailure]
  rfl

/-- A call that is over has had its last attempt, which tells how it ended. -/
theorem Life.ended {retries : Nat} {how : CallEnd}
    (hlife : Life ticket call moves (.ended retries how))
    (hanswers : ComeOut answers ticket moves) :
    lastAttempt call.options.retries.toNat answers = retries + 1 ∧
      (how = .completed ↔ ∃ value, answers retries = .value value) ∧
      (how = .failed ↔ (∃ message, answers retries = .panic message) ∨
        (∃ failure, answers retries = .failure failure) ∧
          retries = call.options.retries.toNat) := by
  obtain ⟨attempted, outcome, rfl, rfl, hends, houtcome⟩ := hlife.ending rfl
  have hle : attempted.retries ≤ attempted.call.options.retries.toNat := hlife.retries_le
  rw [← hanswers _ _ houtcome]
  refine ⟨lastAttempt_eq hle (hlife.isFailure hanswers) ?_, ?_, ?_⟩
  · intro hfailure
    rw [← hanswers _ _ houtcome] at hfailure
    cases outcome with
    | value _ | panic _ => cases hfailure
    | failure failure =>
        refine Nat.le_antisymm hle (Nat.not_lt.mp fun hlt => ?_)
        rw [TimedQueue.endOf?_eq_none_iff.mpr ⟨⟨failure, rfl⟩, hlt⟩] at hends
        cases hends
  · rw [← TimedQueue.endOf?_eq_completed_iff, hends, Option.some.injEq]
  · have hbound : attempted.retries = attempted.call.options.retries.toNat ↔
        attempted.call.options.retries.toNat ≤ attempted.retries :=
      ⟨fun hsame => Nat.le_of_eq hsame.symm, Nat.le_antisymm hle⟩
    rw [hbound, ← TimedQueue.endOf?_eq_failed_iff, hends, Option.some.injEq]

/-- The attempts of a call, of which the last has the number `last`, follow the schedule: there
are no more, each begins when its pause is over, each but the last counts as a retry, and the
call is over once the last has come out, completed or failed as that did. -/
structure Scheduled (answers : Nat → AttemptOutcome) (last : Nat) (ticket : Nat)
    (call : QueuedCall ρ) (moves : List (Move ρ)) (reached : Workload ρ) : Prop where
  begun : (beginnings ticket moves).length ≤ last
  settled : (outcomes ticket moves).length ≤ last
  waits : ∀ attempt due time, (beginnings ticket moves)[attempt]? = some (due, time) →
    ∃ since, (pauses ticket moves)[attempt]? = some since ∧
      due = since + call.options.pause attempt ∧ due ≤ time
  retried : (retried moves).count ticket = min (outcomes ticket moves).length (last - 1)
  once : (reached.history.ends.map Prod.fst).count ticket =
    if (outcomes ticket moves).length = last then 1 else 0
  completed : (ticket, .completed) ∈ reached.history.ends ↔
    (outcomes ticket moves).length = last ∧ ∃ value, answers (last - 1) = .value value
  failed : (ticket, .failed) ∈ reached.history.ends ↔
    (outcomes ticket moves).length = last ∧
      ((∃ message, answers (last - 1) = .panic message) ∨
        (∃ failure, answers (last - 1) = .failure failure) ∧
          last = call.options.retries.toNat + 1)

/-- While a call is in play its last attempt has not come out. -/
theorem Scheduled.of_standing (hbalanced : reached.Balanced)
    (hlife : Life ticket call moves stage) (hanswers : ComeOut answers ticket moves)
    (hstands : (ticket, call, stage) ∈ reached.standing) :
    Scheduled answers (lastAttempt call.options.retries.toNat answers) ticket call moves
      reached := by
  have hless := lt_lastAttempt hlife.retries_le (hlife.isFailure hanswers)
  generalize lastAttempt call.options.retries.toNat answers = last at hless
  obtain ⟨hpauses, hbeginnings, houtcomes, hretried⟩ := hlife.counts
  have hplace := mem_ticketsAt hstands
  have hstage : stage.settled = stage.retries ∧ stage.begun ≤ stage.retries + 1 := by
    cases stage with
    | unread => exact ⟨rfl, Nat.zero_le _⟩
    | waiting retries due => exact ⟨rfl, Nat.le_succ _⟩
    | running retries => exact ⟨rfl, Nat.le_refl _⟩
    | ended retries how => cases hplace
  have hplay : ticket ∈ reached.inPlay := by
    rw [← tickets_standing]
    exact List.mem_map_of_mem hstands
  have hover : ticket ∉ reached.history.ends.map Prod.fst := fun hended =>
    (List.nodup_append.mp hbalanced.placed.nodup_places).2.2 ticket hplay ticket hended rfl
  have hnone (how : CallEnd) : (ticket, how) ∉ reached.history.ends := fun hended =>
    hover (List.mem_map_of_mem hended)
  have hlength : (outcomes ticket moves).length ≠ last := by omega
  constructor
  case begun => omega
  case settled => omega
  case waits => exact fun attempt due time hbegun => hlife.waits hbegun
  case retried => omega
  case once => rw [List.count_eq_zero.mpr hover, if_neg hlength]
  case completed => simp [hnone, hlength]
  case failed => simp [hnone, hlength]

/-- A call that is over has followed its schedule. -/
theorem Scheduled.of_ended (hbalanced : reached.Balanced) {retries : Nat} {how : CallEnd}
    (hlife : Life ticket call moves (.ended retries how)) (hanswers : ComeOut answers ticket moves)
    (hended : (ticket, how) ∈ reached.history.ends) :
    Scheduled answers (lastAttempt call.options.retries.toNat answers) ticket call moves
      reached := by
  obtain ⟨hlast, hcompleted, hfailed⟩ := hlife.ended hanswers
  rw [hlast]
  obtain ⟨hpauses, hbeginnings, houtcomes, hretried⟩ := hlife.counts
  simp only [Stage.begun, Stage.settled, Stage.retries] at hbeginnings houtcomes hretried
  have honly (way : CallEnd) : (ticket, way) ∈ reached.history.ends ↔ how = way := by
    constructor
    · intro hway
      have hsame := List.inj_on_of_nodup_map hbalanced.placed.nodup_ends hended hway rfl
      exact (Prod.mk.inj hsame).2
    · rintro rfl
      exact hended
  have hmem : ticket ∈ reached.history.ends.map Prod.fst := List.mem_map_of_mem hended
  constructor
  case begun => exact Nat.le_of_eq hbeginnings
  case settled => exact Nat.le_of_eq houtcomes
  case waits => exact fun attempt due time hbegun => hlife.waits hbegun
  case retried =>
    rw [hretried, houtcomes, Nat.add_sub_cancel]
    exact (Nat.min_eq_right (Nat.le_succ retries)).symm
  case once => rw [List.count_eq_one_of_mem hbalanced.placed.nodup_ends hmem, if_pos houtcomes]
  case completed => simp [honly, houtcomes, hcompleted]
  case failed => simp [honly, houtcomes, hfailed]

/-! ## The count of retries -/

/-- Each retry is counted when its attempt comes out. -/
theorem retried_moves (hmove : workload.Moves move next) :
    next.queue.stats.retried =
      workload.queue.stats.retried + move.retried?.toList.length := by
  cases hmove with
  | accept hclock haccepted =>
      cases offered_of_enqueue haccepted
      rfl
  | refuse hclock hrefused => cases offered_of_enqueue hrefused <;> rfl
  | crash hclock hcrashed =>
      cases offered_of_enqueue hcrashed
      rfl
  | read hunread hfront =>
      rw [reading_eq hfront]
      rfl
  | retry hrunning hretry =>
      rw [TimedQueue.settle_of_retry hretry, Move.retried?, if_pos hretry]
      rfl
  | @finish front back ticket attempted outcome how hrunning hends =>
      rw [TimedQueue.settle_of_end hends]
      have hnone : Move.retried? (.settle ticket attempted outcome workload.queue.time) = none := by
        simp [Move.retried?, hends]
      rw [hnone]
      cases how <;> rfl
  | begin _ _ | close | lose _ | abandon _ _ | pass => rfl

/-- The count of retries is that of the attempts that were to be made again. -/
theorem Course.retried {name : String} {capacity : Nat}
    (hcourse : Course (start name capacity) moves reached) :
    reached.queue.stats.retried = (Workload.retried moves).length := by
  induction hcourse with
  | nil => rfl
  | concat _ hmove ih => rw [retried_concat, List.length_append, retried_moves hmove, ih]

/-! ## The schedule -/

/-- In a queue that is open, the attempts of an accepted call follow the schedule that the
retries of the call and the outcomes of its attempts set, in every course of moves; what is
counted as retried are the attempts that were to be made again, and what is pending are the
calls that have not ended.  The queue can go on fairly with whatever outcomes the call is
still to have, and in every fair run with these the last attempt comes out and the call
ends. -/
theorem attempts_follow_schedule {name : String} {capacity time : Nat}
    (hcourse : Course (start name capacity) moves reached)
    (hopen : reached.queue.closed = false)
    (haccepted : .accepted ticket call time ∈ reached.history)
    (hanswers : ComeOut answers ticket moves) :
    let last := lastAttempt call.options.retries.toNat answers
    last ≤ UInt32.size ∧ Scheduled answers last ticket call moves reached ∧
      reached.queue.stats.retried = (retried moves).length ∧
      reached.queue.pending + reached.history.ends.length = reached.history.tickets.length ∧
      (∃ run : Endless reached, run.Fair ∧
        ∀ moment, ComeOut answers ticket (moves ++ run.past moment)) ∧
      ∀ run : Endless reached, run.Fair →
        (∀ moment, ComeOut answers ticket (moves ++ run.past moment)) →
          ∃ moment, (beginnings ticket (moves ++ run.past moment)).length = last ∧
            (outcomes ticket (moves ++ run.past moment)).length = last ∧
            ticket ∈ (run.state moment).history.ends.map Prod.fst := by
  intro last
  have hsteps := hcourse.steps hopen
  have hbalanced := hsteps.balanced
  have htraced := (traced_start name capacity).steps hsteps
  refine ⟨?bound, ?scheduled, hcourse.retried, ?pending,
    exists_fair hcourse hopen hanswers, ?ends⟩
  case bound =>
    have hle := lastAttempt_le call.options.retries.toNat answers
    have hretries := call.options.retries.toNat_lt_size
    omega
  case scheduled =>
    obtain ⟨stage, hlife, hplay | ⟨retries, how, rfl, hended⟩⟩ :=
      (hcourse.living hopen).exists_life hbalanced htraced haccepted
    · exact .of_standing hbalanced hlife hanswers hplay
    · exact .of_ended hbalanced hlife hanswers hended
  case pending =>
    have hlength := hbalanced.placed.places.length_eq
    rw [List.length_append, List.length_map] at hlength
    rw [hlength, hbalanced.pending]
  case ends =>
    intro run hfair hagree
    obtain ⟨stage, hlife, hstands⟩ := run.exists_life hcourse haccepted 0
    obtain ⟨moment, retries, how, hover, hended⟩ :=
      run.exists_ended_of_stands hfair hcourse haccepted 0 stage hlife hstands
    have hlast : last = retries + 1 := (hover.ended (hagree moment)).1
    obtain ⟨-, hbeginnings, houtcomes, -⟩ := hover.counts
    rw [hlast]
    exact ⟨moment, hbeginnings, houtcomes, List.mem_map_of_mem hended⟩

namespace Sample

def stubborn : QueuedCall Unit :=
  { Sample.call () none none with options := { QueueOptions.standard with retries := 1 } }

def offered : Workload Unit :=
  let empty := start "jobs" 1
  empty.accepting (empty.queue.enqueue 0 stubborn).1 0 stubborn

def firstTry : Waiting Unit := ⟨stubborn, 0, 0, false⟩

def tried : Workload Unit :=
  { (offered.reading offered.unread []).taking [] with running := [(0, firstTry)] }

def secondTry : Waiting Unit := tried.queue.again firstTry

def refusal : AttemptOutcome := .failure (.text "busy")

def waitingAgain : Workload Unit :=
  { tried with
    queue := tried.queue.settle firstTry refusal
    waiting := [(0, secondTry)]
    running := [] }

def triedAgain : Workload Unit := { waitingAgain.taking [] with running := [(0, secondTry)] }

def finished : Workload Unit :=
  { triedAgain with
    queue := triedAgain.queue.settle secondTry (.value .null)
    running := []
    history := .ended 0 stubborn .completed :: triedAgain.history }

/-- The first attempt fails, the second one succeeds, and nothing happens from then on. -/
def twice : Endless offered where
  state
    | 0 => offered
    | 1 => offered.reading offered.unread []
    | 2 => tried
    | 3 => waitingAgain
    | 4 => triedAgain
    | _ + 5 => finished
  move
    | 0 => .read [(0, stubborn)] 0
    | 1 => .begin 0 firstTry 0
    | 2 => .settle 0 firstTry refusal 0
    | 3 => .begin 0 secondTry 0
    | 4 => .settle 0 secondTry (.value .null) 0
    | _ + 5 => .pass 0
  first := rfl
  moves := by
    intro moment
    match moment with
    | 0 => exact .read (List.append_nil _).symm (List.cons_ne_nil _ _)
    | 1 =>
        have hwaiting : (offered.reading offered.unread []).waiting = [] ++ (0, firstTry) :: [] :=
          rfl
        exact .begin hwaiting (Nat.le_refl 0)
    | 2 =>
        have hrunning : tried.running = [] ++ (0, firstTry) :: [] := rfl
        have hretry : TimedQueue.endOf? firstTry refusal = none := rfl
        exact .retry hrunning hretry
    | 3 =>
        have hwaiting : waitingAgain.waiting = [] ++ (0, secondTry) :: [] := rfl
        exact .begin hwaiting (Nat.le_refl 0)
    | 4 =>
        have hrunning : triedAgain.running = [] ++ (0, secondTry) :: [] := rfl
        have hends : TimedQueue.endOf? secondTry (.value .null) = some .completed := rfl
        exact .finish hrunning hends
    | _ + 5 => exact .pass
  opened := by
    intro moment
    match moment with
    | 0 | 1 | 2 | 3 | 4 | _ + 5 => rfl

theorem fair_twice : twice.Fair where
  reads := fun moment _ _ => ⟨moment + 5, Nat.le_add_right _ _, List.not_mem_nil⟩
  wakes := fun moment _ _ => ⟨moment + 5, Nat.le_add_right _ _, List.not_mem_nil⟩
  returns := fun moment _ _ => ⟨moment + 5, Nat.le_add_right _ _, List.not_mem_nil⟩

def answered : Nat → AttemptOutcome
  | 0 => refusal
  | _ + 1 => .value .null

theorem course_offered : Course (start "jobs" 1) [.offer 0 stubborn (.ok ())] offered :=
  .concat .nil (.accept (Nat.le_refl 0) rfl)

theorem comeOut_twice (moment : Nat) :
    ComeOut answered 0 ([.offer 0 stubborn (.ok ())] ++ twice.past moment) := by
  have houtcomes (later : Nat) :
      outcomes 0 ([.offer 0 stubborn (.ok ())] ++ twice.past (later + 5)) =
        [refusal, .value .null] := by
    induction later with
    | zero => rfl
    | succ later ih =>
        have hpast : twice.past (later + 1 + 5) = twice.past (later + 5) ++ [.pass 0] := by
          rw [Endless.past, Nat.add_right_comm, List.range_succ, List.map_append]
          rfl
        rw [hpast, ← List.append_assoc, outcomes_concat, ih]
        rfl
  have hlater : ComeOut answered 0 ([.offer 0 stubborn (.ok ())] ++ twice.past (moment + 5)) := by
    intro attempt outcome houtcome
    rw [houtcomes] at houtcome
    rcases attempt with _ | _ | attempt
    · exact (Option.some.inj houtcome).symm
    · exact (Option.some.inj houtcome).symm
    · cases houtcome
  obtain ⟨more, hmore⟩ := twice.past_append (Nat.le_add_right moment 5)
  rw [hmore, ← List.append_assoc] at hlater
  exact hlater.earlier

end Sample

theorem attempts_follow_schedule_of_sample :
    let moves := [.offer 0 Sample.stubborn (.ok ())]
    Course (start "jobs" 1) moves Sample.offered ∧
      Scheduled Sample.answered 2 0 Sample.stubborn moves Sample.offered ∧ Sample.twice.Fair ∧
      ∃ moment, (beginnings 0 (moves ++ Sample.twice.past moment)).length = 2 ∧
        (outcomes 0 (moves ++ Sample.twice.past moment)).length = 2 ∧
        0 ∈ (Sample.twice.state moment).history.ends.map Prod.fst := by
  have haccepted : .accepted 0 Sample.stubborn 0 ∈ Sample.offered.history :=
    List.mem_singleton_self _
  obtain ⟨-, hscheduled, -, -, -, hends⟩ :=
    attempts_follow_schedule Sample.course_offered rfl haccepted (Sample.comeOut_twice 0)
  exact ⟨Sample.course_offered, hscheduled, Sample.fair_twice,
    hends Sample.twice Sample.fair_twice Sample.comeOut_twice⟩

end Workload
end Plugboard
