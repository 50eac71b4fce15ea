import Mathlib.Data.List.Induction
import Plugboard.Proofs.Queue.Exclusivity
import Plugboard.Proofs.Queue.Moves

/-!
# The life of an accepted call

The moves of an open queue that concern one call follow one another in only one way: the call
is read and waits, and then attempts and waits alternate until an attempt ends it.  So where a
call stands says how often it was attempted, and how long it waited before each attempt.
-/

namespace Plugboard

variable {ρ : Type}

/-- What a call waits, in nanoseconds, before its first attempt and before each retry. -/
def QueueOptions.pause (options : QueueOptions) : Nat → Nat
  | 0 => (options.delay.map Duration.nanoseconds).getD 0
  | retry + 1 => ((options.backoff.getD .zero).backoff (retry + 1)).nanoseconds

namespace TimedQueue

variable {attempted : Waiting ρ} {outcome : AttemptOutcome}

/-- An attempt is made again if it failed and retries are left. -/
theorem endOf?_eq_none_iff : endOf? attempted outcome = none ↔
    (∃ failure, outcome = .failure failure) ∧
      attempted.retries < attempted.call.options.retries.toNat := by
  cases outcome <;> simp [endOf?, mayRetry]

theorem endOf?_eq_completed_iff :
    endOf? attempted outcome = some .completed ↔ ∃ value, outcome = .value value := by
  cases outcome <;> simp [endOf?]

theorem endOf?_eq_failed_iff : endOf? attempted outcome = some .failed ↔
    (∃ message, outcome = .panic message) ∨ (∃ failure, outcome = .failure failure) ∧
      attempted.call.options.retries.toNat ≤ attempted.retries := by
  cases outcome <;> simp [endOf?, mayRetry]

end TimedQueue

namespace Workload

/-- Where an accepted call stands: it is unread, or waits for an attempt that is due at some
time, or is attempted, or is over, the latter ones after a number of retries. -/
inductive Stage where
  | unread
  | waiting (retries due : Nat)
  | running (retries : Nat)
  | ended (retries : Nat) (how : CallEnd)

namespace Stage

def retries : Stage → Nat
  | .unread => 0
  | .waiting retries _ | .running retries | .ended retries _ => retries

def paused : Stage → Nat
  | .unread => 0
  | .waiting retries _ | .running retries | .ended retries _ => retries + 1

def begun : Stage → Nat
  | .unread => 0
  | .waiting retries _ => retries
  | .running retries | .ended retries _ => retries + 1

def settled : Stage → Nat
  | .unread => 0
  | .waiting retries _ | .running retries => retries
  | .ended retries _ => retries + 1

end Stage

namespace Move

/-- The move concerns the call with a ticket. -/
def Concerns (ticket : Nat) : Move ρ → Prop
  | .read calls _ => ticket ∈ calls.map Prod.fst
  | .begin other _ _ | .settle other _ _ _ | .abandon other => other = ticket
  | .offer _ _ _ | .crash _ _ | .close | .lose | .pass _ => False

/-- The call begins to wait for an attempt: the time at which it does. -/
def paused? (ticket : Nat) : Move ρ → Option Nat
  | .read calls time => if ticket ∈ calls.map Prod.fst then some time else none
  | .settle other attempted outcome time =>
      if other = ticket ∧ TimedQueue.endOf? attempted outcome = none then some time else none
  | _ => none

/-- An attempt of the call begins: the time at which it was due, and the time at which it
does. -/
def begun? (ticket : Nat) : Move ρ → Option (Nat × Nat)
  | .begin other waiting time => if other = ticket then some (waiting.due, time) else none
  | _ => none

/-- An attempt of the call comes out. -/
def outcome? (ticket : Nat) : Move ρ → Option AttemptOutcome
  | .settle other _ outcome _ => if other = ticket then some outcome else none
  | _ => none

/-- An attempt comes out and is to be made again: the ticket of its call. -/
def retried? : Move ρ → Option Nat
  | .settle ticket attempted outcome _ =>
      if TimedQueue.endOf? attempted outcome = none then some ticket else none
  | _ => none

/-- A move that does not concern a call tells nothing of it. -/
theorem nothing_of_not_concerns {ticket : Nat} {move : Move ρ} (hmove : ¬ move.Concerns ticket) :
    move.paused? ticket = none ∧ move.begun? ticket = none ∧ move.outcome? ticket = none ∧
      move.retried? ≠ some ticket := by
  cases move with
  | read calls time =>
      have hother : ticket ∉ calls.map Prod.fst := hmove
      exact ⟨if_neg hother, rfl, rfl, by simp [retried?]⟩
  | begin other waiting time =>
      have hother : other ≠ ticket := hmove
      exact ⟨rfl, if_neg hother, rfl, by simp [retried?]⟩
  | settle other attempted outcome time =>
      have hother : other ≠ ticket := hmove
      exact ⟨by simp [paused?, hother], rfl, if_neg hother, by simp [retried?, hother]⟩
  | offer _ _ _ | crash _ _ | close | lose | abandon _ | pass _ =>
      exact ⟨rfl, rfl, rfl, by simp [retried?]⟩

end Move

/-! ## What the moves say of one call -/

def pauses (ticket : Nat) (moves : List (Move ρ)) : List Nat :=
  moves.filterMap (Move.paused? ticket)

def beginnings (ticket : Nat) (moves : List (Move ρ)) : List (Nat × Nat) :=
  moves.filterMap (Move.begun? ticket)

def outcomes (ticket : Nat) (moves : List (Move ρ)) : List AttemptOutcome :=
  moves.filterMap (Move.outcome? ticket)

def retried (moves : List (Move ρ)) : List Nat := moves.filterMap Move.retried?

section Concat

variable (ticket : Nat) (moves more : List (Move ρ)) (move : Move ρ)

theorem pauses_append : pauses ticket (moves ++ more) = pauses ticket moves ++ pauses ticket more :=
  List.filterMap_append

theorem beginnings_append : beginnings ticket (moves ++ more) =
    beginnings ticket moves ++ beginnings ticket more :=
  List.filterMap_append

theorem outcomes_append : outcomes ticket (moves ++ more) =
    outcomes ticket moves ++ outcomes ticket more :=
  List.filterMap_append

theorem filterMap_concat {α : Type} (look : Move ρ → Option α) :
    (moves ++ [move]).filterMap look = moves.filterMap look ++ (look move).toList := by
  rw [List.filterMap_append, List.filterMap_cons]
  cases look move <;> rfl

theorem pauses_concat : pauses ticket (moves ++ [move]) =
    pauses ticket moves ++ (move.paused? ticket).toList :=
  filterMap_concat moves move _

theorem beginnings_concat : beginnings ticket (moves ++ [move]) =
    beginnings ticket moves ++ (move.begun? ticket).toList :=
  filterMap_concat moves move _

theorem outcomes_concat : outcomes ticket (moves ++ [move]) =
    outcomes ticket moves ++ (move.outcome? ticket).toList :=
  filterMap_concat moves move _

theorem retried_concat : retried (moves ++ [move]) = retried moves ++ move.retried?.toList :=
  filterMap_concat moves move _

variable {ticket moves move}

/-- A move that does not concern a call tells nothing of it. -/
theorem concat_of_not_concerns (hmove : ¬ move.Concerns ticket) :
    pauses ticket (moves ++ [move]) = pauses ticket moves ∧
      beginnings ticket (moves ++ [move]) = beginnings ticket moves ∧
      outcomes ticket (moves ++ [move]) = outcomes ticket moves ∧
      (retried (moves ++ [move])).count ticket = (retried moves).count ticket := by
  obtain ⟨hpaused, hbegun, houtcome, hretried⟩ := Move.nothing_of_not_concerns hmove
  rw [pauses_concat, beginnings_concat, outcomes_concat, retried_concat, hpaused, hbegun,
    houtcome]
  have hcount : move.retried?.toList.count ticket = 0 := by
    rw [List.count_eq_zero, Option.mem_toList]
    exact hretried
  simp [List.count_append, hcount]

theorem nothing_of_forall_not_concerns (hnone : ∀ move ∈ moves, ¬ move.Concerns ticket) :
    pauses ticket moves = [] ∧ beginnings ticket moves = [] ∧ outcomes ticket moves = [] ∧
      (retried moves).count ticket = 0 := by
  induction moves using List.reverseRecOn with
  | nil => exact ⟨rfl, rfl, rfl, rfl⟩
  | append_singleton moves move ih =>
      obtain ⟨hpauses, hbeginnings, houtcomes, hretried⟩ :=
        @concat_of_not_concerns _ ticket moves move (hnone move List.mem_concat_self)
      rw [hpauses, hbeginnings, houtcomes, hretried]
      exact ih fun earlier hearlier => hnone earlier (List.mem_append_left _ hearlier)

end Concat

/-- The moves that concern a call, in the only order in which they can be made. -/
inductive Life (ticket : Nat) (call : QueuedCall ρ) : List (Move ρ) → Stage → Prop where
  | accept {moves : List (Move ρ)} (hnone : ∀ move ∈ moves, ¬ move.Concerns ticket) :
      Life ticket call moves .unread
  | other {moves : List (Move ρ)} {stage : Stage} {move : Move ρ}
      (hlife : Life ticket call moves stage) (hmove : ¬ move.Concerns ticket) :
      Life ticket call (moves ++ [move]) stage
  | read {moves : List (Move ρ)} {calls : List (Nat × QueuedCall ρ)} {time : Nat}
      (hlife : Life ticket call moves .unread) (hread : ticket ∈ calls.map Prod.fst) :
      Life ticket call (moves ++ [.read calls time])
        (.waiting 0 (time + call.options.pause 0))
  | begin {moves : List (Move ρ)} {waiting : Waiting ρ} {time : Nat}
      (hlife : Life ticket call moves (.waiting waiting.retries waiting.due))
      (hdue : waiting.due ≤ time) :
      Life ticket call (moves ++ [.begin ticket waiting time]) (.running waiting.retries)
  | retry {moves : List (Move ρ)} {attempted : Waiting ρ} {outcome : AttemptOutcome}
      {time : Nat} (hlife : Life ticket call moves (.running attempted.retries))
      (hcall : attempted.call = call) (hretry : TimedQueue.endOf? attempted outcome = none) :
      Life ticket call (moves ++ [.settle ticket attempted outcome time])
        (.waiting (attempted.retries + 1) (time + call.options.pause (attempted.retries + 1)))
  | finish {moves : List (Move ρ)} {attempted : Waiting ρ} {outcome : AttemptOutcome}
      {how : CallEnd} {time : Nat} (hlife : Life ticket call moves (.running attempted.retries))
      (hcall : attempted.call = call) (hends : TimedQueue.endOf? attempted outcome = some how) :
      Life ticket call (moves ++ [.settle ticket attempted outcome time])
        (.ended attempted.retries how)

namespace Life

variable {ticket : Nat} {call : QueuedCall ρ} {moves : List (Move ρ)} {stage : Stage}

/-- Where a call stands says how often each thing happened to it. -/
theorem counts (hlife : Life ticket call moves stage) :
    (pauses ticket moves).length = stage.paused ∧
      (beginnings ticket moves).length = stage.begun ∧
      (outcomes ticket moves).length = stage.settled ∧
      (retried moves).count ticket = stage.retries := by
  induction hlife with
  | accept hnone =>
      obtain ⟨hpauses, hbeginnings, houtcomes, hretried⟩ := nothing_of_forall_not_concerns hnone
      rw [hpauses, hbeginnings, houtcomes, hretried]
      exact ⟨rfl, rfl, rfl, rfl⟩
  | @other moves stage move _ hmove ih =>
      obtain ⟨hpauses, hbeginnings, houtcomes, hretried⟩ :=
        @concat_of_not_concerns _ ticket moves move hmove
      rw [hpauses, hbeginnings, houtcomes, hretried]
      exact ih
  | read _ hread ih =>
      obtain ⟨hpauses, hbeginnings, houtcomes, hretried⟩ := ih
      simp only [pauses_concat, beginnings_concat, outcomes_concat, retried_concat,
        Move.paused?, Move.begun?, Move.outcome?, Move.retried?, if_pos hread]
      simp [hpauses, hbeginnings, houtcomes, hretried, Stage.paused, Stage.begun, Stage.settled,
        Stage.retries]
  | begin _ hdue ih =>
      obtain ⟨hpauses, hbeginnings, houtcomes, hretried⟩ := ih
      simp only [pauses_concat, beginnings_concat, outcomes_concat, retried_concat,
        Move.paused?, Move.begun?, Move.outcome?, Move.retried?]
      simp [hpauses, hbeginnings, houtcomes, hretried, Stage.paused, Stage.begun, Stage.settled,
        Stage.retries]
  | retry _ hcall hretry ih =>
      obtain ⟨hpauses, hbeginnings, houtcomes, hretried⟩ := ih
      simp only [pauses_concat, beginnings_concat, outcomes_concat, retried_concat,
        Move.paused?, Move.begun?, Move.outcome?, Move.retried?, hretry]
      simp [hpauses, hbeginnings, houtcomes, hretried, Stage.paused, Stage.begun, Stage.settled,
        Stage.retries]
  | finish _ hcall hends ih =>
      obtain ⟨hpauses, hbeginnings, houtcomes, hretried⟩ := ih
      simp only [pauses_concat, beginnings_concat, outcomes_concat, retried_concat,
        Move.paused?, Move.begun?, Move.outcome?, Move.retried?, hends]
      simp [hpauses, hbeginnings, houtcomes, hretried, Stage.paused, Stage.begun, Stage.settled,
        Stage.retries]

theorem settled_eq (hlife : Life ticket call moves stage) :
    (outcomes ticket moves).length = stage.settled :=
  hlife.counts.2.2.1

/-- A call is not tried again more often than its retries allow. -/
theorem retries_le (hlife : Life ticket call moves stage) :
    stage.retries ≤ call.options.retries.toNat := by
  induction hlife with
  | accept _ | read _ _ _ => exact Nat.zero_le _
  | other _ _ ih | begin _ _ ih | finish _ _ _ ih => exact ih
  | retry _ hcall hretry _ =>
      have hmay := (TimedQueue.endOf?_eq_none_iff.mp hretry).2
      rw [hcall] at hmay
      exact hmay

/-- Every attempt that was made again had failed. -/
theorem failures (hlife : Life ticket call moves stage) {attempt : Nat}
    (hattempt : attempt < stage.retries) :
    ∃ failure, (outcomes ticket moves)[attempt]? = some (.failure failure) := by
  induction hlife with
  | accept _ | read _ _ _ => cases hattempt
  | @other moves stage move _ hmove ih =>
      rw [(@concat_of_not_concerns _ ticket moves move hmove).2.2.1]
      exact ih hattempt
  | @begin moves waiting time _ _ ih =>
      have hsame : outcomes ticket (moves ++ [.begin ticket waiting time]) =
        outcomes ticket moves := by simp [outcomes_concat, Move.outcome?]
      rw [hsame]
      exact ih hattempt
  | @retry moves attempted outcome time hlife hcall hretry ih =>
      rw [outcomes_concat, Move.outcome?, if_pos rfl, Option.toList_some]
      have hlength : attempted.retries = (outcomes ticket moves).length := hlife.settled_eq.symm
      rcases Nat.lt_succ_iff_lt_or_eq.mp hattempt with hearlier | rfl
      · rw [List.getElem?_append_left (hlength ▸ hearlier)]
        exact ih hearlier
      · obtain ⟨⟨failure, rfl⟩, -⟩ := TimedQueue.endOf?_eq_none_iff.mp hretry
        exact ⟨failure, by rw [hlength, List.getElem?_concat_length]⟩
  | @finish moves attempted outcome how time hlife hcall hends ih =>
      rw [outcomes_concat, Move.outcome?, if_pos rfl, Option.toList_some]
      have hlength : (outcomes ticket moves).length = attempted.retries := hlife.settled_eq
      rw [List.getElem?_append_left (hlength ▸ hattempt)]
      exact ih hattempt

/-- What the last attempt came to. -/
theorem ending {retries : Nat} {how : CallEnd} (hlife : Life ticket call moves stage)
    (hover : stage = .ended retries how) :
    ∃ attempted outcome, attempted.call = call ∧ attempted.retries = retries ∧
      TimedQueue.endOf? attempted outcome = some how ∧
      (outcomes ticket moves)[retries]? = some outcome := by
  induction hlife with
  | accept _ | read _ _ _ | begin _ _ _ | retry _ _ _ _ => cases hover
  | @other moves stage move _ hmove ih =>
      rw [(@concat_of_not_concerns _ ticket moves move hmove).2.2.1]
      exact ih hover
  | @finish moves attempted outcome how time hlife hcall hends ih =>
      cases hover
      refine ⟨attempted, outcome, hcall, rfl, hends, ?_⟩
      have hlength : attempted.retries = (outcomes ticket moves).length := hlife.settled_eq.symm
      rw [outcomes_concat, Move.outcome?, if_pos rfl, Option.toList_some, hlength,
        List.getElem?_concat_length]

/-- A call that waits has done so since a time from which on it is to pause. -/
theorem paused {retries due : Nat} (hlife : Life ticket call moves stage)
    (hwaiting : stage = .waiting retries due) :
    ∃ since, (pauses ticket moves)[retries]? = some since ∧
      due = since + call.options.pause retries := by
  induction hlife generalizing retries due with
  | accept _ | begin _ _ _ | finish _ _ _ _ => cases hwaiting
  | @other moves stage move _ hmove ih =>
      rw [(@concat_of_not_concerns _ ticket moves move hmove).1]
      exact ih hwaiting
  | @read moves calls time hlife hread ih =>
      cases hwaiting
      have hnone := List.eq_nil_of_length_eq_zero hlife.counts.1
      refine ⟨time, ?_, rfl⟩
      rw [pauses_concat, hnone, Move.paused?, if_pos hread]
      rfl
  | @retry moves attempted outcome time hlife hcall hretry ih =>
      cases hwaiting
      refine ⟨time, ?_, rfl⟩
      have hlength : attempted.retries + 1 = (pauses ticket moves).length := hlife.counts.1.symm
      rw [pauses_concat, Move.paused?, if_pos ⟨rfl, hretry⟩, hlength, Option.toList_some,
        List.getElem?_concat_length]

/-- Before each attempt the call has paused for as long as it is to. -/
theorem waits (hlife : Life ticket call moves stage) {attempt due time : Nat}
    (hbegun : (beginnings ticket moves)[attempt]? = some (due, time)) :
    ∃ since, (pauses ticket moves)[attempt]? = some since ∧
      due = since + call.options.pause attempt ∧ due ≤ time := by
  induction hlife with
  | accept hnone =>
      rw [(nothing_of_forall_not_concerns hnone).2.1] at hbegun
      cases hbegun
  | @other moves stage move _ hmove ih =>
      obtain ⟨hpauses, hbeginnings, -⟩ := @concat_of_not_concerns _ ticket moves move hmove
      rw [hbeginnings] at hbegun
      rw [hpauses]
      exact ih hbegun
  | @read moves calls time' hlife hread ih =>
      have hnone := List.eq_nil_of_length_eq_zero hlife.counts.2.1
      simp [beginnings_concat, Move.begun?, hnone] at hbegun
  | @begin moves waiting began hlife hdue ih =>
      have hsame : pauses ticket (moves ++ [.begin ticket waiting began]) =
        pauses ticket moves := by simp [pauses_concat, Move.paused?]
      rw [hsame]
      rw [beginnings_concat, Move.begun?, if_pos rfl, Option.toList_some] at hbegun
      have hlength : (beginnings ticket moves).length = waiting.retries := hlife.counts.2.1
      by_cases hearlier : attempt < (beginnings ticket moves).length
      · rw [List.getElem?_append_left hearlier] at hbegun
        exact ih hbegun
      · obtain ⟨hlast, hbegun⟩ := List.getElem?_eq_some_iff.mp hbegun
        obtain rfl : attempt = waiting.retries := by
          rw [List.length_append, List.length_singleton] at hlast
          omega
        have hsame : (waiting.due, began) = (due, time) := by simpa [← hlength] using hbegun
        cases hsame
        obtain ⟨since, hsince, hpause⟩ := hlife.paused rfl
        exact ⟨since, hsince, hpause, hdue⟩
  | @retry moves attempted outcome settled hlife hcall hretry ih =>
      have hsame : beginnings ticket (moves ++ [.settle ticket attempted outcome settled]) =
        beginnings ticket moves := by simp [beginnings_concat, Move.begun?]
      rw [hsame] at hbegun
      obtain ⟨since, hsince, hpause⟩ := ih hbegun
      rw [pauses_concat, List.getElem?_append_left (List.getElem?_eq_some_iff.mp hsince).1]
      exact ⟨since, hsince, hpause⟩
  | @finish moves attempted outcome how settled hlife hcall hends ih =>
      have hbeginnings : beginnings ticket (moves ++ [.settle ticket attempted outcome settled]) =
        beginnings ticket moves := by simp [beginnings_concat, Move.begun?]
      have hpauses : pauses ticket (moves ++ [.settle ticket attempted outcome settled]) =
        pauses ticket moves := by simp [pauses_concat, Move.paused?, hends]
      rw [hbeginnings] at hbegun
      rw [hpauses]
      exact ih hbegun

end Life

/-! ## Every call in play lives on -/

variable {workload next : Workload ρ} {moves : List (Move ρ)} {move : Move ρ}

def asUnread (entry : Nat × QueuedCall ρ) : Nat × QueuedCall ρ × Stage :=
  (entry.1, entry.2, .unread)

def asWaiting (entry : Nat × Waiting ρ) : Nat × QueuedCall ρ × Stage :=
  (entry.1, entry.2.call, .waiting entry.2.retries entry.2.due)

def asRunning (entry : Nat × Waiting ρ) : Nat × QueuedCall ρ × Stage :=
  (entry.1, entry.2.call, .running entry.2.retries)

/-- The calls in play, each with its ticket and where it stands. -/
def standing (workload : Workload ρ) : List (Nat × QueuedCall ρ × Stage) :=
  workload.unread.map asUnread ++ workload.waiting.map asWaiting ++
    workload.running.map asRunning

/-- The calls that stand somewhere are those in play. -/
theorem tickets_standing (workload : Workload ρ) :
    workload.standing.map Prod.fst = workload.inPlay := by
  simp only [standing, inPlay, List.map_append, List.map_map]
  rfl

/-- The tickets of the calls in play at such a place. -/
def ticketsAt (workload : Workload ρ) : Stage → List Nat
  | .unread => workload.unread.map Prod.fst
  | .waiting _ _ => workload.waiting.map Prod.fst
  | .running _ => workload.running.map Prod.fst
  | .ended _ _ => []

theorem mem_ticketsAt {ticket : Nat} {call : QueuedCall ρ} {stage : Stage}
    (hstands : (ticket, call, stage) ∈ workload.standing) : ticket ∈ workload.ticketsAt stage := by
  simp only [standing, asUnread, asWaiting, asRunning, List.mem_append, List.mem_map,
    Prod.mk.injEq] at hstands
  rcases hstands with (⟨entry, hentry, rfl, -, rfl⟩ | ⟨entry, hentry, rfl, -, rfl⟩) |
    ⟨entry, hentry, rfl, -, rfl⟩
  all_goals exact List.mem_map_of_mem hentry

/-! ### Calls that come to stand elsewhere -/

section Relocation

open Classical

variable {front back : List (Nat × QueuedCall ρ)} {before after : List (Nat × Waiting ρ)}
  {held : Nat × Waiting ρ}

theorem standing_of_unread (hunread : workload.unread = front ++ back) :
    workload.standing.Perm
      (front.map asUnread ++ ({ workload with unread := back }).standing) := by
  refine .of_eq ?_
  simp only [standing, hunread, List.map_append, List.append_assoc]

theorem standing_of_waiting (hwaiting : workload.waiting = before ++ held :: after) :
    workload.standing.Perm
      ([asWaiting held] ++ ({ workload with waiting := before ++ after }).standing) := by
  refine List.perm_iff_count.mpr fun entry => ?_
  simp only [standing, hwaiting, List.map_append, List.map_cons, List.count_append,
    List.count_cons, List.count_nil]
  omega

theorem standing_of_running (hrunning : workload.running = before ++ held :: after) :
    workload.standing.Perm
      ([asRunning held] ++ ({ workload with running := before ++ after }).standing) := by
  refine List.perm_iff_count.mpr fun entry => ?_
  simp only [standing, hrunning, List.map_append, List.map_cons, List.count_append,
    List.count_cons, List.count_nil]
  omega

theorem standing_accepting (queue : TimedQueue ρ) (now : Nat) (call : QueuedCall ρ) :
    (workload.accepting queue now call).standing.Perm
      ([asUnread (workload.history.tickets.length, call)] ++ workload.standing) := by
  refine List.perm_iff_count.mpr fun entry => ?_
  simp only [standing, accepting, List.map_append, List.map_cons, List.map_nil,
    List.count_append, List.count_cons, List.count_nil]
  omega

theorem standing_reading (hfront : front ≠ []) (back : List (Nat × QueuedCall ρ)) :
    (workload.reading front back).standing.Perm
      (front.map (asWaiting ∘ Prod.map id workload.queue.waitFor) ++
        ({ workload with unread := back }).standing) := by
  have hsame : asWaiting ∘ Prod.map id Waiting.overtake = @asWaiting ρ := rfl
  refine List.perm_iff_count.mpr fun entry => ?_
  rw [reading_eq hfront]
  simp only [standing, List.map_append, List.map_map, hsame, List.count_append]
  omega

theorem standing_beginning (rest : List (Nat × Waiting ρ)) (held : Nat × Waiting ρ) :
    ({ workload.taking rest with running := held :: workload.running }).standing.Perm
      ([asRunning held] ++ ({ workload with waiting := rest }).standing) := by
  refine List.perm_iff_count.mpr fun entry => ?_
  simp only [standing, taking, List.map_cons, List.count_append, List.count_cons, List.count_nil]
  omega

theorem standing_again (queue : TimedQueue ρ) (rest : List (Nat × Waiting ρ))
    (held : Nat × Waiting ρ) :
    ({ workload with
      queue := queue
      waiting := workload.waiting ++ [held]
      running := rest }).standing.Perm
        ([asWaiting held] ++ ({ workload with running := rest }).standing) := by
  refine List.perm_iff_count.mpr fun entry => ?_
  simp only [standing, List.map_append, List.map_cons, List.map_nil, List.count_append,
    List.count_cons, List.count_nil]
  omega

end Relocation

/-- A call has come to this place: it is in play there, or over. -/
def Stands (ticket : Nat) (call : QueuedCall ρ) (stage : Stage) (workload : Workload ρ) : Prop :=
  (ticket, call, stage) ∈ workload.standing ∨
    ∃ retries how, stage = .ended retries how ∧ (ticket, how) ∈ workload.history.ends

theorem Balanced.fresh (hbalanced : workload.Balanced) :
    workload.history.tickets.length ∉ workload.history.tickets := by
  rw [← List.mem_reverse, hbalanced.placed.tickets]
  exact List.not_mem_range_self

/-- The moves made so far are the lives of the calls that were accepted. -/
structure Living (moves : List (Move ρ)) (workload : Workload ρ) : Prop where
  lives : ∀ ticket call stage, (ticket, call, stage) ∈ workload.standing →
    Life ticket call moves stage
  ended : ∀ ticket call how, .ended ticket call how ∈ workload.history →
    ∃ retries, Life ticket call moves (.ended retries how)
  known : ∀ move ∈ moves, ∀ ticket, move.Concerns ticket → ticket ∈ workload.history.tickets

namespace Living

/-- Some calls in play come to stand elsewhere, or end; the move concerns no others. -/
theorem moved (hliving : workload.Living moves) (hbalanced : workload.Balanced)
    {gone come rest : List (Nat × QueuedCall ρ × Stage)}
    (hbefore : workload.standing.Perm (gone ++ rest))
    (hafter : next.standing.Perm (come ++ rest))
    (hconcerns : ∀ ticket, move.Concerns ticket → ticket ∈ gone.map Prod.fst)
    (hcome : ∀ entry ∈ come, Life entry.1 entry.2.1 (moves ++ [move]) entry.2.2)
    (hended : ∀ ticket call how, .ended ticket call how ∈ next.history →
      .ended ticket call how ∈ workload.history ∨
        ∃ retries, Life ticket call (moves ++ [move]) (.ended retries how))
    (htickets : workload.history.tickets ⊆ next.history.tickets) :
    next.Living (moves ++ [move]) := by
  have hplaces := hbalanced.placed.nodup_places
  have htold : (gone.map Prod.fst ++ rest.map Prod.fst).Perm workload.inPlay := by
    rw [← tickets_standing, ← List.map_append]
    exact (hbefore.map Prod.fst).symm
  have hapart := (List.nodup_append.mp (htold.nodup_iff.mpr (List.nodup_append.mp hplaces).1)).2.2
  have hgone (ticket : Nat) (hticket : move.Concerns ticket) : ticket ∈ workload.inPlay :=
    htold.subset (List.mem_append_left _ (hconcerns ticket hticket))
  constructor
  case lives =>
    intro ticket call stage hentry
    rcases List.mem_append.mp (hafter.subset hentry) with hnew | hold
    · exact hcome (ticket, call, stage) hnew
    · have hstood := hbefore.symm.subset (List.mem_append_right gone hold)
      refine .other (hliving.lives ticket call stage hstood) fun hticket => ?_
      exact hapart ticket (hconcerns ticket hticket) ticket (List.mem_map_of_mem hold) rfl
  case ended =>
    intro ticket call how hevent
    rcases hended ticket call how hevent with hold | hnew
    · obtain ⟨retries, hlife⟩ := hliving.ended ticket call how hold
      refine ⟨retries, .other hlife fun hticket => ?_⟩
      have hover : (ticket, how) ∈ workload.history.ends :=
        List.mem_filterMap.mpr ⟨_, hold, rfl⟩
      exact (List.nodup_append.mp hplaces).2.2 ticket (hgone ticket hticket) ticket
        (List.mem_map_of_mem hover) rfl
    · exact hnew
  case known =>
    intro made hmade ticket hticket
    rcases List.mem_append.mp hmade with hold | hnew
    · exact htickets (hliving.known made hold ticket hticket)
    · rw [List.mem_singleton.mp hnew] at hticket
      have hplace := List.mem_append_left (workload.history.ends.map Prod.fst)
        (hgone ticket hticket)
      exact htickets (hbalanced.placed.places.symm.subset hplace)

/-- A move that concerns nobody leaves every call where it stands. -/
theorem stays (hliving : workload.Living moves) (hbalanced : workload.Balanced)
    (hnone : ∀ ticket, ¬ move.Concerns ticket) (hstanding : next.standing = workload.standing)
    (hended : ∀ ticket call how, .ended ticket call how ∈ next.history →
      .ended ticket call how ∈ workload.history)
    (htickets : workload.history.tickets ⊆ next.history.tickets) :
    next.Living (moves ++ [move]) := by
  have hbefore : workload.standing.Perm ([] ++ workload.standing) := .refl _
  have hafter : next.standing.Perm ([] ++ workload.standing) := .of_eq hstanding
  refine hliving.moved hbalanced hbefore hafter (fun ticket hticket => ?_) (fun entry hentry => ?_)
    (fun ticket call how hevent => .inl (hended ticket call how hevent)) htickets
  · exact absurd hticket (hnone ticket)
  · cases hentry

/-- One call comes to stand elsewhere. -/
theorem relocated (hliving : workload.Living moves) (hbalanced : workload.Balanced)
    {before after : Nat × QueuedCall ρ × Stage} {rest : List (Nat × QueuedCall ρ × Stage)}
    (hbefore : workload.standing.Perm ([before] ++ rest))
    (hafter : next.standing.Perm ([after] ++ rest))
    (hconcerns : ∀ ticket, move.Concerns ticket → ticket = before.1)
    (hlife : Life before.1 before.2.1 moves before.2.2 →
      Life after.1 after.2.1 (moves ++ [move]) after.2.2)
    (hhistory : next.history = workload.history) : next.Living (moves ++ [move]) := by
  have hstood := hbefore.symm.subset (List.mem_append_left rest (List.mem_singleton_self before))
  refine hliving.moved hbalanced hbefore hafter (fun ticket hticket => ?_) (fun entry hentry => ?_)
    (fun ticket call how hevent => .inl (hhistory ▸ hevent)) (hhistory ▸ List.Subset.refl _)
  · exact List.mem_singleton.mpr (hconcerns ticket hticket)
  · rw [List.mem_singleton.mp hentry]
    exact hlife (hliving.lives _ _ _ hstood)

/-- A move of an open queue continues the lives of the calls. -/
theorem continues (hliving : workload.Living moves) (hbalanced : workload.Balanced)
    (hmove : workload.Moves move next) (hopen : next.queue.closed = false) :
    next.Living (moves ++ [move]) := by
  cases hmove with
  | @accept now call queue hclock haccepted =>
      have hbefore : workload.standing.Perm ([] ++ workload.standing) := .refl _
      refine hliving.moved hbalanced hbefore (standing_accepting queue now call)
        (fun _ hnone => hnone.elim) ?_ ?_ ?_
      · intro entry hentry
        rw [List.mem_singleton.mp hentry]
        refine .accept fun made hmade hticket => ?_
        rcases List.mem_append.mp hmade with hold | hnew
        · exact hbalanced.fresh (hliving.known made hold _ hticket)
        · rw [List.mem_singleton.mp hnew] at hticket
          exact hticket
      · intro ticket ended how hevent
        rcases List.mem_cons.mp hevent with hsame | hold
        · cases hsame
        · exact .inl hold
      · exact List.subset_cons_self _ _
  | refuse hclock hrefused =>
      refine hliving.stays hbalanced (fun _ hnone => hnone) rfl ?_ (List.Subset.refl _)
      intro ticket ended how hevent
      rcases List.mem_cons.mp hevent with hsame | hold
      · cases hsame
      · exact hold
  | crash hclock hcrashed =>
      exact hliving.stays hbalanced (fun _ hnone => hnone) rfl (fun _ _ _ hevent => hevent)
        (List.Subset.refl _)
  | @read front back hunread hfront =>
      have hbefore := standing_of_unread hunread
      refine hliving.moved hbalanced hbefore (standing_reading hfront back) ?_ ?_
        (fun _ _ _ hevent => .inl hevent) (List.Subset.refl _)
      · intro ticket hticket
        rw [List.map_map]
        exact hticket
      · intro entry hentry
        obtain ⟨⟨ticket, call⟩, hheld, rfl⟩ := List.mem_map.mp hentry
        have hstood := hbefore.symm.subset
          (List.mem_append_left _ (List.mem_map_of_mem hheld))
        exact .read (hliving.lives ticket call .unread hstood) (List.mem_map_of_mem hheld)
  | @begin front back ticket waiting hwaiting hdue =>
      exact hliving.relocated hbalanced (standing_of_waiting hwaiting)
        (standing_beginning (front ++ back) (ticket, waiting)) (fun _ hsame => Eq.symm hsame)
        (fun hlife => .begin hlife hdue) rfl
  | @retry front back ticket attempted outcome hrunning hretry =>
      exact hliving.relocated hbalanced (standing_of_running hrunning)
        (standing_again _ (front ++ back) (ticket, workload.queue.again attempted))
        (fun _ hsame => Eq.symm hsame) (fun hlife => .retry hlife rfl hretry) rfl
  | @finish front back ticket attempted outcome how hrunning hends =>
      have hbefore := standing_of_running hrunning
      have hafter : ({ workload with
          queue := workload.queue.settle attempted outcome
          running := front ++ back
          history := .ended ticket attempted.call how :: workload.history }).standing.Perm
            ([] ++ ({ workload with running := front ++ back }).standing) := .refl _
      refine hliving.moved hbalanced hbefore hafter ?_ (fun _ hnone => by cases hnone) ?_
        (List.Subset.refl _)
      · rintro other rfl
        exact List.mem_singleton_self _
      · intro other call way hevent
        rcases List.mem_cons.mp hevent with hsame | hold
        · cases hsame
          have hstood := hbefore.symm.subset (List.mem_append_left _ (List.mem_singleton_self _))
          exact .inr ⟨attempted.retries, .finish (hliving.lives _ _ _ hstood) rfl hends⟩
        · exact .inl hold
  | close => cases hopen
  | lose hclosed | abandon hclosed hwaiting =>
      change workload.queue.closed = false at hopen
      rw [hclosed] at hopen
      cases hopen
  | pass =>
      exact hliving.stays hbalanced (fun _ hnone => hnone) rfl (fun _ _ _ hevent => hevent)
        (List.Subset.refl _)

end Living

theorem living_start (name : String) (capacity : Nat) :
    (start name capacity : Workload ρ).Living [] where
  lives := by simp [start, standing]
  ended := by simp [start]
  known := by simp

/-- As long as the queue is open, its moves are the lives of the calls. -/
theorem Course.living {name : String} {capacity : Nat}
    (hcourse : Course (start name capacity) moves workload)
    (hopen : workload.queue.closed = false) : workload.Living moves := by
  induction hcourse with
  | nil => exact living_start name capacity
  | concat hcourse hmove ih =>
      obtain ⟨hbefore, -⟩ := hmove.step_of_open hopen
      have hbalanced := (hcourse.steps hbefore).balanced
      exact (ih hbefore).continues hbalanced hmove hopen

/-- An accepted call stands where its life has led. -/
theorem Living.exists_life (hliving : workload.Living moves) (hbalanced : workload.Balanced)
    (htraced : workload.Traced) {ticket : Nat} {call : QueuedCall ρ} {time : Nat}
    (haccepted : .accepted ticket call time ∈ workload.history) :
    ∃ stage, Life ticket call moves stage ∧ Stands ticket call stage workload := by
  have hticket : ticket ∈ workload.history.tickets := List.mem_filterMap.mpr ⟨_, haccepted, rfl⟩
  rcases List.mem_append.mp (hbalanced.placed.places.subset hticket) with hplay | hover
  · rw [← tickets_standing] at hplay
    obtain ⟨⟨ticket, held, stage⟩, hstands, rfl⟩ := List.mem_map.mp hplay
    have hcalls : workload.standing.map (fun entry => (entry.1, entry.2.1)) = workload.calls := by
      simp only [standing, calls, List.map_append, List.map_map, Function.comp_def, asUnread,
        asWaiting, asRunning, List.map_id']
      rfl
    have hheld : (ticket, held) ∈ workload.calls := by
      rw [← hcalls]
      exact List.mem_map_of_mem hstands
    obtain ⟨earlier, hearlier⟩ := htraced.held ticket held hheld
    rw [← QueueHistory.call_unique hbalanced.placed.nodup_tickets hearlier haccepted]
    exact ⟨stage, hliving.lives ticket held stage hstands, .inl hstands⟩
  · obtain ⟨⟨ticket, how⟩, hended, rfl⟩ := List.mem_map.mp hover
    obtain ⟨event, hevent, hshows⟩ := List.mem_filterMap.mp hended
    cases event with
    | accepted _ _ _ | refused _ _ _ => cases hshows
    | ended other gone way =>
        cases hshows
        obtain ⟨retries, hlife⟩ := hliving.ended ticket gone how hevent
        obtain ⟨earlier, hearlier⟩ := htraced.ended ticket gone how hevent
        rw [← QueueHistory.call_unique hbalanced.placed.nodup_tickets hearlier haccepted]
        exact ⟨.ended retries how, hlife, .inr ⟨retries, how, rfl, hended⟩⟩

end Workload
end Plugboard
