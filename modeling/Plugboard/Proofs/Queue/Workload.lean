import Mathlib.Logic.Relation
import Plugboard.Queue.Timed

/-!
# Calls on their way through a timed queue

The steps of a timed queue, told with the calls that they move.  An accepted call has a
ticket, its number in the order of acceptance, and is unread, waits, runs or is over.  Several
attempts may run at the same time and come out in any order.  Offering a call is one step
here, and so is settling an attempt: nothing comes between their single accesses.  What
happened to the calls is kept as a history, the latest first.
-/

namespace Plugboard

/-- Something that happens to the calls of a queue. -/
inductive QueueEvent (ρ : Type) where
  | accepted (ticket : Nat) (call : QueuedCall ρ) (time : Nat)
  | refused (call : QueuedCall ρ) (time : Nat) (error : QueueError)
  | ended (ticket : Nat) (call : QueuedCall ρ) (how : CallEnd)

abbrev QueueHistory (ρ : Type) := List (QueueEvent ρ)

namespace QueueEvent

variable {ρ : Type}

def ticket? : QueueEvent ρ → Option Nat
  | .accepted ticket _ _ => some ticket
  | .refused _ _ _ | .ended _ _ _ => none

def ended? : QueueEvent ρ → Option (Nat × CallEnd)
  | .ended ticket _ how => some (ticket, how)
  | .accepted _ _ _ | .refused _ _ _ => none

def isDuplicate : QueueEvent ρ → Bool
  | .refused _ _ (.duplicate _) => true
  | _ => false

end QueueEvent

namespace QueueHistory

variable {ρ : Type}

def tickets (history : QueueHistory ρ) : List Nat := history.filterMap QueueEvent.ticket?

def ends (history : QueueHistory ρ) : List (Nat × CallEnd) := history.filterMap QueueEvent.ended?

def endedAs (how : CallEnd) (history : QueueHistory ρ) : Nat :=
  (history.ends.map Prod.snd).count how

def duplicates (history : QueueHistory ρ) : Nat := history.countP QueueEvent.isDuplicate

end QueueHistory

/-! ## What the functions of the queue do -/

/-- The clock can tell when the call's key expires, if the call has one. -/
def QueueOptions.Expires (options : QueueOptions) (now : Nat) : Prop :=
  options.uniqueKey.isSome → UniqueKeys.canExpire now options.uniqueTtl = true

namespace UniqueKeys

/-- No live key is in the way of a call. -/
def Free (keys : UniqueKeys) (now : Nat) (options : QueueOptions) : Prop :=
  ∀ key, options.uniqueKey = some key → (keys.live now).has key = false

/-- The keys once a call has taken its own. -/
def taken (keys : UniqueKeys) (now : Nat) (options : QueueOptions) : UniqueKeys :=
  match options.uniqueKey with
  | none => keys
  | some key =>
      (keys.live now).set key (options.uniqueTtl.map fun ttl => now + ttl.nanoseconds)

end UniqueKeys

namespace TimedQueue

variable {ρ : Type} {queue : TimedQueue ρ} {now : Nat} {call : QueuedCall ρ}
  {attempted : Waiting ρ} {outcome : AttemptOutcome}

/-! ### Accesses of an offer -/

/-- How claiming the key of a call comes out. -/
inductive Claimed (queue : TimedQueue ρ) (now : Nat) (options : QueueOptions) :
    TimedQueue ρ → UniqueKeys.Claim → Prop where
  | granted (hfree : queue.keys.Free now options) (hexpires : options.Expires now) :
      Claimed queue now options { queue with keys := queue.keys.taken now options } .granted
  | taken {key : String} (hkey : options.uniqueKey = some key)
      (htaken : (queue.keys.live now).has key = true) :
      Claimed queue now options { queue with keys := queue.keys.live now } (.taken key)
  | overflow {key : String} (hkey : options.uniqueKey = some key)
      (hfree : queue.keys.Free now options) (hbeyond : ¬ options.Expires now) :
      Claimed queue now options { queue with keys := queue.keys.live now } .overflow

/-- Why the channel does not take a call. -/
inductive Bounces (queue : TimedQueue ρ) : SendError → Prop where
  | closed (hhung : queue.hungUp = true) : Bounces queue .closed
  | full (hlistening : queue.hungUp = false) (hfull : queue.room ≤ queue.unread.length) :
      Bounces queue .full

/-- How sending a call to the worker comes out. -/
inductive Sent (queue : TimedQueue ρ) (call : QueuedCall ρ) :
    TimedQueue ρ → Except SendError Unit → Prop where
  | taken (hlistening : queue.hungUp = false) (hroom : queue.unread.length < queue.room) :
      Sent queue call { queue with unread := queue.unread ++ [call] } (.ok ())
  | bounced {error : SendError} (hbounces : queue.Bounces error) :
      Sent queue call queue (.error error)

theorem expires_of_key {options : QueueOptions} {key : String}
    (hkey : options.uniqueKey = some key) :
    options.Expires now ↔ UniqueKeys.canExpire now options.uniqueTtl = true := by
  simp [QueueOptions.Expires, hkey]

/-- A claim comes out in one of the ways told. -/
theorem claimed_claimKey (queue : TimedQueue ρ) (now : Nat) (options : QueueOptions) :
    Claimed queue now options (queue.claimKey now options).1 (queue.claimKey now options).2 := by
  cases hkey : options.uniqueKey with
  | none =>
      have hclaimed : Claimed queue now options
          { queue with keys := queue.keys.taken now options } .granted :=
        .granted (fun key hown => by simp [hkey] at hown) (fun hsome => by simp [hkey] at hsome)
      simpa [claimKey, UniqueKeys.taken, hkey] using hclaimed
  | some key =>
      have honly (other : String) (hother : options.uniqueKey = some other) : other = key :=
        Option.some.inj (hother.symm.trans hkey)
      by_cases htaken : (queue.keys.live now).has key = true
      · simpa [claimKey, hkey, UniqueKeys.claim, htaken] using Claimed.taken hkey htaken
      · have hfree : queue.keys.Free now options := by
          intro other hother
          rw [honly other hother]
          exact Bool.eq_false_iff.mpr htaken
        by_cases hexpires : options.Expires now
        · have hcan := (expires_of_key hkey).mp hexpires
          simpa [claimKey, hkey, UniqueKeys.claim, htaken, hcan, UniqueKeys.taken] using
            Claimed.granted hfree hexpires
        · have hcannot := mt (expires_of_key hkey).mpr hexpires
          simpa [claimKey, hkey, UniqueKeys.claim, htaken, hcannot] using
            Claimed.overflow hkey hfree hexpires

theorem Claimed.claimKey_eq {options : QueueOptions} {after : TimedQueue ρ}
    {claim : UniqueKeys.Claim} (hclaimed : queue.Claimed now options after claim) :
    queue.claimKey now options = (after, claim) := by
  cases hclaimed with
  | granted hfree hexpires =>
      cases hkey : options.uniqueKey with
      | none => simp [claimKey, UniqueKeys.taken, hkey]
      | some key =>
          have hcan := (expires_of_key hkey).mp hexpires
          simp [claimKey, UniqueKeys.taken, UniqueKeys.claim, hkey, hfree key hkey, hcan]
  | taken hkey htaken => simp [claimKey, hkey, UniqueKeys.claim, htaken]
  | overflow hkey hfree hbeyond =>
      have hcannot := mt (expires_of_key hkey).mpr hbeyond
      simp [claimKey, hkey, UniqueKeys.claim, hfree _ hkey, hcannot]

/-- Sending comes out in one of the ways told. -/
theorem sent_send (queue : TimedQueue ρ) (call : QueuedCall ρ) :
    Sent queue call (queue.send call).1 (queue.send call).2 := by
  unfold send
  split
  · exact .bounced (.closed ‹_›)
  · have hlistening : queue.hungUp = false := by simpa using ‹¬queue.hungUp = true›
    split
    · exact .taken hlistening ‹_›
    · exact .bounced (.full hlistening (Nat.le_of_not_lt ‹_›))

theorem Sent.send_eq {after : TimedQueue ρ} {answer : Except SendError Unit}
    (hsent : queue.Sent call after answer) : queue.send call = (after, answer) := by
  cases hsent with
  | taken hlistening hroom => simp [send, hlistening, hroom]
  | bounced hbounces =>
      cases hbounces with
      | closed hhung => simp [send, hhung]
      | full hlistening hfull => simp [send, hlistening, Nat.not_lt.mpr hfull]

def announcing (queue : TimedQueue ρ) (now : Nat) (call : QueuedCall ρ) : TimedQueue ρ :=
  { queue with keys := queue.keys.taken now call.options }.raisePending

theorem send_announcing_of_bounces {error : SendError} (hbounces : queue.Bounces error)
    (now : Nat) (call : QueuedCall ρ) :
    (queue.announcing now call).send call = (queue.announcing now call, .error error) := by
  have hbounced : (queue.announcing now call).Bounces error := by
    cases hbounces with
    | closed hhung => exact .closed hhung
    | full hlistening hfull => exact .full hlistening hfull
  exact (Sent.bounced hbounced).send_eq

theorem send_announcing_of_room (hlistening : queue.hungUp = false)
    (hroom : queue.unread.length < queue.room) (now : Nat) (call : QueuedCall ρ) :
    (queue.announcing now call).send call =
      ({ queue.announcing now call with unread := queue.unread ++ [call] }, .ok ()) := by
  have hfits : (queue.announcing now call).unread.length < (queue.announcing now call).room := hroom
  exact Sent.send_eq (.taken hlistening hfits)

/-! ### Offers -/

/-- How offering a call comes out. -/
inductive Offered (queue : TimedQueue ρ) (now : Nat) (call : QueuedCall ρ) :
    TimedQueue ρ → Option (Except QueueError Unit) → Prop where
  | closed (hclosed : queue.closed = true) :
      Offered queue now call queue (some (.error (.closed queue.name)))
  | duplicate {key : String} (hopen : queue.closed = false)
      (hkey : call.options.uniqueKey = some key) (htaken : (queue.keys.live now).has key = true) :
      Offered queue now call
        { queue with
          keys := queue.keys.live now
          stats := { queue.stats with deduplicated := queue.stats.deduplicated + 1 } }
        (some (.error (.duplicate key)))
  | overflow {key : String} (hopen : queue.closed = false)
      (hkey : call.options.uniqueKey = some key) (hfree : queue.keys.Free now call.options)
      (hbeyond : ¬ call.options.Expires now) :
      Offered queue now call { queue with keys := queue.keys.live now } none
  | bounced {error : SendError} (hopen : queue.closed = false)
      (hfree : queue.keys.Free now call.options) (hexpires : call.options.Expires now)
      (hbounces : queue.Bounces error) :
      Offered queue now call
        { queue with keys := (queue.keys.taken now call.options).released call.options }
        (some (.error (error.refusal queue.name)))
  | accepted (hopen : queue.closed = false) (hfree : queue.keys.Free now call.options)
      (hexpires : call.options.Expires now) (hlistening : queue.hungUp = false)
      (hroom : queue.unread.length < queue.room) :
      Offered queue now call
        { queue with
          keys := queue.keys.taken now call.options
          unread := queue.unread ++ [call]
          pending := queue.pending + 1
          stats := { queue.stats with accepted := queue.stats.accepted + 1 } }
        (some (.ok ()))

/-- Once the key is taken the answer is that of the channel. -/
theorem enqueue_of_granted (hopen : queue.closed = false)
    (hfree : queue.keys.Free now call.options) (hexpires : call.options.Expires now) :
    queue.enqueue now call =
      match (queue.announcing now call).send call with
      | (queue, .ok ()) => (queue.countAccepted, some (.ok ()))
      | (queue, .error error) =>
          (queue.lowerPending.releaseKey call.options,
            some (.error (error.refusal queue.name))) := by
  rw [enqueue, if_neg (Bool.eq_false_iff.mp hopen), (Claimed.granted hfree hexpires).claimKey_eq]
  rfl

theorem Offered.enqueue_eq {after : TimedQueue ρ} {answer : Option (Except QueueError Unit)}
    (hoffered : queue.Offered now call after answer) :
    queue.enqueue now call = (after, answer) := by
  cases hoffered with
  | closed hclosed => simp [enqueue, hclosed]
  | duplicate hopen hkey htaken =>
      simp [enqueue, hopen, (Claimed.taken hkey htaken).claimKey_eq, countDuplicate]
  | overflow hopen hkey hfree hbeyond =>
      simp [enqueue, hopen, (Claimed.overflow hkey hfree hbeyond).claimKey_eq]
  | bounced hopen hfree hexpires hbounces =>
      rw [enqueue_of_granted hopen hfree hexpires, send_announcing_of_bounces hbounces]
      rfl
  | accepted hopen hfree hexpires hlistening hroom =>
      rw [enqueue_of_granted hopen hfree hexpires, send_announcing_of_room hlistening hroom]
      rfl

/-- An offer comes out in one of the ways told. -/
theorem offered_enqueue (queue : TimedQueue ρ) (now : Nat) (call : QueuedCall ρ) :
    Offered queue now call (queue.enqueue now call).1 (queue.enqueue now call).2 := by
  have hoffered : ∃ after answer, queue.Offered now call after answer := by
    cases hclosed : queue.closed with
    | true => exact ⟨_, _, .closed hclosed⟩
    | false =>
        have hclaimed := claimed_claimKey queue now call.options
        have hsent := sent_send queue call
        generalize (queue.claimKey now call.options).1 = keyed at hclaimed
        generalize (queue.claimKey now call.options).2 = claim at hclaimed
        generalize (queue.send call).1 = handed at hsent
        generalize (queue.send call).2 = reply at hsent
        cases hclaimed with
        | granted hfree hexpires =>
            cases hsent with
            | taken hlistening hroom =>
                exact ⟨_, _, .accepted hclosed hfree hexpires hlistening hroom⟩
            | bounced hbounces => exact ⟨_, _, .bounced hclosed hfree hexpires hbounces⟩
        | taken hkey htaken => exact ⟨_, _, .duplicate hclosed hkey htaken⟩
        | overflow hkey hfree hbeyond => exact ⟨_, _, .overflow hclosed hkey hfree hbeyond⟩
  obtain ⟨after, answer, hoffered⟩ := hoffered
  rwa [hoffered.enqueue_eq]

/-! ### Ends -/

def rid (queue : TimedQueue ρ) (call : QueuedCall ρ) (how : CallEnd) : TimedQueue ρ :=
  { queue with
    pending := queue.pending - 1
    keys := queue.keys.finished call.options
    stats := queue.stats.counting how }

/-- An attempt that is to be made again is counted as a retry, and its call waits again. -/
theorem settle_of_retry (hretry : endOf? attempted outcome = none) :
    queue.settle attempted outcome =
      { queue with
        stats := { queue.stats with retried := queue.stats.retried + 1 }
        waiting := queue.waiting ++ [queue.again attempted] } := by
  rw [settle, hretry]
  rfl

theorem settle_of_end {how : CallEnd} (hends : endOf? attempted outcome = some how) :
    queue.settle attempted outcome = queue.rid attempted.call how := by
  rw [settle, hends]
  rfl

end TimedQueue

/-! ## Steps -/

/-- The worker has read other calls since this wait began. -/
def Waiting.overtake {ρ : Type} (waiting : Waiting ρ) : Waiting ρ :=
  { waiting with overtaken := true }

/-- A queue in the middle of a run.  Calls that the queue holds are told with their tickets;
the clock is the latest time at which a call was offered. -/
structure Workload (ρ : Type) where
  queue : TimedQueue ρ
  unread : List (Nat × QueuedCall ρ)
  waiting : List (Nat × Waiting ρ)
  running : List (Nat × Waiting ρ)
  history : QueueHistory ρ
  clock : Nat

namespace Workload

variable {ρ : Type}

def start (name : String) (capacity : Nat) : Workload ρ :=
  { queue := .start name capacity, unread := [], waiting := [], running := [], history := []
    clock := 0 }

def inPlay (workload : Workload ρ) : List Nat :=
  workload.unread.map Prod.fst ++ workload.waiting.map Prod.fst ++ workload.running.map Prod.fst

/-- The call with the first ticket that is free is accepted. -/
def accepting (workload : Workload ρ) (queue : TimedQueue ρ) (now : Nat) (call : QueuedCall ρ) :
    Workload ρ :=
  let ticket := workload.history.tickets.length
  { workload with
    queue
    unread := workload.unread ++ [(ticket, call)]
    history := .accepted ticket call now :: workload.history
    clock := now }

def refusing (workload : Workload ρ) (queue : TimedQueue ρ) (now : Nat) (call : QueuedCall ρ)
    (error : QueueError) : Workload ρ :=
  { workload with queue, history := .refused call now error :: workload.history, clock := now }

/-- The worker has read the calls in front of the others. -/
def reading (workload : Workload ρ) (front back : List (Nat × QueuedCall ρ)) : Workload ρ :=
  let queue := ({ workload.queue with unread := front.map Prod.snd }).receive
  { workload with
    queue := { queue with unread := back.map Prod.snd }
    unread := back
    waiting :=
      workload.waiting.map (Prod.map id Waiting.overtake) ++
        front.map (Prod.map id workload.queue.waitFor) }

def taking (workload : Workload ρ) (rest : List (Nat × Waiting ρ)) : Workload ρ :=
  { workload with
    queue := { workload.queue with waiting := rest.map Prod.snd }
    waiting := rest }

/-- The worker is told to stop and closes its end of the channel. -/
def closing (workload : Workload ρ) : Workload ρ :=
  { workload with queue := { workload.queue with closed := true, hungUp := true } }

/-- What can happen next.  A caller that panics is not heard of again.  A wait is over when it is
due; a queue is closed when the worker has read every call, and only then are calls that wait
abandoned. -/
inductive Step (workload : Workload ρ) : Workload ρ → Prop where
  | accept {now : Nat} {call : QueuedCall ρ} {queue : TimedQueue ρ}
      (hclock : workload.clock ≤ now)
      (haccepted : workload.queue.enqueue now call = (queue, some (.ok ()))) :
      Step workload (workload.accepting queue now call)
  | refuse {now : Nat} {call : QueuedCall ρ} {queue : TimedQueue ρ} {error : QueueError}
      (hclock : workload.clock ≤ now)
      (hrefused : workload.queue.enqueue now call = (queue, some (.error error))) :
      Step workload (workload.refusing queue now call error)
  | crash {now : Nat} {call : QueuedCall ρ} {queue : TimedQueue ρ}
      (hclock : workload.clock ≤ now)
      (hcrashed : workload.queue.enqueue now call = (queue, none)) :
      Step workload { workload with queue, clock := now }
  | read {front back : List (Nat × QueuedCall ρ)} (hunread : workload.unread = front ++ back)
      (hfront : front ≠ []) : Step workload (workload.reading front back)
  | begin {front back : List (Nat × Waiting ρ)} {ticket : Nat} {waiting : Waiting ρ}
      (hwaiting : workload.waiting = front ++ (ticket, waiting) :: back)
      (hdue : waiting.due ≤ workload.queue.time) :
      Step workload
        { workload.taking (front ++ back) with running := (ticket, waiting) :: workload.running }
  | retry {front back : List (Nat × Waiting ρ)} {ticket : Nat} {attempted : Waiting ρ}
      {outcome : AttemptOutcome}
      (hrunning : workload.running = front ++ (ticket, attempted) :: back)
      (hretry : TimedQueue.endOf? attempted outcome = none) :
      Step workload
        { workload with
          queue := workload.queue.settle attempted outcome
          waiting := workload.waiting ++ [(ticket, workload.queue.again attempted)]
          running := front ++ back }
  | finish {front back : List (Nat × Waiting ρ)} {ticket : Nat} {attempted : Waiting ρ}
      {outcome : AttemptOutcome} {how : CallEnd}
      (hrunning : workload.running = front ++ (ticket, attempted) :: back)
      (hends : TimedQueue.endOf? attempted outcome = some how) :
      Step workload
        { workload with
          queue := workload.queue.settle attempted outcome
          running := front ++ back
          history := .ended ticket attempted.call how :: workload.history }
  | close (hunread : workload.unread = []) : Step workload workload.closing
  | abandon {front back : List (Nat × Waiting ρ)} {ticket : Nat} {waiting : Waiting ρ}
      (hclosed : workload.queue.closed = true)
      (hwaiting : workload.waiting = front ++ (ticket, waiting) :: back) :
      Step workload
        { workload with
          queue := ({ workload.queue with waiting := (front ++ back).map Prod.snd }).leave
            waiting.call
          waiting := front ++ back
          history := .ended ticket waiting.call .abandoned :: workload.history }
  | pass {time : Nat} : Step workload { workload with queue := workload.queue.advanceTo time }

abbrev Steps : Workload ρ → Workload ρ → Prop := Relation.ReflTransGen Step

/-- What every step preserves is preserved by a run. -/
theorem Steps.preserve {holds : Workload ρ → Prop} {workload next : Workload ρ}
    (hsteps : Steps workload next)
    (hstep : ∀ workload next, holds workload → workload.Step next → holds next)
    (hstart : holds workload) : holds next := by
  induction hsteps with
  | refl => exact hstart
  | tail hsteps hlast ih => exact hstep _ _ ih hlast

/-! ## A small call -/

namespace Sample

def kind : PointKind := ⟨"order", "Order", .hidden⟩

def call (code : ρ) (key : Option String) (ttl : Option Duration) : QueuedCall ρ :=
  { handler := { id := "mail", accepts := kind, react := fun _ => code, serial := 0 }
    payload := .blank kind
    copies := kind
    queue := "jobs"
    options := { QueueOptions.standard with uniqueKey := key, uniqueTtl := ttl } }

end Sample

end Workload
end Plugboard
