import Plugboard.Proofs.Queue.Workload

/-!
# Many threads at one queue

The operations on a timed queue, taken apart into their single accesses to the keys, the counts
and the channel.  Any number of offers and of calls that are over may be under way, and their
accesses come in any order between those of the worker.  An operation that nothing interrupts
is a run of its accesses, so every run of whole operations is a run of single ones.
-/

namespace Plugboard

variable {ρ : Type}

/-- How far an offer has come that is under way. -/
inductive OfferStage where
  /-- The queue was not closed. -/
  | checked
  /-- The clock has been read. -/
  | looked
  /-- The key is taken, and the duplicate is not counted yet. -/
  | barred (key : String)
  | claimed
  /-- The call is counted as pending. -/
  | announced
  /-- The channel has the call, which is not counted as accepted yet. -/
  | sent
  /-- The channel did not take the call, which is still counted as pending. -/
  | bounced (error : SendError)
  /-- The call is pending no longer, and its key is still to be given back. -/
  | withdrawn (error : SendError)

def OfferStage.isAnnounced : OfferStage → Bool
  | .announced | .bounced _ => true
  | _ => false

def OfferStage.isSent : OfferStage → Bool
  | .sent => true
  | _ => false

/-- An offer that is under way, with the time that it read from the clock. -/
structure Offer (ρ : Type) where
  call : QueuedCall ρ
  now : Nat
  stage : OfferStage

/-- A queue in the middle of a run, with the operations that are under way on it. -/
structure Traffic (ρ : Type) extends Workload ρ where
  offers : List (Offer ρ)
  /-- Calls that are over and have not given their keys back. -/
  ending : List (QueuedCall ρ)
  /-- Calls that are over and are still counted as pending. -/
  leaving : List (QueuedCall ρ)
  /-- Calls that the worker left unread. -/
  lost : List (Nat × QueuedCall ρ)

/-- No operation is under way. -/
def Workload.alone (workload : Workload ρ) : Traffic ρ :=
  { workload with offers := [], ending := [], leaving := [], lost := [] }

namespace Traffic

/-- The tickets of accepted calls that are not over. -/
def unfinished (traffic : Traffic ρ) : List Nat := traffic.inPlay ++ traffic.lost.map Prod.fst

/-- How many calls the channel has taken that are not counted as accepted. -/
def uncounted (traffic : Traffic ρ) : Nat := traffic.offers.countP (·.stage.isSent)

/-- How many calls are counted as pending that the channel has not taken. -/
def announced (traffic : Traffic ρ) : Nat := traffic.offers.countP (·.stage.isAnnounced)

/-- What the operations under way have still to take from the pending calls, unless the channel
takes a call that is announced. -/
def owed (traffic : Traffic ρ) : Nat :=
  traffic.ending.length + traffic.leaving.length + traffic.announced

/-- One access.  The clock does not go back, but a thread may use what it read late. -/
inductive Step (traffic : Traffic ρ) : Traffic ρ → Prop where
  | turnAway {now : Nat} {call : QueuedCall ρ} (hclock : traffic.clock ≤ now)
      (hclosed : traffic.queue.closed = true) :
      Step traffic
        { traffic with
          toWorkload :=
            traffic.refusing traffic.queue now call (.closed traffic.queue.name) }
  | enter {call : QueuedCall ρ} (hopen : traffic.queue.closed = false) :
      Step traffic
        { traffic with offers := traffic.offers ++ [⟨call, traffic.clock, .checked⟩] }
  | look {front back : List (Offer ρ)} {call : QueuedCall ρ} {before now : Nat}
      (hoffers : traffic.offers = front ++ ⟨call, before, .checked⟩ :: back)
      (hclock : traffic.clock ≤ now) :
      Step traffic { traffic with offers := front ++ ⟨call, now, .looked⟩ :: back, clock := now }
  | claim {front back : List (Offer ρ)} {call : QueuedCall ρ} {now : Nat} {queue : TimedQueue ρ}
      (hoffers : traffic.offers = front ++ ⟨call, now, .looked⟩ :: back)
      (hclaim : traffic.queue.claimKey now call.options = (queue, .granted)) :
      Step traffic { traffic with queue, offers := front ++ ⟨call, now, .claimed⟩ :: back }
  | bar {front back : List (Offer ρ)} {call : QueuedCall ρ} {now : Nat} {queue : TimedQueue ρ}
      {key : String} (hoffers : traffic.offers = front ++ ⟨call, now, .looked⟩ :: back)
      (hclaim : traffic.queue.claimKey now call.options = (queue, .taken key)) :
      Step traffic { traffic with queue, offers := front ++ ⟨call, now, .barred key⟩ :: back }
  | crash {front back : List (Offer ρ)} {call : QueuedCall ρ} {now : Nat} {queue : TimedQueue ρ}
      (hoffers : traffic.offers = front ++ ⟨call, now, .looked⟩ :: back)
      (hclaim : traffic.queue.claimKey now call.options = (queue, .overflow)) :
      Step traffic { traffic with queue, offers := front ++ back }
  | countDuplicate {front back : List (Offer ρ)} {call : QueuedCall ρ} {now : Nat} {key : String}
      (hoffers : traffic.offers = front ++ ⟨call, now, .barred key⟩ :: back) :
      Step traffic
        { traffic with
          queue := traffic.queue.countDuplicate
          offers := front ++ back
          history := .refused call now (.duplicate key) :: traffic.history }
  | announce {front back : List (Offer ρ)} {call : QueuedCall ρ} {now : Nat}
      (hoffers : traffic.offers = front ++ ⟨call, now, .claimed⟩ :: back) :
      Step traffic
        { traffic with
          queue := traffic.queue.raisePending
          offers := front ++ ⟨call, now, .announced⟩ :: back }
  | send {front back : List (Offer ρ)} {call : QueuedCall ρ} {now : Nat} {queue : TimedQueue ρ}
      (hoffers : traffic.offers = front ++ ⟨call, now, .announced⟩ :: back)
      (hsent : traffic.queue.send call = (queue, .ok ())) :
      Step traffic
        { traffic with
          queue
          offers := front ++ ⟨call, now, .sent⟩ :: back
          unread := traffic.unread ++ [(traffic.history.tickets.length, call)]
          history := .accepted traffic.history.tickets.length call now :: traffic.history }
  | bounce {front back : List (Offer ρ)} {call : QueuedCall ρ} {now : Nat}
      {queue : TimedQueue ρ} {error : SendError}
      (hoffers : traffic.offers = front ++ ⟨call, now, .announced⟩ :: back)
      (hsent : traffic.queue.send call = (queue, .error error)) :
      Step traffic { traffic with queue, offers := front ++ ⟨call, now, .bounced error⟩ :: back }
  | countAccepted {front back : List (Offer ρ)} {call : QueuedCall ρ} {now : Nat}
      (hoffers : traffic.offers = front ++ ⟨call, now, .sent⟩ :: back) :
      Step traffic
        { traffic with queue := traffic.queue.countAccepted, offers := front ++ back }
  | withdraw {front back : List (Offer ρ)} {call : QueuedCall ρ} {now : Nat} {error : SendError}
      (hoffers : traffic.offers = front ++ ⟨call, now, .bounced error⟩ :: back) :
      Step traffic
        { traffic with
          queue := traffic.queue.lowerPending
          offers := front ++ ⟨call, now, .withdrawn error⟩ :: back }
  | release {front back : List (Offer ρ)} {call : QueuedCall ρ} {now : Nat} {error : SendError}
      (hoffers : traffic.offers = front ++ ⟨call, now, .withdrawn error⟩ :: back) :
      Step traffic
        { traffic with
          queue := traffic.queue.releaseKey call.options
          offers := front ++ back
          history :=
            .refused call now (error.refusal traffic.queue.name) :: traffic.history }
  | read {front back : List (Nat × QueuedCall ρ)} (hunread : traffic.unread = front ++ back)
      (hfront : front ≠ []) :
      Step traffic { traffic with toWorkload := traffic.reading front back }
  | begin {front back : List (Nat × Waiting ρ)} {ticket : Nat} {waiting : Waiting ρ}
      (hwaiting : traffic.waiting = front ++ (ticket, waiting) :: back)
      (hdue : waiting.due ≤ traffic.queue.time) :
      Step traffic
        { traffic with
          toWorkload :=
            { traffic.taking (front ++ back) with
              running := (ticket, waiting) :: traffic.running } }
  | retry {front back : List (Nat × Waiting ρ)} {ticket : Nat} {attempted : Waiting ρ}
      {outcome : AttemptOutcome}
      (hrunning : traffic.running = front ++ (ticket, attempted) :: back)
      (hretry : TimedQueue.endOf? attempted outcome = none) :
      Step traffic
        { traffic with
          queue := traffic.queue.settle attempted outcome
          waiting := traffic.waiting ++ [(ticket, traffic.queue.again attempted)]
          running := front ++ back }
  | finish {front back : List (Nat × Waiting ρ)} {ticket : Nat} {attempted : Waiting ρ}
      {outcome : AttemptOutcome} {how : CallEnd}
      (hrunning : traffic.running = front ++ (ticket, attempted) :: back)
      (hends : TimedQueue.endOf? attempted outcome = some how) :
      Step traffic
        { traffic with
          queue := traffic.queue.countEnd how
          running := front ++ back
          ending := attempted.call :: traffic.ending
          history := .ended ticket attempted.call how :: traffic.history }
  | abandon {front back : List (Nat × Waiting ρ)} {ticket : Nat} {waiting : Waiting ρ}
      (hclosed : traffic.queue.closed = true)
      (hwaiting : traffic.waiting = front ++ (ticket, waiting) :: back) :
      Step traffic
        { traffic with
          toWorkload :=
            { traffic.taking (front ++ back) with
              history := .ended ticket waiting.call .abandoned :: traffic.history }
          ending := waiting.call :: traffic.ending }
  | finishKey {front back : List (QueuedCall ρ)} {call : QueuedCall ρ}
      (hending : traffic.ending = front ++ call :: back) :
      Step traffic
        { traffic with
          queue := traffic.queue.finishKey call.options
          ending := front ++ back
          leaving := call :: traffic.leaving }
  | lower {front back : List (QueuedCall ρ)} {call : QueuedCall ρ}
      (hleaving : traffic.leaving = front ++ call :: back) :
      Step traffic
        { traffic with queue := traffic.queue.lowerPending, leaving := front ++ back }
  | close : Step traffic { traffic with queue := { traffic.queue with closed := true } }
  | hangUp (hclosed : traffic.queue.closed = true) :
      Step traffic { traffic with queue := { traffic.queue with hungUp := true } }
  | lose (hhung : traffic.queue.hungUp = true) :
      Step traffic
        { traffic with
          queue := { traffic.queue with unread := [] }
          unread := []
          lost := traffic.lost ++ traffic.unread }
  | pass {time : Nat} : Step traffic { traffic with queue := traffic.queue.advanceTo time }

abbrev Steps : Traffic ρ → Traffic ρ → Prop := Relation.ReflTransGen Step

variable {traffic next : Traffic ρ}

/-- What every access preserves is preserved by a run. -/
theorem Steps.preserve {holds : Traffic ρ → Prop} (hsteps : Steps traffic next)
    (hstep : ∀ traffic next, holds traffic → traffic.Step next → holds next)
    (hstart : holds traffic) : holds next := by
  induction hsteps with
  | refl => exact hstart
  | tail _ hlast ih => exact hstep _ _ ih hlast

/-! ## Whole operations -/

/-- What an offer leads to that nothing interrupts. -/
def offering (traffic : Traffic ρ) (queue : TimedQueue ρ) (now : Nat) (call : QueuedCall ρ) :
    Option (Except QueueError Unit) → Traffic ρ
  | some (.ok ()) => { traffic with toWorkload := traffic.accepting queue now call }
  | some (.error error) => { traffic with toWorkload := traffic.refusing queue now call error }
  | none => { traffic with queue, clock := now }

theorem steps_looked (hopen : traffic.queue.closed = false) {now : Nat}
    (hclock : traffic.clock ≤ now) (call : QueuedCall ρ) :
    Steps traffic
      { traffic with offers := traffic.offers ++ [⟨call, now, .looked⟩], clock := now } :=
  .tail (.single (.enter hopen)) (.look rfl hclock)

/-- A call that may have its key is announced and goes to the channel. -/
theorem steps_announced (hopen : traffic.queue.closed = false) {now : Nat}
    (hclock : traffic.clock ≤ now) {call : QueuedCall ρ}
    (hfree : traffic.queue.keys.Free now call.options) (hexpires : call.options.Expires now) :
    Steps traffic
      { traffic with
        queue := traffic.queue.announcing now call
        offers := traffic.offers ++ [⟨call, now, .announced⟩]
        clock := now } := by
  have hclaim := (TimedQueue.Claimed.granted hfree hexpires).claimKey_eq
  exact .tail (.tail (steps_looked hopen hclock call) (.claim rfl hclaim)) (.announce rfl)

/-- An offer that nothing interrupts is a run of its accesses. -/
theorem steps_offering {now : Nat} (hclock : traffic.clock ≤ now) (call : QueuedCall ρ) :
    Steps traffic
      (traffic.offering (traffic.queue.enqueue now call).1 now call
        (traffic.queue.enqueue now call).2) := by
  have hoffered := traffic.queue.offered_enqueue now call
  generalize (traffic.queue.enqueue now call).1 = after at hoffered
  generalize (traffic.queue.enqueue now call).2 = answer at hoffered
  cases hoffered with
  | closed hclosed => exact .single (.turnAway hclock hclosed)
  | duplicate hopen hkey htaken =>
      have hclaim := (TimedQueue.Claimed.taken hkey htaken).claimKey_eq
      have hrun := Relation.ReflTransGen.tail
        (.tail (steps_looked hopen hclock call) (.bar rfl hclaim)) (.countDuplicate rfl)
      rw [List.append_nil] at hrun
      exact hrun
  | overflow hopen hkey hfree hbeyond =>
      have hclaim := (TimedQueue.Claimed.overflow hkey hfree hbeyond).claimKey_eq
      have hrun := Relation.ReflTransGen.tail (steps_looked hopen hclock call) (.crash rfl hclaim)
      rw [List.append_nil] at hrun
      exact hrun
  | bounced hopen hfree hexpires hbounces =>
      have hsent := TimedQueue.send_announcing_of_bounces hbounces now call
      have hrun := Relation.ReflTransGen.tail
        (.tail (.tail (steps_announced hopen hclock hfree hexpires) (.bounce rfl hsent))
          (.withdraw rfl)) (.release rfl)
      rw [List.append_nil] at hrun
      exact hrun
  | accepted hopen hfree hexpires hlistening hroom =>
      have hsent := TimedQueue.send_announcing_of_room hlistening hroom now call
      have hrun := Relation.ReflTransGen.tail
        (.tail (steps_announced hopen hclock hfree hexpires) (.send rfl hsent))
        (.countAccepted rfl)
      rw [List.append_nil] at hrun
      exact hrun

/-- A call that is over leaves the queue, when nothing comes in between. -/
theorem steps_leave {call : QueuedCall ρ} (hending : traffic.ending = [call])
    (hleaving : traffic.leaving = []) :
    Steps traffic
      { traffic with queue := traffic.queue.leave call, ending := [], leaving := [] } := by
  have hfirst : traffic.ending = [] ++ call :: [] := hending
  have hsecond : call :: traffic.leaving = [] ++ call :: [] := by
    rw [hleaving]
    rfl
  exact .tail (.single (.finishKey hfirst)) (@Step.lower ρ _ [] [] call hsecond)

end Traffic

/-- A step of whole operations is a run of their accesses. -/
theorem Workload.Step.steps_alone {workload next : Workload ρ} (hstep : workload.Step next) :
    Traffic.Steps workload.alone next.alone := by
  cases hstep with
  | @accept now call queue hclock haccepted =>
      have hrun := @Traffic.steps_offering ρ workload.alone now hclock call
      rw [show workload.alone.queue.enqueue now call = _ from haccepted] at hrun
      exact hrun
  | @refuse now call queue error hclock hrefused =>
      have hrun := @Traffic.steps_offering ρ workload.alone now hclock call
      rw [show workload.alone.queue.enqueue now call = _ from hrefused] at hrun
      exact hrun
  | @crash now call queue hclock hcrashed =>
      have hrun := @Traffic.steps_offering ρ workload.alone now hclock call
      rw [show workload.alone.queue.enqueue now call = _ from hcrashed] at hrun
      exact hrun
  | read hunread hfront => exact .single (.read hunread hfront)
  | begin hwaiting hdue => exact .single (.begin hwaiting hdue)
  | retry hrunning hretry => exact .single (.retry hrunning hretry)
  | @finish front back ticket attempted outcome how hrunning hends =>
      rw [TimedQueue.settle_of_end hends]
      exact .trans (.single (.finish hrunning hends)) (Traffic.steps_leave rfl rfl)
  | close hunread => exact .tail (.single .close) (.hangUp rfl)
  | @abandon front back ticket waiting hclosed hwaiting =>
      exact .trans (.single (.abandon hclosed hwaiting)) (Traffic.steps_leave rfl rfl)
  | pass => exact .single .pass

/-- A run of whole operations is a run of single accesses. -/
theorem Workload.Steps.alone {workload next : Workload ρ} (hsteps : Steps workload next) :
    Traffic.Steps workload.alone next.alone := by
  induction hsteps with
  | refl => exact .refl
  | tail _ hlast ih => exact ih.trans hlast.steps_alone

end Plugboard
