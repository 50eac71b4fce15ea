import Plugboard.Proofs.Queue.Traffic

/-!
# No call is lost and none ends twice

Every ticket that was given out is at one place: its call is unread, waits, runs or is over in
one way.  The counts of a queue count these places up to the operations that are under way,
and where none is, the calls that are pending are those that were accepted and are not over.
-/

namespace Plugboard

variable {ρ : Type}

namespace QueueHistory

variable {history : QueueHistory ρ} {call : QueuedCall ρ} {ticket time : Nat} {how : CallEnd}

@[simp]
theorem tickets_accepted :
    tickets (.accepted ticket call time :: history) = ticket :: history.tickets := rfl

@[simp]
theorem tickets_ended : tickets (.ended ticket call how :: history) = history.tickets := rfl

@[simp]
theorem ends_accepted : ends (.accepted ticket call time :: history) = history.ends := rfl

@[simp]
theorem ends_ended :
    ends (.ended ticket call how :: history) = (ticket, how) :: history.ends := rfl

theorem endedAs_ended {other : CallEnd} :
    endedAs other (.ended ticket call how :: history) =
      history.endedAs other + if how = other then 1 else 0 := by
  simp [endedAs, List.count_cons]

@[simp]
theorem duplicates_ended :
    duplicates (.ended ticket call how :: history) = history.duplicates := rfl

theorem duplicates_refused {key : String} :
    duplicates (.refused call time (.duplicate key) :: history) = history.duplicates + 1 :=
  List.countP_cons_of_pos rfl

/-- A call that is over is so in one of three ways. -/
theorem length_ends (history : QueueHistory ρ) :
    history.ends.length =
      history.endedAs .completed + history.endedAs .failed + history.endedAs .abandoned := by
  induction history with
  | nil => rfl
  | cons event older ih =>
      cases event with
      | accepted ticket call time => exact ih
      | refused call time error => exact ih
      | ended ticket call how =>
          rw [ends_ended, List.length_cons, ih]
          cases how <;> simp only [endedAs_ended] <;> simp <;> omega

end QueueHistory

/-! ## Tickets at their places -/

namespace QueueHistory

/-- Every ticket that was given out belongs to a call that is not over, and then it is one of
those told, or to a call that is over. -/
structure Placed (history : QueueHistory ρ) (unfinished : List Nat) : Prop where
  tickets : history.tickets.reverse = List.range history.tickets.length
  places : history.tickets.Perm (unfinished ++ history.ends.map Prod.fst)

namespace Placed

variable {history : QueueHistory ρ} {unfinished after : List Nat}

theorem shuffle (hplaced : history.Placed unfinished) (hperm : after.Perm unfinished) :
    history.Placed after where
  tickets := hplaced.tickets
  places := hplaced.places.trans (hperm.symm.append_right _)

/-- The next ticket is given out. -/
theorem accepted (hplaced : history.Placed unfinished) {call : QueuedCall ρ} {now : Nat}
    (hperm : after.Perm (history.tickets.length :: unfinished)) :
    Placed (.accepted history.tickets.length call now :: history) after where
  tickets := by simp [hplaced.tickets, List.range_succ]
  places := (hplaced.places.cons _).trans (hperm.symm.append_right _)

theorem refused (hplaced : history.Placed unfinished) {call : QueuedCall ρ} {now : Nat}
    {error : QueueError} : Placed (.refused call now error :: history) unfinished :=
  ⟨hplaced.tickets, hplaced.places⟩

/-- A call leaves its place for the end. -/
theorem ended (hplaced : history.Placed unfinished) {ticket : Nat} {call : QueuedCall ρ}
    {how : CallEnd} (hperm : unfinished.Perm (ticket :: after)) :
    Placed (.ended ticket call how :: history) after where
  tickets := hplaced.tickets
  places := by
    refine hplaced.places.trans ((hperm.append_right _).trans ?_)
    rw [List.cons_append]
    exact List.perm_middle.symm

theorem nodup_tickets (hplaced : history.Placed unfinished) : history.tickets.Nodup := by
  rw [← (List.reverse_perm _).nodup_iff, hplaced.tickets]
  exact List.nodup_range

/-- No ticket is at two places. -/
theorem nodup_places (hplaced : history.Placed unfinished) :
    (unfinished ++ history.ends.map Prod.fst).Nodup :=
  hplaced.places.nodup_iff.mp hplaced.nodup_tickets

/-- A call ends once and in one way. -/
theorem nodup_ends (hplaced : history.Placed unfinished) :
    (history.ends.map Prod.fst).Nodup :=
  (List.nodup_append.mp hplaced.nodup_places).2.1

theorem ends_subset (hplaced : history.Placed unfinished) :
    history.ends.map Prod.fst ⊆ history.tickets := by
  intro ticket hticket
  exact hplaced.places.mem_iff.mpr (List.mem_append_right _ hticket)

/-- The calls that are not over are those whose tickets did not come to an end. -/
theorem unfinished_perm (hplaced : history.Placed unfinished) :
    (history.tickets.filter (· ∉ history.ends.map Prod.fst)).Perm unfinished := by
  refine (hplaced.places.filter _).trans ?_
  have hkept : ∀ ticket ∈ unfinished, ticket ∉ history.ends.map Prod.fst := by
    intro ticket hopen hended
    exact (List.nodup_append.mp hplaced.nodup_places).2.2 ticket hopen ticket hended rfl
  have hgone : (history.ends.map Prod.fst).filter (· ∉ history.ends.map Prod.fst) = [] := by
    simp [List.filter_eq_nil_iff]
  rw [List.filter_append, hgone, List.append_nil, List.filter_eq_self.mpr (by simpa using hkept)]

/-- Every ticket is unfinished or has come to one of three ends. -/
theorem length_tickets (hplaced : history.Placed unfinished) :
    history.tickets.length =
      history.endedAs .completed + history.endedAs .failed + history.endedAs .abandoned +
        unfinished.length := by
  have hlength := hplaced.places.length_eq
  rw [List.length_append, List.length_map, length_ends] at hlength
  omega

end Placed
end QueueHistory

/-! ## Counts of a queue that many threads use -/

namespace TimedQueue

variable {queue after : TimedQueue ρ}

theorem claimed_of_claimKey {now : Nat} {options : QueueOptions} {claim : UniqueKeys.Claim}
    (hclaim : queue.claimKey now options = (after, claim)) :
    queue.Claimed now options after claim := by
  have hclaimed := queue.claimed_claimKey now options
  rwa [hclaim] at hclaimed

theorem sent_of_send {call : QueuedCall ρ} {answer : Except SendError Unit}
    (hanswer : queue.send call = (after, answer)) : queue.Sent call after answer := by
  have hsent := queue.sent_send call
  rwa [hanswer] at hsent

end TimedQueue

namespace Traffic

variable {traffic next : Traffic ρ}

/-- Every ticket is at one place.  The accepted calls are counted but for those whose offers are
still to do it, and as pending count the calls that are not over and what is owed. -/
structure Balanced (traffic : Traffic ρ) : Prop where
  placed : traffic.history.Placed traffic.unfinished
  accepted : traffic.queue.stats.accepted + traffic.uncounted = traffic.history.tickets.length
  completed : traffic.queue.stats.completed = traffic.history.endedAs .completed
  failed : traffic.queue.stats.failed = traffic.history.endedAs .failed
  deduplicated : traffic.queue.stats.deduplicated = traffic.history.duplicates
  pending : traffic.queue.pending = traffic.unfinished.length + traffic.owed
  abandoned : ∀ ticket, (ticket, .abandoned) ∈ traffic.history.ends →
    traffic.queue.closed = true

/-- One offer is told apart from the others. -/
theorem tally {offers front back : List (Offer ρ)} {offer : Offer ρ}
    (hoffers : offers = front ++ offer :: back) (holds : OfferStage → Bool) :
    offers.countP (holds ·.stage) =
      (front ++ back).countP (holds ·.stage) + (holds offer.stage).toNat := by
  rw [hoffers, List.countP_append, List.countP_cons, List.countP_append]
  cases holds offer.stage with
  | false => rfl
  | true => exact (Nat.add_assoc _ _ 1).symm

/-- What the offers under way still owe is what the counts do not tell yet. -/
structure Even (traffic : Traffic ρ) (queue : TimedQueue ρ) (offers : List (Offer ρ)) : Prop where
  accepted : queue.stats.accepted + offers.countP (·.stage.isSent) =
    traffic.queue.stats.accepted + traffic.uncounted
  pending : queue.pending + traffic.announced =
    traffic.queue.pending + offers.countP (·.stage.isAnnounced)
  completed : queue.stats.completed = traffic.queue.stats.completed
  failed : queue.stats.failed = traffic.queue.stats.failed
  deduplicated : queue.stats.deduplicated = traffic.queue.stats.deduplicated
  closed : queue.closed = traffic.queue.closed

/-- An offer goes on and gives out no ticket. -/
theorem Balanced.forward (hbalanced : traffic.Balanced) {queue : TimedQueue ρ}
    {offers : List (Offer ρ)} (heven : traffic.Even queue offers) (clock : Nat) :
    { traffic with queue, offers, clock }.Balanced where
  placed := hbalanced.placed
  accepted := heven.accepted.trans hbalanced.accepted
  completed := heven.completed.trans hbalanced.completed
  failed := heven.failed.trans hbalanced.failed
  deduplicated := heven.deduplicated.trans hbalanced.deduplicated
  pending := by
    have hpending := heven.pending
    have hbefore := hbalanced.pending
    simp only [owed, announced, unfinished, Workload.inPlay] at hpending hbefore ⊢
    omega
  abandoned := by
    rw [show queue.closed = traffic.queue.closed from heven.closed]
    exact hbalanced.abandoned

/-- An offer comes to another stage. -/
theorem Even.replace {front back : List (Offer ρ)} {offer after : Offer ρ}
    {queue : TimedQueue ρ} (hoffers : traffic.offers = front ++ offer :: back)
    (haccepted : queue.stats.accepted + after.stage.isSent.toNat =
      traffic.queue.stats.accepted + offer.stage.isSent.toNat)
    (hpending : queue.pending + offer.stage.isAnnounced.toNat =
      traffic.queue.pending + after.stage.isAnnounced.toNat)
    (hcompleted : queue.stats.completed = traffic.queue.stats.completed)
    (hfailed : queue.stats.failed = traffic.queue.stats.failed)
    (hdeduplicated : queue.stats.deduplicated = traffic.queue.stats.deduplicated)
    (hclosed : queue.closed = traffic.queue.closed) :
    traffic.Even queue (front ++ after :: back) := by
  refine ⟨?_, ?_, hcompleted, hfailed, hdeduplicated, hclosed⟩
  · rw [uncounted, tally hoffers OfferStage.isSent, tally rfl OfferStage.isSent]
    omega
  · rw [announced, tally hoffers OfferStage.isAnnounced, tally rfl OfferStage.isAnnounced]
    omega

/-- An offer is over. -/
theorem Even.remove {front back : List (Offer ρ)} {offer : Offer ρ} {queue : TimedQueue ρ}
    (hoffers : traffic.offers = front ++ offer :: back)
    (haccepted : queue.stats.accepted =
      traffic.queue.stats.accepted + offer.stage.isSent.toNat)
    (hpending : queue.pending + offer.stage.isAnnounced.toNat = traffic.queue.pending)
    (hcompleted : queue.stats.completed = traffic.queue.stats.completed)
    (hfailed : queue.stats.failed = traffic.queue.stats.failed)
    (hdeduplicated : queue.stats.deduplicated = traffic.queue.stats.deduplicated)
    (hclosed : queue.closed = traffic.queue.closed) :
    traffic.Even queue (front ++ back) := by
  refine ⟨?_, ?_, hcompleted, hfailed, hdeduplicated, hclosed⟩
  · rw [uncounted, tally hoffers OfferStage.isSent]
    omega
  · rw [announced, tally hoffers OfferStage.isAnnounced]
    omega

/-- The worker moves calls between their places. -/
theorem Balanced.shuffle (hbalanced : traffic.Balanced)
    (hhistory : next.history = traffic.history) (hoffers : next.offers = traffic.offers)
    (hending : next.ending = traffic.ending) (hleaving : next.leaving = traffic.leaving)
    (hplaces : next.unfinished.Perm traffic.unfinished)
    (hpending : next.queue.pending = traffic.queue.pending)
    (haccepted : next.queue.stats.accepted = traffic.queue.stats.accepted)
    (hcompleted : next.queue.stats.completed = traffic.queue.stats.completed)
    (hfailed : next.queue.stats.failed = traffic.queue.stats.failed)
    (hdeduplicated : next.queue.stats.deduplicated = traffic.queue.stats.deduplicated)
    (hclosed : traffic.queue.closed = true → next.queue.closed = true) : next.Balanced where
  placed := by
    rw [hhistory]
    exact hbalanced.placed.shuffle hplaces
  accepted := by rw [haccepted, uncounted, hoffers, hhistory, ← hbalanced.accepted, uncounted]
  completed := by rw [hhistory, hcompleted, hbalanced.completed]
  failed := by rw [hhistory, hfailed, hbalanced.failed]
  deduplicated := by rw [hhistory, hdeduplicated, hbalanced.deduplicated]
  pending := by
    rw [hpending, hbalanced.pending, hplaces.length_eq, owed, owed, announced, announced, hoffers,
      hending, hleaving]
  abandoned := by
    intro ticket habandoned
    rw [hhistory] at habandoned
    exact hclosed (hbalanced.abandoned ticket habandoned)

/-- A call is over whose place was still taken. -/
theorem Balanced.ended (hbalanced : traffic.Balanced) {ticket : Nat} {call : QueuedCall ρ}
    {how : CallEnd} (hhistory : next.history = .ended ticket call how :: traffic.history)
    (hoffers : next.offers = traffic.offers) (hending : next.ending = call :: traffic.ending)
    (hleaving : next.leaving = traffic.leaving)
    (hplaces : traffic.unfinished.Perm (ticket :: next.unfinished))
    (hpending : next.queue.pending = traffic.queue.pending)
    (hstats : next.queue.stats = traffic.queue.stats.counting how)
    (hclosed : next.queue.closed = traffic.queue.closed)
    (habandons : how = .abandoned → traffic.queue.closed = true) : next.Balanced where
  placed := by
    rw [hhistory]
    exact hbalanced.placed.ended hplaces
  accepted := by
    rw [hhistory, hstats, uncounted, hoffers, QueueHistory.tickets_ended, ← hbalanced.accepted]
    cases how <;> rfl
  completed := by
    rw [hhistory, hstats, QueueHistory.endedAs_ended, ← hbalanced.completed]
    cases how <;> rfl
  failed := by
    rw [hhistory, hstats, QueueHistory.endedAs_ended, ← hbalanced.failed]
    cases how <;> rfl
  deduplicated := by
    rw [hhistory, hstats, QueueHistory.duplicates_ended, ← hbalanced.deduplicated]
    cases how <;> rfl
  pending := by
    rw [hpending, hbalanced.pending, hplaces.length_eq, owed, owed, announced, announced, hoffers,
      hending, hleaving, List.length_cons, List.length_cons]
    omega
  abandoned := by
    intro other hother
    rw [hhistory, QueueHistory.ends_ended] at hother
    rw [hclosed]
    rcases List.mem_cons.mp hother with hsame | hearlier
    · exact habandons (Prod.ext_iff.mp hsame).2.symm
    · exact hbalanced.abandoned other hearlier

/-- No attempt abandons a call. -/
theorem ne_abandoned {attempted : Waiting ρ} {outcome : AttemptOutcome} {how : CallEnd}
    (hends : TimedQueue.endOf? attempted outcome = some how) : how ≠ .abandoned := by
  rintro rfl
  cases outcome with
  | value value => cases hends
  | panic message => cases hends
  | failure failure =>
      simp only [TimedQueue.endOf?] at hends
      split at hends <;> cases hends

/-- What is taken from the pending calls was owed. -/
theorem Balanced.lowered (hbalanced : traffic.Balanced) (howed : 0 < traffic.owed) :
    traffic.queue.pending = traffic.queue.lowerPending.pending + 1 := by
  have hpending := hbalanced.pending
  simp only [TimedQueue.lowerPending]
  omega

theorem owed_pos_of_announced {front back : List (Offer ρ)} {offer : Offer ρ}
    (hoffers : traffic.offers = front ++ offer :: back)
    (hannounced : offer.stage.isAnnounced = true) : 0 < traffic.owed := by
  rw [owed, announced, tally hoffers OfferStage.isAnnounced, hannounced]
  exact Nat.succ_pos _

/-- The channel takes the call of an offer, which gets the next ticket. -/
theorem Balanced.send (hbalanced : traffic.Balanced) {front back : List (Offer ρ)}
    {call : QueuedCall ρ} {now : Nat}
    (hoffers : traffic.offers = front ++ ⟨call, now, .announced⟩ :: back) :
    { traffic with
      queue := { traffic.queue with unread := traffic.queue.unread ++ [call] }
      offers := front ++ Offer.mk call now .sent :: back
      unread := traffic.unread ++ [(traffic.history.tickets.length, call)]
      history :=
        .accepted traffic.history.tickets.length call now :: traffic.history }.Balanced where
  placed := by
    refine hbalanced.placed.accepted (List.perm_iff_count.mpr fun other => ?_)
    simp only [unfinished, Workload.inPlay, List.map_append, List.map_cons, List.map_nil,
      List.count_append, List.count_cons, List.count_nil]
    omega
  accepted := by
    have hbefore := hbalanced.accepted
    rw [uncounted, tally hoffers OfferStage.isSent] at hbefore
    rw [QueueHistory.tickets_accepted, List.length_cons, ← hbefore, uncounted,
      tally rfl OfferStage.isSent]
    rfl
  completed := hbalanced.completed
  failed := hbalanced.failed
  deduplicated := hbalanced.deduplicated
  pending := by
    have hbefore := hbalanced.pending
    rw [owed, announced, tally hoffers OfferStage.isAnnounced] at hbefore
    rw [owed, announced, tally rfl OfferStage.isAnnounced]
    simp only [unfinished, Workload.inPlay, List.length_append, List.length_map, List.length_cons,
      List.length_nil, OfferStage.isAnnounced, Bool.toNat_true, Bool.toNat_false] at hbefore ⊢
    omega
  abandoned := hbalanced.abandoned

/-- Every access keeps the balance. -/
theorem Balanced.step (hbalanced : traffic.Balanced) (hstep : traffic.Step next) :
    next.Balanced := by
  cases hstep with
  | turnAway hclock hclosed => exact { hbalanced with placed := hbalanced.placed.refused }
  | @enter call hopen =>
      refine hbalanced.forward ⟨?_, ?_, rfl, rfl, rfl, rfl⟩ _
      · simp [uncounted, OfferStage.isSent]
      · simp [announced, OfferStage.isAnnounced]
  | look hoffers hclock =>
      refine hbalanced.forward ?_ _
      exact .replace hoffers rfl rfl rfl rfl rfl rfl
  | claim hoffers hclaim =>
      cases TimedQueue.claimed_of_claimKey hclaim
      refine hbalanced.forward ?_ _
      exact .replace hoffers rfl rfl rfl rfl rfl rfl
  | bar hoffers hclaim =>
      cases TimedQueue.claimed_of_claimKey hclaim
      refine hbalanced.forward ?_ _
      exact .replace hoffers rfl rfl rfl rfl rfl rfl
  | crash hoffers hclaim =>
      cases TimedQueue.claimed_of_claimKey hclaim
      refine hbalanced.forward ?_ _
      exact .remove hoffers rfl rfl rfl rfl rfl rfl
  | @countDuplicate front back call now key hoffers =>
      have heven : traffic.Even traffic.queue (front ++ back) :=
        .remove hoffers rfl rfl rfl rfl rfl rfl
      have hafter := hbalanced.forward heven traffic.clock
      refine { hafter with placed := hafter.placed.refused, deduplicated := ?_ }
      exact (congrArg (· + 1) hafter.deduplicated).trans QueueHistory.duplicates_refused.symm
  | announce hoffers =>
      refine hbalanced.forward ?_ _
      exact .replace hoffers rfl rfl rfl rfl rfl rfl
  | send hoffers hsent =>
      cases TimedQueue.sent_of_send hsent
      exact hbalanced.send hoffers
  | bounce hoffers hsent =>
      cases TimedQueue.sent_of_send hsent
      refine hbalanced.forward ?_ _
      exact .replace hoffers rfl rfl rfl rfl rfl rfl
  | countAccepted hoffers =>
      refine hbalanced.forward ?_ _
      exact .remove hoffers rfl rfl rfl rfl rfl rfl
  | withdraw hoffers =>
      have hlowered := hbalanced.lowered (owed_pos_of_announced hoffers rfl)
      refine hbalanced.forward ?_ _
      exact .replace hoffers rfl hlowered.symm rfl rfl rfl rfl
  | @release front back call now error hoffers =>
      have heven : traffic.Even (traffic.queue.releaseKey call.options) (front ++ back) :=
        .remove hoffers rfl rfl rfl rfl rfl rfl
      have hafter := hbalanced.forward heven traffic.clock
      cases error <;> exact { hafter with placed := hafter.placed.refused }
  | @read front back hunread hfront =>
      have hread : (front.map Prod.snd).isEmpty = false := by simpa using hfront
      have hsame {γ δ : Type} (change : γ → δ) : Prod.fst ∘ Prod.map (@id Nat) change = Prod.fst :=
        rfl
      refine hbalanced.shuffle rfl rfl rfl rfl (List.perm_iff_count.mpr fun other => ?_)
        ?_ ?_ ?_ ?_ ?_ ?_
      · simp [unfinished, Workload.reading, Workload.inPlay, hunread, List.count_append, hsame]
        omega
      all_goals simp [Workload.reading, TimedQueue.receive, hread]
  | @begin front back ticket waiting hwaiting hdue =>
      refine hbalanced.shuffle rfl rfl rfl rfl (List.perm_iff_count.mpr fun other => ?_)
        rfl rfl rfl rfl rfl id
      simp [unfinished, Workload.taking, Workload.inPlay, hwaiting, List.count_cons]
      omega
  | @retry front back ticket attempted outcome hrunning hretry =>
      rw [TimedQueue.settle_of_retry hretry]
      refine hbalanced.shuffle rfl rfl rfl rfl (List.perm_iff_count.mpr fun other => ?_)
        rfl rfl rfl rfl rfl id
      simp [unfinished, Workload.inPlay, hrunning, List.count_cons]
      omega
  | @finish front back ticket attempted outcome how hrunning hends =>
      refine hbalanced.ended rfl rfl rfl rfl (List.perm_iff_count.mpr fun other => ?_) rfl rfl rfl
        fun habandoned => absurd habandoned (ne_abandoned hends)
      simp [unfinished, Workload.inPlay, hrunning, List.count_cons]
      omega
  | @abandon front back ticket waiting hclosed hwaiting =>
      refine hbalanced.ended rfl rfl rfl rfl (List.perm_iff_count.mpr fun other => ?_) rfl rfl rfl
        fun _ => hclosed
      simp [unfinished, Workload.taking, Workload.inPlay, hwaiting, List.count_cons]
      omega
  | @finishKey front back call hending =>
      refine { hbalanced with pending := ?_ }
      refine hbalanced.pending.trans (congrArg (traffic.unfinished.length + ·) ?_)
      simp only [owed, announced, hending, List.length_append, List.length_cons]
      omega
  | @lower front back call hleaving =>
      have howed : 0 < traffic.owed := by
        rw [owed, hleaving, List.length_append, List.length_cons]
        omega
      have hbefore := hbalanced.pending
      have hlowered := hbalanced.lowered howed
      refine { hbalanced with pending := ?_ }
      simp only [owed, announced, hleaving, unfinished, Workload.inPlay, List.length_append,
        List.length_cons] at hbefore ⊢
      omega
  | close => exact { hbalanced with abandoned := fun _ _ => rfl }
  | hangUp hclosed => exact { hbalanced with }
  | lose hhung =>
      refine hbalanced.shuffle rfl rfl rfl rfl (List.perm_iff_count.mpr fun other => ?_)
        rfl rfl rfl rfl rfl id
      simp [unfinished, Workload.inPlay]
      omega
  | pass => exact { hbalanced with }

theorem balanced_start (name : String) (capacity : Nat) :
    (Workload.start name capacity : Workload ρ).alone.Balanced where
  placed := ⟨rfl, .refl _⟩
  accepted := rfl
  completed := rfl
  failed := rfl
  deduplicated := rfl
  pending := rfl
  abandoned := by simp [Workload.alone, Workload.start, QueueHistory.ends]

theorem Balanced.steps (hbalanced : traffic.Balanced) (hsteps : Steps traffic next) :
    next.Balanced :=
  hsteps.preserve (fun _ _ hbalanced hstep => hbalanced.step hstep) hbalanced

/-! ## What is conserved -/

/-- Only a queue that is closed has abandoned a call. -/
theorem Balanced.endedAs_abandoned (hbalanced : traffic.Balanced)
    (hopen : traffic.queue.closed = false) : traffic.history.endedAs .abandoned = 0 := by
  rw [QueueHistory.endedAs, List.count_eq_zero]
  intro habandoned
  obtain ⟨⟨ticket, how⟩, hend, rfl⟩ := List.mem_map.mp habandoned
  rw [hbalanced.abandoned ticket hend] at hopen
  cases hopen

/-- Where an open queue has nothing pending every call that the channel took is over, and no access
is owed that would take something from the pending calls. -/
theorem Balanced.of_isDrained (hbalanced : traffic.Balanced)
    (hdrained : traffic.queue.isDrained = true) (hopen : traffic.queue.closed = false) :
    traffic.unfinished = [] ∧ traffic.owed = 0 ∧
      traffic.queue.stats.accepted + traffic.uncounted =
        traffic.queue.stats.completed + traffic.queue.stats.failed := by
  have hnone : traffic.queue.pending = 0 := by
    simpa [TimedQueue.isDrained, hopen] using hdrained
  obtain ⟨hunfinished, howed⟩ := Nat.add_eq_zero_iff.mp (hbalanced.pending.symm.trans hnone)
  refine ⟨List.length_eq_zero_iff.mp hunfinished, howed, ?_⟩
  have hlength := hbalanced.placed.length_tickets
  rw [hbalanced.accepted, hlength, hunfinished, hbalanced.endedAs_abandoned hopen,
    hbalanced.completed, hbalanced.failed]
  rfl

def ended (traffic : Traffic ρ) : List Nat := traffic.history.ends.map Prod.fst

/-- The tickets of the accepted calls that are not over. -/
def unended (traffic : Traffic ρ) : List Nat :=
  traffic.history.tickets.filter (· ∉ traffic.ended)

/-- No operation is in the middle of its accesses. -/
structure AtRest (traffic : Traffic ρ) : Prop where
  offers : traffic.offers = []
  ending : traffic.ending = []
  leaving : traffic.leaving = []

theorem AtRest.uncounted_eq (hrest : traffic.AtRest) : traffic.uncounted = 0 := by
  rw [uncounted, hrest.offers, List.countP_nil]

theorem AtRest.owed_eq (hrest : traffic.AtRest) : traffic.owed = 0 := by
  rw [owed, announced, hrest.offers, hrest.ending, hrest.leaving]
  rfl

/-- What is conserved, whatever is under way.  A call is accepted when the channel takes it. -/
structure Conserved (traffic : Traffic ρ) : Prop where
  accepted : traffic.history.tickets.length =
    traffic.history.endedAs .completed + traffic.history.endedAs .failed +
      traffic.history.endedAs .abandoned + traffic.unended.length
  stats : traffic.queue.stats.accepted + traffic.uncounted = traffic.history.tickets.length ∧
    traffic.queue.stats.completed = traffic.history.endedAs .completed ∧
    traffic.queue.stats.failed = traffic.history.endedAs .failed ∧
    traffic.queue.stats.deduplicated = traffic.history.duplicates
  pending : traffic.queue.pending = traffic.unended.length + traffic.owed
  once : traffic.history.tickets.Nodup ∧ traffic.ended.Nodup ∧
    traffic.ended ⊆ traffic.history.tickets
  abandoned : ∀ ticket, (ticket, .abandoned) ∈ traffic.history.ends →
    traffic.queue.closed = true
  /-- Whoever is about to lower the pending count finds something there. -/
  positive : traffic.leaving ≠ [] ∨
    (∃ offer ∈ traffic.offers, ∃ error, offer.stage = .bounced error) → 0 < traffic.queue.pending
  atRest : traffic.AtRest →
    traffic.queue.stats.accepted = traffic.queue.stats.completed + traffic.queue.stats.failed +
        traffic.history.endedAs .abandoned + traffic.queue.pending ∧
      traffic.queue.pending = traffic.unended.length
  drained : traffic.queue.isDrained = true → traffic.queue.closed = false →
    traffic.unended = [] ∧
      traffic.queue.stats.accepted + traffic.uncounted =
        traffic.queue.stats.completed + traffic.queue.stats.failed ∧
      (traffic.offers = [] → traffic.queue.stats.accepted =
        traffic.queue.stats.completed + traffic.queue.stats.failed)

/-- However the accesses of offers, of the worker, of calls that are over and of a shutdown come
between each other, every accepted call is over in one way or still in play, it is over once, and
only a closed queue has abandoned one.  The counts are those of the history up to the accesses
that operations under way have still to make, so where none is under way nothing is left open, and
the pending count is never lowered below zero.  When a drain finds nothing pending in an open queue
every accepted call has completed or failed, and is counted unless its offer is still to do so. -/
theorem accesses_conserve_calls {name : String} {capacity : Nat}
    (hsteps : Steps (Workload.start name capacity).alone traffic) : traffic.Conserved := by
  have hbalanced := (balanced_start name capacity).steps hsteps
  have hunended : traffic.unended.Perm traffic.unfinished := hbalanced.placed.unfinished_perm
  have haccepted := hbalanced.placed.length_tickets
  have hpending := hbalanced.pending
  rw [← hunended.length_eq] at haccepted hpending
  constructor
  case accepted => exact haccepted
  case stats =>
    exact ⟨hbalanced.accepted, hbalanced.completed, hbalanced.failed, hbalanced.deduplicated⟩
  case pending => exact hpending
  case once =>
    exact ⟨hbalanced.placed.nodup_tickets, hbalanced.placed.nodup_ends,
      hbalanced.placed.ends_subset⟩
  case abandoned => exact hbalanced.abandoned
  case positive =>
    intro hlowers
    have howed : 0 < traffic.owed := by
      rcases hlowers with hleaving | ⟨offer, hoffer, error, hbounced⟩
      · have hsome := List.length_pos_iff.mpr hleaving
        rw [owed]
        omega
      · obtain ⟨front, back, hoffers⟩ := List.append_of_mem hoffer
        exact owed_pos_of_announced hoffers (by rw [hbounced]; rfl)
    omega
  case atRest =>
    intro hrest
    have hcounted := hbalanced.accepted
    rw [hrest.uncounted_eq, Nat.add_zero] at hcounted
    rw [hrest.owed_eq, Nat.add_zero] at hpending
    refine ⟨?_, hpending⟩
    rw [hcounted, haccepted, hbalanced.completed, hbalanced.failed, hpending]
  case drained =>
    intro hdrained hopen
    obtain ⟨hnone, -, hover⟩ := hbalanced.of_isDrained hdrained hopen
    refine ⟨(hnone ▸ hunended).eq_nil, hover, fun hoffers => ?_⟩
    rw [uncounted, hoffers] at hover
    exact hover

namespace Sample

def started : Traffic Unit := (Workload.start "jobs" 1).alone

def mail : QueuedCall Unit := Workload.Sample.call () none none

/-- The channel has taken a call, and the offer has not counted it yet. -/
def sent : Traffic Unit :=
  { started with
    queue := { started.queue with pending := 1, unread := [mail] }
    offers := [⟨mail, 0, .sent⟩]
    unread := [(0, mail)]
    history := [.accepted 0 mail 0] }

def attempt : Waiting Unit := ⟨mail, 0, 0, false⟩

def begun : Traffic Unit :=
  { sent with queue := { sent.queue with unread := [] }, unread := [], running := [(0, attempt)] }

def outrun : Traffic Unit :=
  { sent with
    queue := { started.queue with stats := ⟨0, 1, 0, 0, 0⟩ }
    unread := []
    history := [.ended 0 mail .completed, .accepted 0 mail 0] }

/-- The call has completed, and is still pending. -/
def finished : Traffic Unit :=
  { outrun with queue := { outrun.queue with pending := 1 }, ending := [mail] }

def settled : Traffic Unit :=
  { outrun with queue := { started.queue with stats := ⟨1, 1, 0, 0, 0⟩ }, offers := [] }

theorem steps_outrun : Steps started outrun := by
  have hfree : started.queue.keys.Free 0 mail.options := nofun
  have hannounced := @steps_announced Unit started rfl 0 (Nat.le_refl 0) mail hfree nofun
  have hsent : Steps started sent :=
    .tail hannounced (@Step.send Unit _ [] [] mail 0 sent.queue rfl rfl)
  have hread := @Step.read Unit sent [(0, mail)] [] rfl (List.cons_ne_nil _ _)
  have hbegun : Steps sent begun :=
    .tail (.single hread) (@Step.begin Unit _ [] [] 0 attempt rfl (Nat.le_refl 0))
  have hrunning : begun.running = [] ++ (0, attempt) :: [] := rfl
  have hover : begun.Step finished :=
    @Step.finish Unit begun [] [] 0 attempt (.value .null) .completed hrunning rfl
  have houtrun : Steps finished outrun := @steps_leave Unit finished mail rfl rfl
  exact hsent.trans (hbegun.trans (.head hover houtrun))

theorem steps_settled : Steps started settled :=
  .tail steps_outrun (@Step.countAccepted Unit outrun [] [] mail 0 rfl)

end Sample

/-- Where the offer is over, too, every accepted call is counted and has completed. -/
theorem accesses_conserve_calls_of_sample :
    Steps Sample.started Sample.settled ∧ Sample.settled.queue.stats = ⟨1, 1, 0, 0, 0⟩ ∧
      Sample.settled.unended = [] ∧
      Sample.settled.queue.stats.accepted =
        Sample.settled.queue.stats.completed + Sample.settled.queue.stats.failed +
          Sample.settled.history.endedAs .abandoned + Sample.settled.queue.pending := by
  have hconserved := accesses_conserve_calls Sample.steps_settled
  exact ⟨Sample.steps_settled, rfl, (hconserved.drained rfl rfl).1,
    (hconserved.atRest ⟨rfl, rfl, rfl⟩).1⟩

/-- A call may be over, and a drain of the open queue with it, before the offer of the call has
counted it as accepted. -/
theorem drain_outruns_offer :
    Steps Sample.started Sample.outrun ∧ Sample.outrun.queue.closed = false ∧
      Sample.outrun.queue.isDrained = true ∧
      Sample.outrun.queue.stats = ⟨0, 1, 0, 0, 0⟩ ∧
      Sample.outrun.queue.stats.accepted ≠
        Sample.outrun.queue.stats.completed + Sample.outrun.queue.stats.failed +
          Sample.outrun.history.endedAs .abandoned + Sample.outrun.queue.pending ∧
      Sample.outrun.queue.stats.accepted ≠
        Sample.outrun.queue.stats.completed + Sample.outrun.queue.stats.failed :=
  ⟨Sample.steps_outrun, rfl, rfl, rfl, by decide, by decide⟩

end Traffic

end Plugboard
