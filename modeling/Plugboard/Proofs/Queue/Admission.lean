import Plugboard.Proofs.Queue.Moves

/-!
# Calls that are not accepted

An offer takes the key of its call before there is known to be room for it.  Whatever else is
under way, the queue decides by its state how each access comes out, and so which answer an
offer gets that nothing interrupts.  An offer that is not accepted then leaves nothing behind
but a count of duplicates: from then on everybody goes the same ways, with the same answers,
as if the call had not been offered.  That goes for a caller that panics too.  It does not go
for an offer that is interrupted, which may give back the key of another call.
-/

namespace Plugboard

variable {ρ : Type}

/-! ## Keys that agree -/

namespace UniqueKeys

variable {keys left right other : UniqueKeys} {now : Nat} {options : QueueOptions}

/-- The same keys are live in both, from a time on. -/
structure Agree (left right : UniqueKeys) (now : Nat) : Prop where
  distinctLeft : left.keys.Nodup
  distinctRight : right.keys.Nodup
  live : ∀ later key, now ≤ later → (left.live later).get? key = (right.live later).get? key

theorem nodup_keys_live (hdistinct : keys.keys.Nodup) (now : Nat) :
    (keys.live now).keys.Nodup :=
  hdistinct.sublist (List.filter_sublist.map Prod.fst)

/-- What is live later is live now. -/
theorem live_live {later : Nat} (hlater : now ≤ later) :
    (keys.live now).live later = keys.live later := by
  rw [live, live, live, List.filter_filter]
  apply List.filter_congr
  rintro ⟨key, expiry⟩ -
  cases expiry with
  | none => rfl
  | some time =>
      simp only [isLive, Bool.and_eq_left_iff_imp, decide_eq_true_eq]
      omega

/-- A key is live if it has an entry that has not expired. -/
theorem has_live_iff (hdistinct : keys.keys.Nodup) (key : String) :
    (keys.live now).has key = true ↔
      ∃ expiry, keys.get? key = some expiry ∧ isLive now expiry = true := by
  rw [Table.has, get?_live hdistinct, Option.isSome_iff_exists]
  simp only [Option.filter_eq_some_iff]

/-- The key of a call has an entry that has not expired. -/
def Blocks (keys : UniqueKeys) (now : Nat) (options : QueueOptions) : Prop :=
  ∃ key expiry, options.uniqueKey = some key ∧ keys.get? key = some expiry ∧
    isLive now expiry = true

theorem blocks_of_taken (hdistinct : keys.keys.Nodup) {key : String}
    (hkey : options.uniqueKey = some key) (htaken : (keys.live now).has key = true) :
    keys.Blocks now options := by
  obtain ⟨expiry, hexpiry, hlive⟩ := (has_live_iff hdistinct key).mp htaken
  exact ⟨key, expiry, hkey, hexpiry, hlive⟩

theorem not_blocks_of_free (hdistinct : keys.keys.Nodup) (hfree : keys.Free now options) :
    ¬ keys.Blocks now options := by
  rintro ⟨key, expiry, hkey, hexpiry, hlive⟩
  have htaken := (has_live_iff hdistinct key).mpr ⟨expiry, hexpiry, hlive⟩
  rw [hfree key hkey] at htaken
  cases htaken

theorem finish_eq (keys : UniqueKeys) (key : String) :
    keys.finish key = if keys.get? key = some none then keys.remove key else keys := by
  rw [finish]
  split
  · rw [if_pos ‹_›]
  · rw [if_neg ‹_›]

namespace Agree

theorem of_get?_eq (hleft : left.keys.Nodup) (hright : right.keys.Nodup)
    (hsame : ∀ key, left.get? key = right.get? key) : left.Agree right now where
  distinctLeft := hleft
  distinctRight := hright
  live := fun later key _ => by rw [get?_live hleft, get?_live hright, hsame]

theorem refl (hdistinct : keys.keys.Nodup) : keys.Agree keys now :=
  ⟨hdistinct, hdistinct, fun _ _ _ => rfl⟩

theorem symm (hagree : left.Agree right now) : right.Agree left now :=
  ⟨hagree.distinctRight, hagree.distinctLeft, fun later key hlater =>
    (hagree.live later key hlater).symm⟩

theorem trans (hfirst : left.Agree right now) (hsecond : right.Agree other now) :
    left.Agree other now :=
  ⟨hfirst.distinctLeft, hsecond.distinctRight, fun later key hlater =>
    (hfirst.live later key hlater).trans (hsecond.live later key hlater)⟩

/-- Expired keys do not matter. -/
theorem purged (hdistinct : keys.keys.Nodup) : (keys.live now).Agree keys now where
  distinctLeft := nodup_keys_live hdistinct now
  distinctRight := hdistinct
  live := fun later key hlater => by rw [live_live hlater]

/-- Where keys agree they still do once those that expired are gone. -/
theorem purge {time : Nat} (hagree : left.Agree right now) (htime : now ≤ time) :
    (left.live time).Agree (right.live time) now :=
  of_get?_eq (nodup_keys_live hagree.distinctLeft time) (nodup_keys_live hagree.distinctRight time)
    fun key => hagree.live time key htime

theorem set (hagree : left.Agree right now) (key : String) (expiry : Option Nat) :
    Agree (Table.set key expiry left) (Table.set key expiry right) now := by
  have hleft := Table.nodup_keys_set hagree.distinctLeft key expiry
  have hright := Table.nodup_keys_set hagree.distinctRight key expiry
  refine ⟨hleft, hright, fun later other hlater => ?_⟩
  rw [get?_live hleft, get?_live hright, Table.get?_set, Table.get?_set]
  split
  · rfl
  · rw [← get?_live hagree.distinctLeft, ← get?_live hagree.distinctRight]
    exact hagree.live later other hlater

theorem remove (hagree : left.Agree right now) (key : String) :
    Agree (Table.remove key left) (Table.remove key right) now := by
  have hleft := Table.nodup_keys_remove hagree.distinctLeft key
  have hright := Table.nodup_keys_remove hagree.distinctRight key
  refine ⟨hleft, hright, fun later other hlater => ?_⟩
  rw [get?_live hleft, get?_live hright, Table.get?_remove, Table.get?_remove]
  split
  · rfl
  · rw [← get?_live hagree.distinctLeft, ← get?_live hagree.distinctRight]
    exact hagree.live later other hlater

/-- A key without a time is live at every time, so both have it or neither. -/
theorem get?_eq_open_iff (hagree : left.Agree right now) (key : String) :
    left.get? key = some none ↔ right.get? key = some none := by
  have hlive {keys : UniqueKeys} (hdistinct : keys.keys.Nodup) :
      (keys.live now).get? key = some none ↔ keys.get? key = some none := by
    rw [get?_live hdistinct, Option.filter_eq_some_iff]
    simp [isLive]
  rw [← hlive hagree.distinctLeft, ← hlive hagree.distinctRight,
    hagree.live now key (Nat.le_refl now)]

/-- Where keys agree the same ones are live. -/
theorem has_live {time : Nat} (hagree : left.Agree right now) (htime : now ≤ time)
    (key : String) : (left.live time).has key = (right.live time).has key := by
  rw [Table.has, Table.has, hagree.live time key htime]

theorem free {time : Nat} (hagree : left.Agree right now) (htime : now ≤ time)
    (hfree : right.Free time options) : left.Free time options := by
  intro key hkey
  rw [hagree.has_live htime]
  exact hfree key hkey

theorem taken {time : Nat} (hagree : left.Agree right now) (htime : now ≤ time)
    (options : QueueOptions) : (left.taken time options).Agree (right.taken time options) now := by
  rw [UniqueKeys.taken, UniqueKeys.taken]
  cases options.uniqueKey with
  | none => exact hagree
  | some key => exact (hagree.purge htime).set key _

theorem released (hagree : left.Agree right now) (options : QueueOptions) :
    (left.released options).Agree (right.released options) now := by
  rw [UniqueKeys.released, UniqueKeys.released]
  cases options.uniqueKey with
  | none => exact hagree
  | some key => exact hagree.remove key

theorem finished (hagree : left.Agree right now) (options : QueueOptions) :
    (left.finished options).Agree (right.finished options) now := by
  rw [UniqueKeys.finished, UniqueKeys.finished]
  cases options.uniqueKey with
  | none => exact hagree
  | some key =>
      have hsame := hagree.get?_eq_open_iff key
      simp only [finish_eq]
      by_cases hopen : left.get? key = some none
      · rw [if_pos hopen, if_pos (hsame.mp hopen)]
        exact hagree.remove key
      · rw [if_neg hopen, if_neg (mt hsame.mpr hopen)]
        exact hagree

/-- A call that gives its key back leaves the live keys as it found them. -/
theorem givenBack (hdistinct : keys.keys.Nodup) (hfree : keys.Free now options) :
    ((keys.taken now options).released options).Agree keys now := by
  rw [UniqueKeys.taken, UniqueKeys.released]
  cases hkey : options.uniqueKey with
  | none => exact refl hdistinct
  | some own =>
      have hlive := nodup_keys_live hdistinct now
      have habsent : (keys.live now).get? own = none := by simpa [Table.has] using hfree own hkey
      refine trans (of_get?_eq ?_ hlive fun key => ?_) (purged hdistinct)
      · exact Table.nodup_keys_remove (Table.nodup_keys_set hlive own _) own
      · refine (Table.get?_remove_set ..).trans ?_
        split
        · subst key
          exact habsent.symm
        · rfl

end Agree
end UniqueKeys

/-! ## Answers -/

namespace TimedQueue

variable {queue after : TimedQueue ρ} {now : Nat} {call : QueuedCall ρ}

/-- The answer says what the queue is like. -/
theorem Offered.answer_iff {answer : Option (Except QueueError Unit)}
    (hoffered : queue.Offered now call after answer) (hdistinct : queue.keys.keys.Nodup)
    (hfits : queue.unread.length ≤ queue.room) (hhung : queue.hungUp = true → queue.closed = true) :
    let blocked := queue.keys.Blocks now call.options
    let expires := call.options.Expires now
    (answer = none ↔ queue.closed = false ∧ ¬ blocked ∧ ¬ expires) ∧
      (answer = some (.error (.closed queue.name)) ↔ queue.closed = true) ∧
      (∀ key, answer = some (.error (.duplicate key)) ↔
        queue.closed = false ∧ call.options.uniqueKey = some key ∧ blocked) ∧
      (answer = some (.error (.full queue.name)) ↔
        queue.closed = false ∧ ¬ blocked ∧ expires ∧ queue.unread.length = queue.room) ∧
      (answer = some (.ok ()) ↔
        queue.closed = false ∧ ¬ blocked ∧ expires ∧ queue.unread.length < queue.room) := by
  cases hoffered with
  | closed hclosed => simp [hclosed]
  | duplicate hopen hkey htaken =>
      have hblocks := UniqueKeys.blocks_of_taken hdistinct hkey htaken
      simp [hopen, hkey, hblocks]
  | overflow hopen hkey hfree hbeyond =>
      have hblocks := UniqueKeys.not_blocks_of_free hdistinct hfree
      simp [hopen, hblocks, hbeyond]
  | bounced hopen hfree hexpires hbounces =>
      have hblocks := UniqueKeys.not_blocks_of_free hdistinct hfree
      cases hbounces with
      | closed hhungUp => exact absurd (hhung hhungUp) (Bool.eq_false_iff.mp hopen)
      | full hlistening hfull =>
          have hlength := Nat.le_antisymm hfits hfull
          simp [hopen, hblocks, hexpires, hlength, SendError.refusal]
  | accepted hopen hfree hexpires hlistening hroom =>
      have hblocks := UniqueKeys.not_blocks_of_free hdistinct hfree
      simp [hopen, hblocks, hexpires, hroom, Nat.ne_of_lt hroom]

/-- How a claim comes out is decided by whether the key is blocked and whether its time can be told.
-/
theorem Claimed.claim_iff {options : QueueOptions} {claim : UniqueKeys.Claim}
    (hclaimed : queue.Claimed now options after claim) (hdistinct : queue.keys.keys.Nodup) :
    let blocked := queue.keys.Blocks now options
    (∀ key, claim = .taken key ↔ options.uniqueKey = some key ∧ blocked) ∧
      (claim = .overflow ↔ ¬ blocked ∧ ¬ options.Expires now) ∧
      (claim = .granted ↔ ¬ blocked ∧ options.Expires now) := by
  cases hclaimed with
  | granted hfree hexpires =>
      simp [UniqueKeys.not_blocks_of_free hdistinct hfree, hexpires]
  | taken hkey htaken => simp [UniqueKeys.blocks_of_taken hdistinct hkey htaken, hkey]
  | overflow hkey hfree hbeyond =>
      simp [UniqueKeys.not_blocks_of_free hdistinct hfree, hbeyond]

theorem Sent.answer_iff {answer : Except SendError Unit} (hsent : queue.Sent call after answer)
    (hfits : queue.unread.length ≤ queue.room) :
    (answer = .error .closed ↔ queue.hungUp = true) ∧
      (answer = .error .full ↔ queue.hungUp = false ∧ queue.unread.length = queue.room) ∧
      (answer = .ok () ↔ queue.hungUp = false ∧ queue.unread.length < queue.room) := by
  cases hsent with
  | taken hlistening hroom => simp [hlistening, hroom, Nat.ne_of_lt hroom]
  | bounced hbounces =>
      cases hbounces with
      | closed hhung => simp [hhung]
      | full hlistening hfull => simp [hlistening, Nat.le_antisymm hfits hfull]

/-- The queue with other keys and another count of duplicates. -/
def altered (queue : TimedQueue ρ) (keys : UniqueKeys) (deduplicated : Nat) : TimedQueue ρ :=
  { queue with keys, stats := { queue.stats with deduplicated } }

/-- With keys that agree a claim comes out alike, and the keys agree afterwards. -/
theorem Claimed.altered {options : QueueOptions} {claim : UniqueKeys.Claim} {time : Nat}
    (hclaimed : queue.Claimed time options after claim) {keys : UniqueKeys}
    (hagree : keys.Agree queue.keys now) (htime : now ≤ time) (deduplicated : Nat) :
    ∃ left, (queue.altered keys deduplicated).Claimed time options
        (after.altered left deduplicated) claim ∧ left.Agree after.keys now := by
  cases hclaimed with
  | granted hfree hexpires =>
      exact ⟨_, .granted (hagree.free htime hfree) hexpires, hagree.taken htime options⟩
  | taken hkey htaken =>
      exact ⟨_, .taken hkey ((hagree.has_live htime _).trans htaken), hagree.purge htime⟩
  | overflow hkey hfree hbeyond =>
      exact ⟨_, .overflow hkey (hagree.free htime hfree) hbeyond, hagree.purge htime⟩

/-- The channel does not look at the keys, and leaves them alone. -/
theorem Sent.altered {answer : Except SendError Unit} (hsent : queue.Sent call after answer)
    (keys : UniqueKeys) (deduplicated : Nat) :
    (queue.altered keys deduplicated).Sent call (after.altered keys deduplicated) answer ∧
      after.keys = queue.keys ∧ after.stats = queue.stats := by
  cases hsent with
  | taken hlistening hroom => exact ⟨.taken hlistening hroom, rfl, rfl⟩
  | bounced hbounces =>
      refine ⟨.bounced ?_, rfl, rfl⟩
      cases hbounces with
      | closed hhung => exact .closed hhung
      | full hlistening hfull => exact .full hlistening hfull

/-- A key is claimed alike where the keys agree, and the counts are left alone. -/
theorem claimKey_altered {options : QueueOptions} {claim : UniqueKeys.Claim} {time : Nat}
    (hclaim : queue.claimKey time options = (after, claim)) {keys : UniqueKeys}
    (hagree : keys.Agree queue.keys now) (htime : now ≤ time) (deduplicated : Nat) :
    ∃ left, (queue.altered keys deduplicated).claimKey time options =
        (after.altered left deduplicated, claim) ∧
      left.Agree after.keys now ∧ after.stats = queue.stats := by
  have hclaimed := claimed_of_claimKey hclaim
  obtain ⟨left, hother, hafter⟩ := hclaimed.altered hagree htime deduplicated
  refine ⟨left, hother.claimKey_eq, hafter, ?_⟩
  cases hclaimed <;> rfl

end TimedQueue

namespace Traffic

variable {traffic next left right : Traffic ρ}

/-! ## What accesses keep -/

/-- A queue holds no more calls unread than it has room for, no key twice, and the worker hangs
up only when it has been told to stop. -/
structure Tidy (name : String) (capacity : Nat) (traffic : Traffic ρ) : Prop where
  name : traffic.queue.name = name
  room : traffic.queue.room = Nat.max capacity 1
  unread : traffic.queue.unread = traffic.unread.map Prod.snd
  fits : traffic.unread.length ≤ Nat.max capacity 1
  distinct : traffic.queue.keys.keys.Nodup
  hung : traffic.queue.hungUp = true → traffic.queue.closed = true

theorem nodup_keys_of_claimed {queue after : TimedQueue ρ} {now : Nat} {options : QueueOptions}
    {claim : UniqueKeys.Claim} (hclaimed : queue.Claimed now options after claim)
    (hdistinct : queue.keys.keys.Nodup) : after.keys.keys.Nodup := by
  have hlive := UniqueKeys.nodup_keys_live hdistinct now
  cases hclaimed with
  | taken | overflow => exact hlive
  | granted =>
      dsimp only
      rw [UniqueKeys.taken]
      split
      · exact hdistinct
      · exact Table.nodup_keys_set hlive _ _

theorem tidy_start (name : String) (capacity : Nat) :
    (Workload.start name capacity : Workload ρ).alone.Tidy name capacity :=
  ⟨rfl, rfl, rfl, Nat.zero_le _, List.nodup_nil, nofun⟩

variable {name : String} {capacity : Nat}

/-- Claiming a key changes nothing but the keys. -/
theorem Tidy.claim (htidy : traffic.Tidy name capacity) {now : Nat} {options : QueueOptions}
    {claim : UniqueKeys.Claim} {queue : TimedQueue ρ}
    (hclaim : traffic.queue.claimKey now options = (queue, claim)) (offers : List (Offer ρ)) :
    { traffic with queue, offers }.Tidy name capacity := by
  have hclaimed := TimedQueue.claimed_of_claimKey hclaim
  have hdistinct := nodup_keys_of_claimed hclaimed htidy.distinct
  cases hclaimed <;> exact { htidy with distinct := hdistinct }

/-- Every access keeps a queue tidy. -/
theorem Tidy.step (htidy : traffic.Tidy name capacity) (hstep : traffic.Step next) :
    next.Tidy name capacity := by
  cases hstep with
  | claim hoffers hclaim => exact htidy.claim hclaim _
  | bar hoffers hclaim => exact htidy.claim hclaim _
  | crash hoffers hclaim => exact htidy.claim hclaim _
  | send hoffers hsent =>
      cases TimedQueue.sent_of_send hsent with
      | taken hlistening hroom =>
          rw [htidy.room, htidy.unread, List.length_map] at hroom
          exact { htidy with
            unread := by simp [htidy.unread]
            fits := by simpa using Nat.succ_le_of_lt hroom }
  | bounce hoffers hsent =>
      cases TimedQueue.sent_of_send hsent
      exact { htidy with }
  | @release front back call now error hoffers =>
      refine { htidy with distinct := ?_ }
      rw [TimedQueue.releaseKey, UniqueKeys.released]
      split
      · exact htidy.distinct
      · exact Table.nodup_keys_remove htidy.distinct _
  | @finishKey front back call hending =>
      refine { htidy with distinct := ?_ }
      rw [TimedQueue.finishKey, UniqueKeys.finished]
      split
      · exact htidy.distinct
      · dsimp only
        rw [UniqueKeys.finish_eq]
        split
        · exact Table.nodup_keys_remove htidy.distinct _
        · exact htidy.distinct
  | @read front back hunread hfront =>
      have hfits := htidy.fits
      rw [hunread, List.length_append] at hfits
      rw [Workload.reading_eq hfront]
      exact { htidy with unread := rfl, fits := Nat.le_of_add_left_le hfits }
  | retry hrunning hretry =>
      rw [TimedQueue.settle_of_retry hretry]
      exact { htidy with }
  | close => exact { htidy with hung := fun _ => rfl }
  | hangUp hclosed => exact { htidy with hung := fun _ => hclosed }
  | lose hhung => exact { htidy with unread := rfl, fits := Nat.zero_le _ }
  | turnAway _ _ | enter _ | look _ _ | countDuplicate _ | announce _ | countAccepted _ | withdraw _
  | begin _ _ | finish _ _ | abandon _ _ | lower _ | pass => exact { htidy with }

theorem Tidy.steps (htidy : traffic.Tidy name capacity) (hsteps : Steps traffic next) :
    next.Tidy name capacity :=
  hsteps.preserve (fun _ _ htidy hstep => htidy.step hstep) htidy

/-! ## Traffic that differs in what was refused -/

/-- Who has read the clock and not claimed its key yet has read it since a time. -/
def ReadSince (now : Nat) (offers : List (Offer ρ)) : Prop :=
  ∀ offer ∈ offers, offer.stage = .looked → now ≤ offer.now

section

variable {now : Nat} {offers front back : List (Offer ρ)} {offer after : Offer ρ}

theorem ReadSince.remove (hread : ReadSince now offers)
    (hoffers : offers = front ++ offer :: back) : ReadSince now (front ++ back) := by
  intro other hother
  apply hread other
  rw [hoffers]
  exact (List.sublist_cons_self offer back).append_left front |>.subset hother

theorem ReadSince.replace (hread : ReadSince now offers)
    (hoffers : offers = front ++ offer :: back) (hafter : after.stage = .looked → now ≤ after.now) :
    ReadSince now (front ++ after :: back) := by
  intro other hother
  rcases List.mem_append.mp hother with hfront | hrest
  · exact hread.remove hoffers other (List.mem_append_left _ hfront)
  · rcases List.mem_cons.mp hrest with rfl | hback
    · exact hafter
    · exact hread.remove hoffers other (List.mem_append_right _ hback)

theorem ReadSince.proceed (hread : ReadSince now offers)
    (hoffers : offers = front ++ offer :: back) (hafter : after.stage ≠ .looked) :
    ReadSince now (front ++ after :: back) :=
  hread.replace hoffers (absurd · hafter)

/-- An offer that has read the clock has done so since. -/
theorem ReadSince.looked (hread : ReadSince now offers) {call : QueuedCall ρ} {time : Nat}
    (hoffers : offers = front ++ ⟨call, time, .looked⟩ :: back) : now ≤ time :=
  hread ⟨call, time, .looked⟩ (hoffers ▸ List.mem_append_right _ List.mem_cons_self) rfl

end

/-- The same has happened since two pasts, and all that differs is a number of duplicates and
keys that expired before a time which nobody reads from the clock any more. -/
structure Alike (past : QueueHistory ρ × QueueHistory ρ) (now : Nat) (extra : Int)
    (left right : Traffic ρ) : Prop where
  same : left = { right with
    queue := right.queue.altered left.queue.keys left.queue.stats.deduplicated
    history := left.history }
  history : ∃ newer, left.history = newer ++ past.1 ∧ right.history = newer ++ past.2
  tickets : left.history.tickets = right.history.tickets
  deduplicated : (left.queue.stats.deduplicated : Int) = right.queue.stats.deduplicated + extra
  keys : left.queue.keys.Agree right.queue.keys now
  clock : now ≤ right.clock
  read : ReadSince now right.offers

variable {past : QueueHistory ρ × QueueHistory ρ} {now : Nat} {extra : Int}

/-- What is alike is so either way round. -/
theorem Alike.symm (halike : left.Alike past now extra right) :
    right.Alike past.swap now (-extra) left where
  same := by
    rw [halike.same]
    rfl
  history := by
    obtain ⟨newer, hleft, hright⟩ := halike.history
    exact ⟨newer, hright, hleft⟩
  tickets := halike.tickets.symm
  deduplicated := by
    have hcount := halike.deduplicated
    omega
  keys := halike.keys.symm
  clock := by
    rw [halike.same]
    exact halike.clock
  read := by
    rw [halike.same]
    exact halike.read

/-- What can happen next can happen in either. -/
theorem Alike.step (halike : left.Alike past now extra right) (hstep : right.Step next) :
    ∃ other, left.Step other ∧ other.Alike past now extra next := by
  obtain ⟨hsame, hhistory, htickets, hcount, hkeys, hclock, hread⟩ := halike
  generalize left.queue.keys = keys at hsame hkeys
  generalize left.queue.stats.deduplicated = deduplicated at hsame hcount
  generalize left.history = history at hsame hhistory htickets
  subst hsame
  have hevent (event : QueueEvent ρ) : ∃ newer, event :: history = newer ++ past.1 ∧
      event :: right.history = newer ++ past.2 := by
    obtain ⟨newer, hleft, hright⟩ := hhistory
    exact ⟨event :: newer, congrArg (event :: ·) hleft, congrArg (event :: ·) hright⟩
  cases hstep with
  | turnAway hlate hclosed =>
      exact ⟨_, .turnAway hlate hclosed, rfl, hevent _, htickets, hcount, hkeys,
        Nat.le_trans hclock hlate, hread⟩
  | enter hopen =>
      refine ⟨_, .enter hopen, rfl, hhistory, htickets, hcount, hkeys, hclock, ?_⟩
      exact List.forall_mem_append.mpr ⟨hread, List.forall_mem_singleton.mpr (by simp)⟩
  | look hoffers hlate =>
      exact ⟨_, .look hoffers hlate, rfl, hhistory, htickets, hcount, hkeys,
        Nat.le_trans hclock hlate, hread.replace hoffers fun _ => Nat.le_trans hclock hlate⟩
  | claim hoffers hclaim =>
      obtain ⟨after, hother, hagree, hstats⟩ :=
        TimedQueue.claimKey_altered hclaim hkeys (hread.looked hoffers) deduplicated
      rw [← hstats] at hcount
      exact ⟨_, .claim hoffers hother, rfl, hhistory, htickets, hcount, hagree, hclock,
        hread.proceed hoffers (by simp)⟩
  | bar hoffers hclaim =>
      obtain ⟨after, hother, hagree, hstats⟩ :=
        TimedQueue.claimKey_altered hclaim hkeys (hread.looked hoffers) deduplicated
      rw [← hstats] at hcount
      exact ⟨_, .bar hoffers hother, rfl, hhistory, htickets, hcount, hagree, hclock,
        hread.proceed hoffers (by simp)⟩
  | crash hoffers hclaim =>
      obtain ⟨after, hother, hagree, hstats⟩ :=
        TimedQueue.claimKey_altered hclaim hkeys (hread.looked hoffers) deduplicated
      rw [← hstats] at hcount
      exact ⟨_, .crash hoffers hother, rfl, hhistory, htickets, hcount, hagree, hclock,
        hread.remove hoffers⟩
  | countDuplicate hoffers =>
      refine ⟨_, .countDuplicate hoffers, rfl, hevent _, htickets, ?_, hkeys, hclock,
        hread.remove hoffers⟩
      simp only [TimedQueue.countDuplicate, TimedQueue.altered]
      omega
  | announce hoffers =>
      exact ⟨_, .announce hoffers, rfl, hhistory, htickets, hcount, hkeys, hclock,
        hread.proceed hoffers (by simp)⟩
  | send hoffers hsent =>
      have hbefore := TimedQueue.sent_of_send hsent
      obtain ⟨hother, hsamekeys, hstats⟩ := hbefore.altered keys deduplicated
      refine ⟨_, .send hoffers hother.send_eq, ?_, ?_, ?_, ?_, ?_, hclock,
        hread.proceed hoffers (by simp)⟩
      · simp [htickets, TimedQueue.altered]
      · simp only [htickets]
        exact hevent _
      · simp [htickets]
      · simpa [TimedQueue.altered, hstats] using hcount
      · simpa [TimedQueue.altered, hsamekeys] using hkeys
  | bounce hoffers hsent =>
      have hbefore := TimedQueue.sent_of_send hsent
      obtain ⟨hother, hsamekeys, hstats⟩ := hbefore.altered keys deduplicated
      rw [← hstats] at hcount
      rw [← hsamekeys] at hkeys
      exact ⟨_, .bounce hoffers hother.send_eq, rfl, hhistory, htickets, hcount, hkeys, hclock,
        hread.proceed hoffers (by simp)⟩
  | countAccepted hoffers =>
      exact ⟨_, .countAccepted hoffers, rfl, hhistory, htickets, hcount, hkeys, hclock,
        hread.remove hoffers⟩
  | withdraw hoffers =>
      exact ⟨_, .withdraw hoffers, rfl, hhistory, htickets, hcount, hkeys, hclock,
        hread.proceed hoffers (by simp)⟩
  | release hoffers =>
      exact ⟨_, .release hoffers, rfl, hevent _, htickets, hcount, hkeys.released _, hclock,
        hread.remove hoffers⟩
  | read hunread hfront =>
      refine ⟨_, .read hunread hfront, ?_⟩
      rw [Workload.reading_eq hfront, Workload.reading_eq hfront]
      exact ⟨rfl, hhistory, htickets, hcount, hkeys, hclock, hread⟩
  | begin hwaiting hdue =>
      exact ⟨_, .begin hwaiting hdue, rfl, hhistory, htickets, hcount, hkeys, hclock, hread⟩
  | retry hrunning hretry =>
      refine ⟨_, .retry hrunning hretry, ?_⟩
      rw [TimedQueue.settle_of_retry hretry, TimedQueue.settle_of_retry hretry]
      exact ⟨rfl, hhistory, htickets, hcount, hkeys, hclock, hread⟩
  | @finish front back ticket attempted outcome how hrunning hends =>
      refine ⟨_, .finish hrunning hends, ?_, hevent _, htickets, ?_, hkeys, hclock, hread⟩
      · cases how <;> rfl
      · cases how <;> exact hcount
  | abandon hclosed hwaiting =>
      exact ⟨_, .abandon hclosed hwaiting, rfl, hevent _, htickets, hcount, hkeys, hclock, hread⟩
  | finishKey hending =>
      exact ⟨_, .finishKey hending, rfl, hhistory, htickets, hcount, hkeys.finished _, hclock,
        hread⟩
  | lower hleaving =>
      exact ⟨_, .lower hleaving, rfl, hhistory, htickets, hcount, hkeys, hclock, hread⟩
  | close => exact ⟨_, .close, rfl, hhistory, htickets, hcount, hkeys, hclock, hread⟩
  | hangUp hclosed =>
      exact ⟨_, .hangUp hclosed, rfl, hhistory, htickets, hcount, hkeys, hclock, hread⟩
  | lose hhung => exact ⟨_, .lose hhung, rfl, hhistory, htickets, hcount, hkeys, hclock, hread⟩
  | pass => exact ⟨_, .pass, rfl, hhistory, htickets, hcount, hkeys, hclock, hread⟩

/-- What can happen in the course of time can happen in either. -/
theorem Alike.steps (halike : left.Alike past now extra right) (hsteps : Steps right next) :
    ∃ other, Steps left other ∧ other.Alike past now extra next := by
  induction hsteps with
  | refl => exact ⟨left, .refl, halike⟩
  | tail _ hlast ih =>
      obtain ⟨middle, hbefore, hmiddle⟩ := ih
      obtain ⟨other, hstep, hother⟩ := hmiddle.step hlast
      exact ⟨other, .tail hbefore hstep, hother⟩

/-- Every run from one has a counterpart from the other in which the same happens. -/
structure Parallel (past : QueueHistory ρ × QueueHistory ρ) (now : Nat) (extra : Int)
    (left right : Traffic ρ) : Prop where
  forth : ∀ reached, Steps left reached →
    ∃ other, Steps right other ∧ reached.Alike past now extra other
  back : ∀ other, Steps right other →
    ∃ reached, Steps left reached ∧ reached.Alike past now extra other

/-- What is alike goes on alike, in both directions. -/
theorem Alike.parallel (halike : left.Alike past now extra right) :
    left.Parallel past now extra right where
  forth := by
    intro reached hsteps
    obtain ⟨other, hother, hback⟩ := halike.symm.steps hsteps
    have hforth := hback.symm
    rw [Int.neg_neg, Prod.swap_swap] at hforth
    exact ⟨other, hother, hforth⟩
  back := fun _ => halike.steps

/-! ## Refusals -/

/-- An offer that nothing interrupts leaves the queue as it was, but for expired keys and a number
of duplicates.  Whatever comes later comes as if the call had not been offered, if nobody goes on
with an earlier time of the clock. -/
structure Spares (traffic : Traffic ρ) (now : Nat) (call : QueuedCall ρ) (extra : Nat) : Prop where
  rest : (traffic.queue.enqueue now call).1 =
    traffic.queue.altered (traffic.queue.enqueue now call).1.keys
      (traffic.queue.stats.deduplicated + extra)
  keys : ∀ later key, now ≤ later →
    ((traffic.queue.enqueue now call).1.keys.live later).get? key =
      (traffic.queue.keys.live later).get? key
  follows : ReadSince now traffic.offers →
    let offered := traffic.offering (traffic.queue.enqueue now call).1 now call
      (traffic.queue.enqueue now call).2
    offered.Parallel (offered.history, traffic.history) now extra { traffic with clock := now }

def counted : Option (Except QueueError Unit) → Nat
  | some (.error (.duplicate _)) => 1
  | _ => 0

/-- What an offer that is not accepted leads to, with the history it adds to. -/
theorem offering_of_ne_ok {queue : TimedQueue ρ} {now : Nat} {call : QueuedCall ρ}
    {answer : Option (Except QueueError Unit)} (hrefused : answer ≠ some (.ok ())) :
    ∃ history : QueueHistory ρ, history.tickets = traffic.history.tickets ∧
      traffic.offering queue now call answer = { traffic with queue, clock := now, history } := by
  cases answer with
  | none => exact ⟨traffic.history, rfl, rfl⟩
  | some answer =>
      cases answer with
      | ok done => exact absurd rfl hrefused
      | error error => exact ⟨.refused call now error :: traffic.history, rfl, rfl⟩

/-- An offer that is not accepted spares the queue. -/
theorem spares_of_ne_ok (hdistinct : traffic.queue.keys.keys.Nodup) {now : Nat}
    {call : QueuedCall ρ} (hrefused : (traffic.queue.enqueue now call).2 ≠ some (.ok ())) :
    traffic.Spares now call (counted (traffic.queue.enqueue now call).2) := by
  have hoffered := traffic.queue.offered_enqueue now call
  obtain ⟨history, htickets, hoffering⟩ := @offering_of_ne_ok ρ traffic
    (traffic.queue.enqueue now call).1 now call _ hrefused
  have hrest : (traffic.queue.enqueue now call).1 =
      traffic.queue.altered (traffic.queue.enqueue now call).1.keys
        (traffic.queue.stats.deduplicated + counted (traffic.queue.enqueue now call).2) := by
    generalize (traffic.queue.enqueue now call).1 = after,
      (traffic.queue.enqueue now call).2 = answer at hoffered hrefused
    cases hoffered with
    | closed | duplicate | overflow => rfl
    | @bounced error => cases error <;> rfl
    | accepted => exact absurd rfl hrefused
  have hagree : (traffic.queue.enqueue now call).1.keys.Agree traffic.queue.keys now := by
    generalize (traffic.queue.enqueue now call).1 = after,
      (traffic.queue.enqueue now call).2 = answer at hoffered hrefused
    cases hoffered with
    | closed hclosed => exact .refl hdistinct
    | duplicate hopen hkey htaken => exact .purged hdistinct
    | overflow hopen hkey hfree hbeyond => exact .purged hdistinct
    | bounced hopen hfree hexpires hbounces => exact .givenBack hdistinct hfree
    | accepted => exact absurd rfl hrefused
  refine ⟨hrest, hagree.live, fun hread => ?_⟩
  rw [hoffering]
  generalize (traffic.queue.enqueue now call).1 = after at hrest hagree
  refine Alike.parallel ⟨?_, ⟨[], rfl, rfl⟩, htickets, ?_, hagree, Nat.le_refl now, hread⟩
  · rw [hrest]
    rfl
  · rw [hrest]
    rfl

/-- How the accesses of an offer come out, whatever else is under way. -/
structure Decides (traffic : Traffic ρ) (capacity now : Nat) (call : QueuedCall ρ) : Prop where
  taken : ∀ key, (traffic.queue.claimKey now call.options).2 = .taken key ↔
    call.options.uniqueKey = some key ∧ traffic.queue.keys.Blocks now call.options
  overflow : (traffic.queue.claimKey now call.options).2 = .overflow ↔
    ¬ traffic.queue.keys.Blocks now call.options ∧ ¬ call.options.Expires now
  granted : (traffic.queue.claimKey now call.options).2 = .granted ↔
    ¬ traffic.queue.keys.Blocks now call.options ∧ call.options.Expires now
  hungUp : (traffic.queue.send call).2 = .error .closed ↔ traffic.queue.hungUp = true
  full : (traffic.queue.send call).2 = .error .full ↔
    traffic.queue.hungUp = false ∧ traffic.unread.length = Nat.max capacity 1
  sent : (traffic.queue.send call).2 = .ok () ↔
    traffic.queue.hungUp = false ∧ traffic.unread.length < Nat.max capacity 1
  closed : traffic.queue.hungUp = true → traffic.queue.closed = true

/-- What an offer is answered that nothing interrupts. -/
structure Answers (traffic : Traffic ρ) (name : String) (capacity now : Nat)
    (call : QueuedCall ρ) : Prop where
  crashed : (traffic.queue.enqueue now call).2 = none ↔
    traffic.queue.closed = false ∧ ¬ traffic.queue.keys.Blocks now call.options ∧
      ¬ call.options.Expires now
  closed : (traffic.queue.enqueue now call).2 = some (.error (.closed name)) ↔
    traffic.queue.closed = true
  duplicate : ∀ key, (traffic.queue.enqueue now call).2 = some (.error (.duplicate key)) ↔
    traffic.queue.closed = false ∧ call.options.uniqueKey = some key ∧
      traffic.queue.keys.Blocks now call.options
  full : (traffic.queue.enqueue now call).2 = some (.error (.full name)) ↔
    traffic.queue.closed = false ∧ ¬ traffic.queue.keys.Blocks now call.options ∧
      call.options.Expires now ∧ traffic.unread.length = Nat.max capacity 1
  accepted : (traffic.queue.enqueue now call).2 = some (.ok ()) ↔
    traffic.queue.closed = false ∧ ¬ traffic.queue.keys.Blocks now call.options ∧
      call.options.Expires now ∧ traffic.unread.length < Nat.max capacity 1

/-- In every state that accesses lead to, however they come between each other and whether the
queue is cancelled or not, what the queue is like decides how the accesses of an offer come out.
An offer that nothing interrupts is a run of these.  It is answered that the queue is closed just
if it is, else that the key is taken just if the key has an entry that has not expired, and else
the caller panics just if the clock cannot tell when the key would expire; else it is answered that
the queue is full just if as many accepted calls are unread as there is room for, and accepted
otherwise.  An offer that is not accepted leaves no trace but its count as a duplicate. -/
theorem refusals_leave_no_trace {name : String} {capacity : Nat}
    (hsteps : Steps (Workload.start name capacity).alone traffic) (now : Nat)
    (call : QueuedCall ρ) :
    traffic.Decides capacity now call ∧ traffic.Answers name capacity now call ∧
      (traffic.clock ≤ now → Steps traffic
        (traffic.offering (traffic.queue.enqueue now call).1 now call
          (traffic.queue.enqueue now call).2)) ∧
      ((traffic.queue.enqueue now call).2 ≠ some (.ok ()) →
        traffic.Spares now call (counted (traffic.queue.enqueue now call).2)) := by
  have htidy := (tidy_start name capacity).steps hsteps
  have hlength : traffic.queue.unread.length = traffic.unread.length := by
    rw [htidy.unread, List.length_map]
  have hfits : traffic.queue.unread.length ≤ traffic.queue.room := by
    rw [hlength, htidy.room]
    exact htidy.fits
  refine ⟨?decides, ?answers, fun hclock => steps_offering hclock call,
    spares_of_ne_ok htidy.distinct⟩
  case decides =>
    obtain ⟨htaken, hoverflow, hgranted⟩ :=
      (traffic.queue.claimed_claimKey now call.options).claim_iff htidy.distinct
    obtain ⟨hhung, hfull, hsent⟩ := (traffic.queue.sent_send call).answer_iff hfits
    rw [hlength, htidy.room] at hfull hsent
    exact ⟨htaken, hoverflow, hgranted, hhung, hfull, hsent, htidy.hung⟩
  case answers =>
    obtain ⟨hcrashed, hclosed, hduplicate, hfull, haccepted⟩ :=
      (traffic.queue.offered_enqueue now call).answer_iff htidy.distinct hfits htidy.hung
    rw [htidy.name] at hclosed hfull
    rw [hlength, htidy.room] at hfull haccepted
    exact ⟨hcrashed, hclosed, hduplicate, hfull, haccepted⟩

namespace Sample

/-- A call whose key is taken for the time that is told, or until the call is over. -/
def report (ttl : Option Duration) : QueuedCall Unit :=
  Workload.Sample.call () (some "report") ttl

/-- The queue has room for one call and has taken one with the same key. -/
def filled : Traffic Unit :=
  started.offering (started.queue.enqueue 0 (report none)).1 0 (report none) (some (.ok ()))

theorem steps_filled : Steps started filled := steps_offering (Nat.le_refl 0) (report none)

end Sample

/-- A full queue refuses a call of another key, which may be offered again at once. -/
theorem refusals_leave_no_trace_of_sample :
    let mail := Workload.Sample.call () (some "mail") none
    Steps Sample.started Sample.filled ∧
      (Sample.filled.queue.enqueue 5 mail).2 = some (.error (.full "jobs")) ∧
      Sample.filled.Spares 5 mail 0 := by
  intro mail
  obtain ⟨-, hanswers, -, hspares⟩ := refusals_leave_no_trace Sample.steps_filled 5 mail
  have hfull : (Sample.filled.queue.enqueue 5 mail).2 = some (.error (.full "jobs")) := rfl
  have hspared := hspares (by rw [hfull]; nofun)
  rw [hfull] at hspared
  exact ⟨Sample.steps_filled, hfull, hspared⟩

namespace Sample

/-- A call has taken the key for no time at all, and has come no further. -/
def claimed : Traffic Unit :=
  { started with
    queue := { started.queue with keys := [("report", some 0)] }
    offers := [⟨report (some .zero), 0, .claimed⟩] }

def overtaken : Traffic Unit :=
  claimed.offering (claimed.queue.enqueue 0 (report none)).1 0 (report none) (some (.ok ()))

def withdrawn : Traffic Unit :=
  { overtaken with offers := [⟨report (some .zero), 0, .withdrawn .full⟩] }

theorem steps_withdrawn : Steps started withdrawn := by
  have hlooked : started.queue.closed = false := rfl
  have hclaim : started.queue.claimKey 0 (report (some .zero)).options =
    (claimed.queue, .granted) := rfl
  have hclaimed : Steps started claimed :=
    .tail (steps_looked hlooked (Nat.le_refl 0) (report (some .zero)))
      (@Step.claim Unit _ [] [] _ _ _ rfl hclaim)
  have hovertaken : Steps claimed overtaken := steps_offering (Nat.le_refl 0) (report none)
  have hannounce : overtaken.offers = [] ++ ⟨report (some .zero), 0, .claimed⟩ :: [] := rfl
  have hbounce : overtaken.queue.raisePending.send (report (some .zero)) =
    (overtaken.queue.raisePending, .error .full) := rfl
  have hwithdrawn : Steps overtaken withdrawn :=
    .tail (.tail (.single (.announce hannounce)) (@Step.bounce Unit _ [] [] _ _ _ _ rfl hbounce))
      (@Step.withdraw Unit _ [] [] _ _ _ rfl)
  exact (hclaimed.trans hovertaken).trans hwithdrawn

end Sample

/-- A caller panics whose key would expire beyond all time, though the queue is open and has room
and nobody has the key.  And an offer that is refused for want of room gives back the key of a call
that was accepted in between. -/
theorem enqueue_panics_and_refusal_frees_key :
    (Sample.started.queue.closed = false ∧ Sample.started.queue.keys = [] ∧
        Sample.started.unread = [] ∧
        (Sample.started.queue.enqueue 0 (Sample.report (some .longest))).2 = none) ∧
      Steps Sample.started Sample.withdrawn ∧ Sample.withdrawn.queue.keys = [("report", none)] ∧
      ∃ after, Sample.withdrawn.Step after ∧ after.queue.keys = [] ∧
        after.unread = [(0, Sample.report none)] ∧
        after.history = .refused (Sample.report (some .zero)) 0 (.full "jobs") ::
          Sample.withdrawn.history :=
  have hlast : Sample.withdrawn.offers =
      [] ++ ⟨Sample.report (some .zero), 0, .withdrawn .full⟩ :: [] := rfl
  ⟨⟨rfl, rfl, rfl, rfl⟩, Sample.steps_withdrawn, rfl, _, .release hlast, rfl, rfl, rfl⟩

end Traffic
end Plugboard
