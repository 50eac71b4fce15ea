import Plugboard.Proofs.Data.Table
import Plugboard.Proofs.Queue.Tickets

/-!
# Unique keys of a queue

A queue keeps one entry for each key that is taken, without its owner.  Here the entries are
shown to be told by the history: an entry with a time stands for the call that was accepted
with it, and an entry without one for the latest call that was, until a call with the key ends.
-/

namespace Plugboard

variable {ρ : Type}

/-! ## Keys in a history -/

namespace QueueEvent

variable {key : String} {event : QueueEvent ρ}

/-- A call without a time to live is accepted with the key. -/
def Takes (key : String) (event : QueueEvent ρ) : Prop :=
  ∃ ticket call time, event = .accepted ticket call time ∧
    call.options.uniqueKey = some key ∧ call.options.uniqueTtl = none

/-- A call with the key ends. -/
def Drops (key : String) (event : QueueEvent ρ) : Prop :=
  ∃ ticket call how, event = .ended ticket call how ∧ call.options.uniqueKey = some key

variable {ticket time : Nat} {call : QueuedCall ρ} {error : QueueError} {how : CallEnd}

@[simp]
theorem takes_accepted :
    (accepted ticket call time).Takes key ↔
      call.options.uniqueKey = some key ∧ call.options.uniqueTtl = none := by
  constructor
  · rintro ⟨_, _, _, ⟨⟩, hcall⟩
    exact hcall
  · intro hcall
    exact ⟨_, _, _, rfl, hcall⟩

@[simp]
theorem not_takes_refused : ¬ (refused call time error).Takes key := by
  rintro ⟨_, _, _, ⟨⟩, _⟩

@[simp]
theorem not_takes_ended : ¬ (ended ticket call how).Takes key := by
  rintro ⟨_, _, _, ⟨⟩, _⟩

@[simp]
theorem not_drops_accepted : ¬ (accepted ticket call time).Drops key := by
  rintro ⟨_, _, _, ⟨⟩, _⟩

@[simp]
theorem not_drops_refused : ¬ (refused call time error).Drops key := by
  rintro ⟨_, _, _, ⟨⟩, _⟩

@[simp]
theorem drops_ended :
    (ended ticket call how).Drops key ↔ call.options.uniqueKey = some key := by
  constructor
  · rintro ⟨_, _, _, ⟨⟩, hcall⟩
    exact hcall
  · intro hcall
    exact ⟨_, _, _, rfl, hcall⟩

end QueueEvent

namespace QueueHistory

/-- A call was accepted with the key and a time to live that is over at a time. -/
def HeldUntil (history : QueueHistory ρ) (key : String) (expiry : Nat) : Prop :=
  ∃ ticket call time ttl, .accepted ticket call time ∈ history ∧
    call.options.uniqueKey = some key ∧ call.options.uniqueTtl = some ttl ∧
      expiry = time + ttl.nanoseconds

/-- A call without a time to live was accepted with the key, and no call with it has ended
since. -/
def HeldOpen (history : QueueHistory ρ) (key : String) : Prop :=
  ∃ newer event older, history = newer ++ event :: older ∧ event.Takes key ∧
    ∀ later ∈ newer, ¬ later.Drops key

/-- The key is taken, as the queue sees it. -/
def Held (history : QueueHistory ρ) (now : Nat) (key : String) : Prop :=
  history.HeldOpen key ∨ ∃ expiry, history.HeldUntil key expiry ∧ now < expiry

variable {history : QueueHistory ρ} {key : String} {event : QueueEvent ρ}

/-- A key is held open if the event takes it, or if it was and the event does not drop it. -/
theorem heldOpen_cons :
    HeldOpen (event :: history) key ↔
      event.Takes key ∨ ¬ event.Drops key ∧ history.HeldOpen key := by
  constructor
  · rintro ⟨newer, taking, older, hsplit, htakes, hkept⟩
    rcases List.cons_eq_append_iff.mp hsplit with ⟨-, hsame⟩ | ⟨between, rfl, hrest⟩
    · obtain ⟨rfl, -⟩ := List.cons.inj hsame
      exact .inl htakes
    · refine .inr ⟨hkept event List.mem_cons_self, between, taking, older, hrest, htakes, ?_⟩
      exact fun later hlater => hkept later (List.mem_cons_of_mem _ hlater)
  · rintro (htakes | ⟨hkeeps, newer, taking, older, hsplit, htakes, hkept⟩)
    · exact ⟨[], event, history, rfl, htakes, by simp⟩
    · refine ⟨event :: newer, taking, older, by rw [hsplit]; rfl, htakes, ?_⟩
      intro later hlater
      rcases List.mem_cons.mp hlater with rfl | hlater
      · exact hkeeps
      · exact hkept later hlater

theorem heldUntil_cons {expiry : Nat}
    (hother : ∀ ticket call time, event ≠ .accepted ticket call time) :
    HeldUntil (event :: history) key expiry ↔ history.HeldUntil key expiry := by
  constructor
  · rintro ⟨ticket, call, time, ttl, haccepted, hcall⟩
    rcases List.mem_cons.mp haccepted with hsame | holder
    · exact absurd hsame.symm (hother ticket call time)
    · exact ⟨ticket, call, time, ttl, holder, hcall⟩
  · rintro ⟨ticket, call, time, ttl, haccepted, hcall⟩
    exact ⟨ticket, call, time, ttl, List.mem_cons_of_mem _ haccepted, hcall⟩

theorem heldUntil_accepted {ticket time expiry : Nat} {call : QueuedCall ρ} :
    HeldUntil (.accepted ticket call time :: history) key expiry ↔
      call.options.uniqueKey = some key ∧
          call.options.uniqueTtl.map (fun ttl => time + ttl.nanoseconds) = some expiry ∨
        history.HeldUntil key expiry := by
  constructor
  · rintro ⟨ticket, other, time, ttl, haccepted, hkey, httl, rfl⟩
    rcases List.mem_cons.mp haccepted with hsame | holder
    · cases hsame
      exact .inl ⟨hkey, by rw [httl]; rfl⟩
    · exact .inr ⟨ticket, other, time, ttl, holder, hkey, httl, rfl⟩
  · rintro (⟨hkey, hexpiry⟩ | ⟨ticket, other, time, ttl, haccepted, hcall⟩)
    · obtain ⟨ttl, httl, rfl⟩ := Option.map_eq_some_iff.mp hexpiry
      exact ⟨ticket, call, time, ttl, List.mem_cons_self, hkey, httl, rfl⟩
    · exact ⟨ticket, other, time, ttl, List.mem_cons_of_mem _ haccepted, hcall⟩

theorem heldOpen_accepted {ticket time : Nat} {call : QueuedCall ρ} :
    HeldOpen (.accepted ticket call time :: history) key ↔
      call.options.uniqueKey = some key ∧ call.options.uniqueTtl = none ∨ history.HeldOpen key := by
  simp [heldOpen_cons]

theorem heldOpen_refused {time : Nat} {call : QueuedCall ρ} {error : QueueError} :
    HeldOpen (.refused call time error :: history) key ↔ history.HeldOpen key := by
  simp [heldOpen_cons]

theorem heldOpen_ended {ticket : Nat} {call : QueuedCall ρ} {how : CallEnd} :
    HeldOpen (.ended ticket call how :: history) key ↔
      call.options.uniqueKey ≠ some key ∧ history.HeldOpen key := by
  simp [heldOpen_cons]

end QueueHistory

/-! ## Keys of the queue -/

namespace UniqueKeys

variable {keys : UniqueKeys} {history : QueueHistory ρ} {clock now : Nat}

/-- Of the entries only those are live that have not expired. -/
theorem get?_live (hdistinct : keys.keys.Nodup) (key : String) :
    (keys.live now).get? key = (keys.get? key).filter (isLive now) :=
  Table.get?_filter hdistinct _ key

/-- The keys are those that the history holds; those whose time was over before the clock may
be there or not. -/
structure Tell (keys : UniqueKeys) (history : QueueHistory ρ) (clock : Nat) : Prop where
  distinct : keys.keys.Nodup
  held : ∀ key, keys.get? key = some none ↔ history.HeldOpen key
  expires : ∀ key expiry, keys.get? key = some (some expiry) → history.HeldUntil key expiry
  lasts : ∀ key expiry, history.HeldUntil key expiry → clock < expiry →
    keys.get? key = some (some expiry)

namespace Tell

/-- A key is live when it is held. -/
theorem has_live (htell : keys.Tell history clock) (hclock : clock ≤ now) (key : String) :
    (keys.live now).has key = true ↔ history.Held now key := by
  rw [Table.has, get?_live htell.distinct, QueueHistory.Held, ← htell.held]
  cases hget : keys.get? key with
  | none =>
      have hnever : ∀ expiry, history.HeldUntil key expiry → ¬ now < expiry := by
        intro expiry huntil hlive
        rw [htell.lasts key expiry huntil (Nat.lt_of_le_of_lt hclock hlive)] at hget
        cases hget
      simpa using hnever
  | some entry =>
      cases entry with
      | none => simp [Option.filter, isLive]
      | some time =>
          have huntil := htell.expires key time hget
          have honly : ∀ expiry, history.HeldUntil key expiry → now < expiry → time = expiry := by
            intro expiry hother hlive
            have hsame := htell.lasts key expiry hother (Nat.lt_of_le_of_lt hclock hlive)
            rw [hget] at hsame
            simpa using hsame
          have hlive : (∃ expiry, history.HeldUntil key expiry ∧ now < expiry) ↔ now < time := by
            constructor
            · rintro ⟨expiry, hother, hlater⟩
              rwa [honly expiry hother hlater]
            · exact fun hlater => ⟨time, huntil, hlater⟩
          rw [hlive]
          by_cases hlater : now < time <;> simp [Option.filter, isLive, hlater]

theorem later (htell : keys.Tell history clock) (hclock : clock ≤ now) : keys.Tell history now where
  distinct := htell.distinct
  held := htell.held
  expires := htell.expires
  lasts := fun key expiry huntil hlive =>
    htell.lasts key expiry huntil (Nat.lt_of_le_of_lt hclock hlive)

theorem live (htell : keys.Tell history clock) (hclock : clock ≤ now) :
    (keys.live now).Tell history now where
  distinct := htell.distinct.sublist (List.Sublist.map Prod.fst List.filter_sublist)
  held := by
    intro key
    rw [get?_live htell.distinct, ← htell.held, Option.filter_eq_some_iff]
    simp [isLive]
  expires := by
    intro key expiry hget
    rw [get?_live htell.distinct, Option.filter_eq_some_iff] at hget
    exact htell.expires key expiry hget.1
  lasts := by
    intro key expiry huntil hlive
    have hget := htell.lasts key expiry huntil (Nat.lt_of_le_of_lt hclock hlive)
    rw [get?_live htell.distinct, Option.filter_eq_some_iff]
    exact ⟨hget, by simpa [isLive] using hlive⟩

theorem refused (htell : keys.Tell history clock) {call : QueuedCall ρ} {time : Nat}
    {error : QueueError} : keys.Tell (.refused call time error :: history) clock where
  distinct := htell.distinct
  held := by simpa [QueueHistory.heldOpen_refused] using htell.held
  expires := by simpa [QueueHistory.heldUntil_cons] using htell.expires
  lasts := by simpa [QueueHistory.heldUntil_cons] using htell.lasts

/-- Nothing holds the key of a call that finds it free. -/
theorem not_held (htell : keys.Tell history clock) (hclock : clock ≤ now) {options : QueueOptions}
    (hfree : keys.Free now options) {key : String} (hkey : options.uniqueKey = some key) :
    ¬ history.Held now key := by
  rw [← htell.has_live hclock, hfree key hkey]
  exact Bool.false_ne_true

/-- A call that takes its key is what the history holds then. -/
theorem taken (htell : keys.Tell history clock) (hclock : clock ≤ now) {call : QueuedCall ρ}
    (hfree : keys.Free now call.options) (ticket : Nat) :
    (keys.taken now call.options).Tell (.accepted ticket call now :: history) now := by
  rw [UniqueKeys.taken]
  cases hkey : call.options.uniqueKey with
  | none =>
      have hlater := htell.later hclock
      refine ⟨hlater.distinct, ?_, ?_, ?_⟩
      · simpa [QueueHistory.heldOpen_accepted, hkey] using hlater.held
      · simpa [QueueHistory.heldUntil_accepted, hkey] using hlater.expires
      · simpa [QueueHistory.heldUntil_accepted, hkey] using hlater.lasts
  | some own =>
      have hlive := htell.live hclock
      have hnobody := htell.not_held hclock hfree hkey
      -- what the call takes is told by its own event, every other key by the older ones
      refine ⟨Table.nodup_keys_set hlive.distinct .., fun key => ?_, fun key expiry => ?_,
        fun key expiry => ?_⟩
      · rw [Table.get?_set, QueueHistory.heldOpen_accepted, hkey]
        split
        · subst key
          simp [show ¬ history.HeldOpen own from fun hopen => hnobody (.inl hopen)]
        · rw [hlive.held]
          simp [Ne.symm ‹_›]
      · rw [Table.get?_set, QueueHistory.heldUntil_accepted, hkey]
        split
        · subst key
          intro hexpiry
          exact .inl ⟨rfl, by simpa using hexpiry⟩
        · exact fun hfound => .inr (hlive.expires key expiry hfound)
      · rw [Table.get?_set, QueueHistory.heldUntil_accepted, hkey]
        rintro (⟨hsame, hexpiry⟩ | huntil) hlater
        · rw [if_pos (Option.some.inj hsame).symm, hexpiry]
        · split
          · subst key
            exact absurd (.inr ⟨expiry, huntil, hlater⟩) hnobody
          · exact hlive.lasts key expiry huntil hlater

/-- A call that gives its key back leaves the key to nobody, as it found it. -/
theorem givenBack (htell : keys.Tell history clock) (hclock : clock ≤ now) {options : QueueOptions}
    (hfree : keys.Free now options) :
    ((keys.taken now options).released options).Tell history now := by
  rw [UniqueKeys.taken, UniqueKeys.released]
  cases hkey : options.uniqueKey with
  | none => exact htell.later hclock
  | some own =>
      have hlive := htell.live hclock
      have hnobody := htell.not_held hclock hfree hkey
      have hget (key : String) : (release ((keys.live now).set own
          (options.uniqueTtl.map fun ttl => now + ttl.nanoseconds)) own).get? key =
            if key = own then none else (keys.live now).get? key :=
        Table.get?_remove_set ..
      refine ⟨Table.nodup_keys_remove (Table.nodup_keys_set hlive.distinct ..) _, fun key => ?_,
        fun key expiry => ?_, fun key expiry huntil hlater => ?_⟩
      · rw [hget]
        split
        · subst key
          simp [show ¬ history.HeldOpen own from fun hopen => hnobody (.inl hopen)]
        · exact hlive.held key
      · rw [hget]
        split
        · intro hfound
          cases hfound
        · exact hlive.expires key expiry
      · rw [hget]
        split
        · subst key
          exact absurd (.inr ⟨expiry, huntil, hlater⟩) hnobody
        · exact hlive.lasts key expiry huntil hlater

theorem get?_finish (keys : UniqueKeys) (own key : String) :
    (keys.finish own).get? key =
      if key = own ∧ keys.get? own = some none then none else keys.get? key := by
  rw [finish]
  split
  · rename_i hopen
    rw [Table.get?_remove]
    simp only [hopen, and_true]
  · rename_i hentry
    rw [if_neg fun hopen => hentry hopen.2]

/-- The end of a call removes an entry without a time, whoever took it. -/
theorem finished (htell : keys.Tell history clock) (ticket : Nat) (call : QueuedCall ρ)
    (how : CallEnd) :
    (keys.finished call.options).Tell (.ended ticket call how :: history) clock := by
  have huntil (key : String) (expiry : Nat) :
      QueueHistory.HeldUntil (.ended ticket call how :: history) key expiry ↔
        history.HeldUntil key expiry :=
    QueueHistory.heldUntil_cons fun _ _ _ hsame => by cases hsame
  rw [UniqueKeys.finished]
  cases hkey : call.options.uniqueKey with
  | none =>
      refine ⟨htell.distinct, fun key => ?_, fun key expiry => ?_, fun key expiry => ?_⟩
      · simpa [QueueHistory.heldOpen_ended, hkey] using htell.held key
      · simpa [huntil] using htell.expires key expiry
      · simpa [huntil] using htell.lasts key expiry
  | some own =>
      refine ⟨?_, fun key => ?_, fun key expiry => ?_, fun key expiry hheld hlater => ?_⟩
      · change (keys.finish own).keys.Nodup
        rw [finish]
        split
        · exact Table.nodup_keys_remove htell.distinct own
        · exact htell.distinct
      · rw [get?_finish, QueueHistory.heldOpen_ended, hkey, ← htell.held key]
        by_cases hown : key = own
        · subst key
          by_cases hopen : keys.get? own = some none <;> simp [hopen]
        · simp [hown, Ne.symm hown]
      · rw [get?_finish, huntil]
        split
        · intro hfound
          cases hfound
        · exact htell.expires key expiry
      · rw [huntil] at hheld
        have hfound := htell.lasts key expiry hheld hlater
        rw [get?_finish, if_neg, hfound]
        rintro ⟨rfl, hopen⟩
        rw [hfound] at hopen
        cases hopen

end Tell
end UniqueKeys

/-! ## Every run -/

namespace Workload

variable {workload next : Workload ρ}

/-- Every step keeps the keys and the history together. -/
theorem tell_step (htell : workload.queue.keys.Tell workload.history workload.clock)
    (hstep : workload.Step next) : next.queue.keys.Tell next.history next.clock := by
  cases hstep with
  | @accept now call queue hclock haccepted =>
      have hoffered := workload.queue.offered_enqueue now call
      rw [haccepted] at hoffered
      cases hoffered with
      | accepted hopen hfree hexpires hlistening hroom => exact htell.taken hclock hfree _
  | @refuse now call queue error hclock hrefused =>
      have hoffered := workload.queue.offered_enqueue now call
      rw [hrefused] at hoffered
      cases hoffered with
      | closed hclosed => exact (htell.later hclock).refused
      | duplicate hopen hkey htaken => exact (htell.live hclock).refused
      | bounced hopen hfree hexpires hbounces => exact (htell.givenBack hclock hfree).refused
  | @crash now call queue hclock hcrashed =>
      have hoffered := workload.queue.offered_enqueue now call
      rw [hcrashed] at hoffered
      cases hoffered with
      | overflow hopen hkey hfree hbeyond => exact htell.live hclock
  | @read front back hunread hfront =>
      have hread : (front.map Prod.snd).isEmpty = false := by simpa using hfront
      simpa [reading, TimedQueue.receive, hread] using htell
  | begin hwaiting hdue => exact htell
  | retry hrunning hretry =>
      rw [TimedQueue.settle_of_retry hretry]
      exact htell
  | finish hrunning hends =>
      rw [TimedQueue.settle_of_end hends]
      exact htell.finished ..
  | close hunread => exact htell
  | abandon hclosed hwaiting => exact htell.finished ..
  | pass => exact htell

theorem tell_start (name : String) (capacity : Nat) :
    let empty : Workload ρ := start name capacity
    empty.queue.keys.Tell empty.history empty.clock where
  distinct := List.nodup_nil
  held := by simp [start, TimedQueue.start, Table.get?, QueueHistory.HeldOpen]
  expires := by simp [start, TimedQueue.start, Table.get?]
  lasts := by simp [start, QueueHistory.HeldUntil]

theorem tell_steps {name : String} {capacity : Nat} (hsteps : Steps (start name capacity) workload) :
    workload.queue.keys.Tell workload.history workload.clock :=
  @Steps.preserve _ (fun reached => reached.queue.keys.Tell reached.history reached.clock) _ _ hsteps
    (fun _ _ htell hstep => tell_step htell hstep) (tell_start name capacity)

/-- An open queue answers that a call is a duplicate when its key is live. -/
theorem enqueue_eq_duplicate_iff {queue : TimedQueue ρ} (hopen : queue.closed = false)
    {call : QueuedCall ρ} {key : String} (hkey : call.options.uniqueKey = some key) {now : Nat} :
    (queue.enqueue now call).2 = some (.error (.duplicate key)) ↔
      (queue.keys.live now).has key = true := by
  have hoffered := queue.offered_enqueue now call
  generalize (queue.enqueue now call).1 = after at hoffered
  generalize (queue.enqueue now call).2 = outcome at hoffered
  cases hoffered with
  | closed hclosed =>
      rw [hopen] at hclosed
      cases hclosed
  | duplicate hopen hown htaken =>
      rw [hkey] at hown
      cases hown
      simp [htaken]
  | overflow hopen hown hfree hbeyond => simp [hfree key hkey]
  | @bounced error hopen hfree hexpires hbounces =>
      cases error <;> simp [hfree key hkey, SendError.refusal]
  | accepted hopen hfree hexpires hlistening hroom => simp [hfree key hkey]

end Workload
end Plugboard
