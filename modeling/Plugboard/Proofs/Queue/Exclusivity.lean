import Plugboard.Proofs.Queue.Keys

/-!
# Who holds a unique key

A call with a time to live holds its key until that time is over.  A call without one should
hold it until it ends itself, but the end of any call with the key gives the key free.  The two
differ when a call with a time to live outlasts that time, another takes its key, and the first
one ends before the second.
-/

namespace Plugboard

variable {ρ : Type}

namespace QueueHistory

/-- A call without a time to live was accepted with the key and has not ended itself. -/
def KeptInPlay (history : QueueHistory ρ) (key : String) : Prop :=
  ∃ newer ticket call time older, history = newer ++ .accepted ticket call time :: older ∧
    call.options.uniqueKey = some key ∧ call.options.uniqueTtl = none ∧
      ∀ other how, .ended ticket other how ∉ newer

/-- An accepted call keeps the key live: until its time to live is over or, without one, until
it ends. -/
def KeptLive (history : QueueHistory ρ) (now : Nat) (key : String) : Prop :=
  history.KeptInPlay key ∨ ∃ expiry, history.HeldUntil key expiry ∧ now < expiry

/-- No call with the key has ended while another without a time to live had it in play. -/
def Undisturbed (history : QueueHistory ρ) (key : String) : Prop :=
  ∀ newer ticket call time older, history = newer ++ .accepted ticket call time :: older →
    call.options.uniqueKey = some key → call.options.uniqueTtl = none →
      (∀ other how, .ended ticket other how ∉ newer) → ∀ later ∈ newer, ¬ later.Drops key

variable {history : QueueHistory ρ} {key : String}

/-- A ticket is given to one call. -/
theorem call_unique (hnodup : history.tickets.Nodup) {ticket first second : Nat}
    {call other : QueuedCall ρ} (hfirst : .accepted ticket call first ∈ history)
    (hsecond : .accepted ticket other second ∈ history) : call = other := by
  induction history with
  | nil => cases hfirst
  | cons event older ih =>
      have hgiven {given : QueuedCall ρ} {time : Nat}
          (haccepted : .accepted ticket given time ∈ older) : ticket ∈ tickets older :=
        List.mem_filterMap.mpr ⟨_, haccepted, rfl⟩
      rcases List.mem_cons.mp hfirst with rfl | hearlier
      · obtain ⟨hfresh, -⟩ := List.nodup_cons.mp hnodup
        rcases List.mem_cons.mp hsecond with hsame | holder
        · cases hsame
          rfl
        · exact absurd (hgiven holder) hfresh
      · rcases List.mem_cons.mp hsecond with rfl | holder
        · obtain ⟨hfresh, -⟩ := List.nodup_cons.mp hnodup
          exact absurd (hgiven hearlier) hfresh
        · have hrest : (tickets older).Nodup :=
            hnodup.sublist ((List.sublist_cons_self event older).filterMap _)
          exact ih hrest hearlier holder

/-- Where nobody disturbs it a key is held as long as its call is in play. -/
theorem heldOpen_of_keptInPlay (hundisturbed : history.Undisturbed key)
    (hkept : history.KeptInPlay key) : history.HeldOpen key := by
  obtain ⟨newer, ticket, call, time, older, hsplit, hkey, httl, hplay⟩ := hkept
  exact ⟨newer, _, older, hsplit, ⟨ticket, call, time, rfl, hkey, httl⟩,
    hundisturbed newer ticket call time older hsplit hkey httl hplay⟩

end QueueHistory

namespace Workload

variable {workload : Workload ρ} {key : String}

/-- Who holds a key is in play. -/
theorem keptInPlay_of_heldOpen (hbalanced : workload.Balanced) (htraced : workload.Traced)
    (hheld : workload.history.HeldOpen key) : workload.history.KeptInPlay key := by
  obtain ⟨newer, event, older, hsplit, ⟨ticket, call, time, rfl, hkey, httl⟩, hkept⟩ := hheld
  refine ⟨newer, ticket, call, time, older, hsplit, hkey, httl, fun other how hended => ?_⟩
  have hgone : .ended ticket other how ∈ workload.history := by
    rw [hsplit]
    exact List.mem_append_left _ hended
  have hown : .accepted ticket call time ∈ workload.history := by
    rw [hsplit]
    exact List.mem_append_right _ List.mem_cons_self
  obtain ⟨earlier, haccepted⟩ := htraced.ended ticket other how hgone
  have hsame := QueueHistory.call_unique hbalanced.placed.nodup_tickets hown haccepted
  exact hkept _ hended ⟨ticket, other, how, rfl, hsame ▸ hkey⟩

/-- An open queue refuses a call as a duplicate exactly when its key is held, and a key that is
held is kept live by a call.  Every key that is kept live is held as long as no call with it
ended while another had it in play. -/
theorem duplicate_iff_held {name : String} {capacity : Nat}
    (hsteps : Steps (start name capacity) workload) (hopen : workload.queue.closed = false)
    {now : Nat} (hclock : workload.clock ≤ now) {call : QueuedCall ρ}
    (hkey : call.options.uniqueKey = some key) :
    ((workload.queue.enqueue now call).2 = some (.error (.duplicate key)) ↔
        workload.history.Held now key) ∧
      (workload.history.Held now key → workload.history.KeptLive now key) ∧
      (workload.history.Undisturbed key → workload.history.KeptLive now key →
        workload.history.Held now key) := by
  have hbalanced := hsteps.balanced
  have htraced := (traced_start name capacity).steps hsteps
  refine ⟨?_, ?_, ?_⟩
  · rw [enqueue_eq_duplicate_iff hopen hkey]
    exact (tell_steps hsteps).has_live hclock key
  · rintro (hheld | huntil)
    · exact .inl (keptInPlay_of_heldOpen hbalanced htraced hheld)
    · exact .inr huntil
  · rintro hundisturbed (hkept | huntil)
    · exact .inl (QueueHistory.heldOpen_of_keptInPlay hundisturbed hkept)
    · exact .inr huntil

namespace Sample

def taken : Workload Unit :=
  let empty := start "jobs" 2
  let own := call () (some "report") none
  empty.accepting (empty.queue.enqueue 0 own).1 0 own

theorem steps_taken : Steps (start "jobs" 2) taken :=
  .single (.accept (Nat.le_refl 0) rfl)

end Sample

/-- A call with the same key is refused while the first one is in play. -/
theorem duplicate_iff_held_of_sample :
    Steps (start "jobs" 2) Sample.taken ∧ Sample.taken.queue.closed = false ∧
      Sample.taken.clock ≤ 5 ∧
      (Sample.taken.queue.enqueue 5 (Sample.call () (some "report") none)).2 =
        some (.error (.duplicate "report")) := by
  have hheld : Sample.taken.history.Held 5 "report" :=
    .inl ⟨[], _, [], rfl, ⟨_, _, _, rfl, rfl, rfl⟩, by simp⟩
  exact ⟨Sample.steps_taken, rfl, Nat.zero_le 5,
    (duplicate_iff_held Sample.steps_taken rfl (Nat.zero_le 5) rfl).1.mpr hheld⟩

namespace Sample

/-- A call whose time to live is a second is under way. -/
def slow : Waiting Unit :=
  ⟨call () (some "report") (some (.ofSeconds 1)), 0, 0, false⟩

def slowAccepted : Workload Unit :=
  let empty := start "jobs" 2
  empty.accepting (empty.queue.enqueue 0 slow.call).1 0 slow.call

def slowBegun : Workload Unit :=
  { (slowAccepted.reading slowAccepted.unread []).taking [] with running := [(0, slow)] }

/-- After two seconds another call takes the key, for as long as it is in play. -/
def overlapping : Workload Unit :=
  let own := call () (some "report") none
  slowBegun.accepting (slowBegun.queue.enqueue 2000000000 own).1 2000000000 own

def crossed : Workload Unit :=
  { overlapping with
    queue := overlapping.queue.settle slow (.value .null)
    running := []
    history := .ended 0 slow.call .completed :: overlapping.history }

theorem steps_crossed : Steps (start "jobs" 2) crossed := by
  have haccept : (start "jobs" 2).Step slowAccepted := .accept (Nat.le_refl 0) rfl
  have hread : slowAccepted.Step (slowAccepted.reading slowAccepted.unread []) :=
    .read (List.append_nil _).symm (by simp [slowAccepted, accepting])
  have hwaiting : (slowAccepted.reading slowAccepted.unread []).waiting =
      [] ++ (0, slow) :: [] := rfl
  have hbegin : (slowAccepted.reading slowAccepted.unread []).Step slowBegun :=
    .begin hwaiting (Nat.le_refl 0)
  have hoverlap : slowBegun.Step overlapping := .accept (Nat.zero_le _) rfl
  have hrunning : overlapping.running = [] ++ (0, slow) :: [] := rfl
  have hfinish : overlapping.Step crossed := .finish hrunning rfl
  exact .tail (.tail (.tail (.tail (.single haccept) hread) hbegin) hoverlap) hfinish

end Sample

/-- The end of a call frees the key that another has taken since and still has in play. -/
theorem end_frees_key_of_other :
    Steps (start "jobs" 2) Sample.crossed ∧ Sample.crossed.queue.closed = false ∧
      Sample.crossed.clock ≤ 2000000000 ∧
      Sample.crossed.history.KeptLive 2000000000 "report" ∧
      (Sample.crossed.queue.enqueue 2000000000 (Sample.call () (some "report") none)).2 =
        some (.ok ()) := by
  refine ⟨Sample.steps_crossed, rfl, Nat.le_refl _, .inl ?_, rfl⟩
  refine ⟨[.ended 0 Sample.slow.call .completed], 1, _, _, _, rfl, rfl, rfl, ?_⟩
  intro other how hended
  cases List.mem_singleton.mp hended

end Workload
end Plugboard
