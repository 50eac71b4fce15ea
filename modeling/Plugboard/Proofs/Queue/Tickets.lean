import Mathlib.Tactic.Tauto
import Plugboard.Proofs.Queue.Conservation

/-!
# Tickets of whole operations

Where nothing comes between the accesses of an operation, nothing is owed after it: the pending
calls are those in play.  A ticket stands for the call that was accepted with it, wherever the
call has come.
-/

namespace Plugboard

variable {ρ : Type}

namespace Workload

variable {workload next : Workload ρ}

/-- The queue holds the calls that are told of it. -/
structure Told (workload : Workload ρ) : Prop where
  unread : workload.queue.unread = workload.unread.map Prod.snd
  waiting : workload.queue.waiting = workload.waiting.map Prod.snd

/-- Every step keeps the lists of tickets beside those of the queue. -/
theorem Told.step (htold : workload.Told) (hstep : workload.Step next) : next.Told := by
  cases hstep with
  | @accept now call queue hclock haccepted =>
      have hoffered := workload.queue.offered_enqueue now call
      rw [haccepted] at hoffered
      cases hoffered with
      | accepted hopen hfree hexpires hlistening hroom =>
          exact ⟨by simp [accepting, htold.unread], htold.waiting⟩
  | @refuse now call queue error hclock hrefused =>
      have hoffered := workload.queue.offered_enqueue now call
      rw [hrefused] at hoffered
      cases hoffered with
      | closed hclosed => exact ⟨htold.unread, htold.waiting⟩
      | duplicate hopen hkey htaken => exact ⟨htold.unread, htold.waiting⟩
      | bounced hopen hfree hexpires hbounces => exact ⟨htold.unread, htold.waiting⟩
  | @crash now call queue hclock hcrashed =>
      have hoffered := workload.queue.offered_enqueue now call
      rw [hcrashed] at hoffered
      cases hoffered with
      | overflow hopen hkey hfree hbeyond => exact ⟨htold.unread, htold.waiting⟩
  | @read front back hunread hfront =>
      refine ⟨rfl, ?_⟩
      have hread : (front.map Prod.snd).isEmpty = false := by simpa using hfront
      simp only [reading, TimedQueue.receive, hread, Bool.false_eq_true, if_false, htold.waiting,
        List.map_append, List.map_map]
      rfl
  | begin hwaiting hdue => exact ⟨htold.unread, rfl⟩
  | retry hrunning hretry =>
      rw [TimedQueue.settle_of_retry hretry]
      exact ⟨htold.unread, by simp [htold.waiting]⟩
  | finish hrunning hends =>
      rw [TimedQueue.settle_of_end hends]
      exact ⟨htold.unread, htold.waiting⟩
  | close hunread => exact ⟨htold.unread, htold.waiting⟩
  | abandon hclosed hwaiting => exact ⟨htold.unread, rfl⟩
  | pass => exact ⟨htold.unread, htold.waiting⟩

theorem told_start (name : String) (capacity : Nat) : (start name capacity : Workload ρ).Told :=
  ⟨rfl, rfl⟩

theorem Told.steps (htold : workload.Told) (hsteps : Steps workload next) : next.Told :=
  hsteps.preserve (fun _ _ htold hstep => htold.step hstep) htold

/-- Every ticket is at one place, and as pending count the calls that are not over. -/
structure Balanced (workload : Workload ρ) : Prop where
  placed : workload.history.Placed workload.inPlay
  pending : workload.queue.pending = workload.inPlay.length

/-- Between whole operations nothing is owed. -/
theorem Steps.balanced {name : String} {capacity : Nat}
    (hsteps : Steps (start name capacity) workload) : workload.Balanced := by
  have hbalanced := (Traffic.balanced_start name capacity).steps hsteps.alone
  have hunfinished : workload.alone.unfinished = workload.inPlay := List.append_nil _
  refine ⟨hunfinished ▸ hbalanced.placed, ?_⟩
  rw [← hunfinished]
  exact hbalanced.pending

/-! ## Tickets belong to calls -/

/-- The calls in play, each with its ticket. -/
def calls (workload : Workload ρ) : List (Nat × QueuedCall ρ) :=
  workload.unread ++ workload.waiting.map (Prod.map id Waiting.call) ++
    workload.running.map (Prod.map id Waiting.call)

/-- What is told of a ticket is told of the call that was accepted with it. -/
structure Traced (workload : Workload ρ) : Prop where
  held : ∀ ticket call, (ticket, call) ∈ workload.calls →
    ∃ time, .accepted ticket call time ∈ workload.history
  ended : ∀ ticket call how, .ended ticket call how ∈ workload.history →
    ∃ time, .accepted ticket call time ∈ workload.history

theorem Traced.shuffle (htraced : workload.Traced) (hcalls : next.calls ⊆ workload.calls)
    (hhistory : next.history = workload.history) : next.Traced where
  held := by
    intro ticket call hcall
    rw [hhistory]
    exact htraced.held ticket call (hcalls hcall)
  ended := by
    rw [hhistory]
    exact htraced.ended

/-- An event that is no end leaves every call where it was, but for one that is accepted. -/
theorem Traced.grow (htraced : workload.Traced) {event : QueueEvent ρ}
    (hhistory : next.history = event :: workload.history)
    (hevent : ∀ ticket call how, .ended ticket call how ≠ event)
    (hcalls : ∀ ticket call, (ticket, call) ∈ next.calls →
      (ticket, call) ∈ workload.calls ∨ ∃ time, event = .accepted ticket call time) :
    next.Traced where
  held := by
    intro ticket call hcall
    rw [hhistory]
    rcases hcalls ticket call hcall with hearlier | ⟨time, rfl⟩
    · obtain ⟨time, haccepted⟩ := htraced.held ticket call hearlier
      exact ⟨time, List.mem_cons_of_mem _ haccepted⟩
    · exact ⟨time, List.mem_cons_self⟩
  ended := by
    intro ticket call how hended
    rw [hhistory] at hended ⊢
    have hearlier := List.mem_of_ne_of_mem (hevent ticket call how) hended
    obtain ⟨time, haccepted⟩ := htraced.ended ticket call how hearlier
    exact ⟨time, List.mem_cons_of_mem _ haccepted⟩

theorem Traced.finished (htraced : workload.Traced) (hcalls : next.calls ⊆ workload.calls)
    {ticket : Nat} {call : QueuedCall ρ} {how : CallEnd} (hcall : (ticket, call) ∈ workload.calls)
    (hhistory : next.history = .ended ticket call how :: workload.history) : next.Traced where
  held := by
    intro other held hheld
    obtain ⟨time, haccepted⟩ := htraced.held other held (hcalls hheld)
    exact ⟨time, by rw [hhistory]; exact List.mem_cons_of_mem _ haccepted⟩
  ended := by
    intro other gone way hended
    rw [hhistory] at hended ⊢
    rcases List.mem_cons.mp hended with hsame | hearlier
    · cases hsame
      obtain ⟨time, haccepted⟩ := htraced.held ticket call hcall
      exact ⟨time, List.mem_cons_of_mem _ haccepted⟩
    · obtain ⟨time, haccepted⟩ := htraced.ended other gone way hearlier
      exact ⟨time, List.mem_cons_of_mem _ haccepted⟩

/-- Every step keeps what is told of tickets. -/
theorem Traced.step (htraced : workload.Traced) (hstep : workload.Step next) : next.Traced := by
  cases hstep with
  | @accept now call queue hclock haccepted =>
      refine htraced.grow rfl (fun _ _ _ hsame => by cases hsame) fun ticket held hheld => ?_
      simp only [accepting, calls, List.mem_append, List.mem_singleton, Prod.mk.injEq] at hheld ⊢
      rcases hheld with ((hunread | ⟨rfl, rfl⟩) | hwaiting) | hrunning
      · exact .inl (.inl (.inl hunread))
      · exact .inr ⟨now, rfl⟩
      · exact .inl (.inl (.inr hwaiting))
      · exact .inl (.inr hrunning)
  | refuse hclock hrefused =>
      exact htraced.grow rfl (fun _ _ _ hsame => by cases hsame) fun _ _ hheld => .inl hheld
  | crash hclock hcrashed => exact htraced.shuffle (List.Subset.refl _) rfl
  | @read front back hunread hfront =>
      refine htraced.shuffle (fun pair hpair => ?_) rfl
      simp only [reading, calls, hunread, List.map_append, List.map_map, List.mem_append,
        List.mem_map] at hpair ⊢
      rcases hpair with (hback | ⟨held, hheld, rfl⟩ | ⟨held, hheld, rfl⟩) | hrunning
      · exact .inl (.inl (.inr hback))
      · exact .inl (.inr ⟨held, hheld, rfl⟩)
      · exact .inl (.inl (.inl hheld))
      · exact .inr hrunning
  | @begin front back ticket waiting hwaiting hdue =>
      refine htraced.shuffle (fun pair hpair => ?_) rfl
      simp only [taking, calls, hwaiting, List.map_append, List.map_cons, List.mem_append,
        List.mem_cons] at hpair ⊢
      tauto
  | @retry front back ticket attempted outcome hrunning hretry =>
      refine htraced.shuffle (fun pair hpair => ?_) rfl
      have hsame : Prod.map id Waiting.call (ticket, workload.queue.again attempted) =
        Prod.map id Waiting.call (ticket, attempted) := rfl
      simp only [calls, hrunning, hsame, List.map_append, List.map_cons, List.map_nil,
        List.mem_append, List.mem_cons, List.not_mem_nil, or_false] at hpair ⊢
      tauto
  | @finish front back ticket attempted outcome how hrunning hends =>
      refine htraced.finished (fun pair hpair => ?_) ?_ rfl
      · simp only [calls, hrunning, List.map_append, List.map_cons, List.mem_append,
          List.mem_cons] at hpair ⊢
        tauto
      · simp [calls, hrunning]
  | close hunread => exact htraced.shuffle (List.Subset.refl _) rfl
  | @abandon front back ticket waiting hclosed hwaiting =>
      refine htraced.finished (fun pair hpair => ?_) ?_ rfl
      · simp only [calls, hwaiting, List.map_append, List.map_cons, List.mem_append,
          List.mem_cons] at hpair ⊢
        tauto
      · simp [calls, hwaiting]
  | pass => exact htraced.shuffle (List.Subset.refl _) rfl

theorem traced_start (name : String) (capacity : Nat) :
    (start name capacity : Workload ρ).Traced where
  held := by simp [start, calls]
  ended := by simp [start]

theorem Traced.steps (htraced : workload.Traced) (hsteps : Steps workload next) : next.Traced :=
  hsteps.preserve (fun _ _ htraced hstep => htraced.step hstep) htraced

end Workload
end Plugboard
