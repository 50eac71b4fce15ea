import Plugboard.Proofs.Engine.Commands

/-!
# What code does to the timed queue

Code offers calls to the timed queue of its engine, one after the other, and does nothing else
to it, whether it comes to its end or stops.  That calls were offered since some moment is an
invariant, so this goes for everything that keeps invariants.
-/

namespace Plugboard

/-- The queue once calls have been offered to it in this order, all at one time. -/
def TimedQueue.offerAll {ρ : Type} (queue : TimedQueue ρ) (now : Nat)
    (calls : List (QueuedCall ρ)) : TimedQueue ρ :=
  calls.foldl (fun queue call => (queue.enqueue now call).1) queue

namespace Engine

/-- Calls were offered to the timed queue, if there is one, and no time passed. -/
structure Offers (before after : Engine) : Prop where
  timed : ∃ calls,
    after.timed = before.timed.map fun queue => queue.offerAll before.uptime calls
  uptime : after.uptime = before.uptime

theorem offers_of_beside {before after : Engine} (hbeside : Beside before after) :
    Offers before after := by
  refine ⟨⟨[], ?_⟩, hbeside.uptime⟩
  rw [hbeside.timed]
  cases before.timed <;> rfl

theorem Offers.beside {before middle after : Engine} (hoffers : Offers before middle)
    (hbeside : Beside middle after) : Offers before after := by
  obtain ⟨calls, hcalls⟩ := hoffers.timed
  exact ⟨⟨calls, hbeside.timed.trans hcalls⟩, hbeside.uptime.trans hoffers.uptime⟩

theorem Offers.offer {before middle : Engine} (hoffers : Offers before middle)
    (call : QueuedCall Behaviour) :
    Offers before { middle with
      timed := middle.timed.map fun queue => (queue.enqueue middle.uptime call).1 } := by
  obtain ⟨calls, hmiddle⟩ := hoffers.timed
  refine ⟨⟨calls ++ [call], ?_⟩, hoffers.uptime⟩
  rw [hmiddle, hoffers.uptime]
  cases before.timed with
  | none => rfl
  | some queue => simp [TimedQueue.offerAll]

/-- Whatever was done since, calls were offered to the timed queue and nothing else. -/
def offeringSince (start : Engine) : Invariant where
  holds := Offers start
  suits _ _ := True
  admits _ := True
  beside := Offers.beside
  perform hoffers _ := ⟨hoffers.timed, hoffers.uptime⟩
  entries _ _ := trivial
  calls _ _ _ _ := trivial
  collect hoffers _ := ⟨hoffers.timed, hoffers.uptime⟩
  drain hoffers := ⟨hoffers.timed, hoffers.uptime⟩
  offer hoffers _ := hoffers.offer _

variable {α : Type}

/-- The code only offers calls to the timed queue. -/
def OnlyOffers (code : EngineM α) : Prop := ∀ before, Offers before (code.run.run before).2

/-- Code that keeps every invariant only offers calls. -/
theorem onlyOffers_of_keeps {code : EngineM α}
    (hkeeps : ∀ invariant : Invariant, Keeps invariant code) : OnlyOffers code :=
  fun before => hkeeps (offeringSince before) before (offers_of_beside ⟨rfl, rfl, rfl, rfl⟩)

theorem timed_record (engine : Engine) (event : Event) :
    (engine.record event).timed = engine.timed :=
  (beside_of_bare_eq (bare_record engine event)).timed

end Engine
end Plugboard
