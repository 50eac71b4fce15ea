import Plugboard.Pipeline.Basic

/-!
# What happens in a run of a pipeline

A run is told as a list of events: a payload enters a position, a pipe forwards, the handler
of a pipe returns.  The position behind the last pipe is that of the destination.  Whether
a failing pipe is skipped is decided by a number that all pipes share, the deepest position
entered so far; here this number is shown to say nothing but whether the pipe itself
forwarded, so that runs have a description without it.
-/

namespace Plugboard

/-- Something that happens in a run. -/
inductive PipeEvent (α : Type) where
  | entered (index : Nat) (payload : α)
  | forwarded (index : Nat) (payload : α)
  /-- The handler of a pipe returned, and `reached` was the deepest position then. -/
  | returned (index reached : Nat) (outcome : Except Fault α)

namespace PipeEvent

variable {α : Type}

def position? : PipeEvent α → Option Nat
  | .entered index _ => some index
  | .forwarded _ _ | .returned _ _ _ => none

def arrival? (pipes : Nat) : PipeEvent α → Option (Arrival α)
  | .entered index payload =>
      some (if index < pipes then .pipe index payload else .destination payload)
  | .forwarded _ _ | .returned _ _ _ => none

end PipeEvent

namespace Pipeline

variable {α : Type} {forgiving : Bool} {destination : α → Except Fault α} {pipe : Pipe α}
  {rest pipes : List (Pipe α)} {index : Nat} {payload : α} {trace : List (PipeEvent α)}
  {outcome : Except Fault α}

/-- Runs the pipes from position `index` on and tells what happens. -/
def traced (forgiving : Bool) (destination : α → Except Fault α) :
    List (Pipe α) → Nat → α → Progress α →
      List (PipeEvent α) × (Except Fault α × Progress α)
  | [], index, payload, progress =>
      ([.entered index payload], arrive destination index payload progress)
  | pipe :: rest, index, payload, progress =>
      let entered := progress.enter index payload
      let (inner, outcome, progress) :=
        match pipe (index + 1) payload with
        | .answer outcome => ([], outcome, entered)
        | .forward passed resume =>
            let (inner, downstream, progress) :=
              traced forgiving destination rest (index + 1) passed entered
            (PipeEvent.forwarded index passed :: inner, resume downstream, progress)
      let trace := PipeEvent.entered index payload :: inner ++
        [PipeEvent.returned index progress.reached outcome]
      match outcome with
      | .ok answer => (trace, .ok answer, progress)
      | .error (.attributed error) => (trace, .error (.attributed error), progress)
      | .error (.plain message) =>
          if forgiving && progress.reached ≤ index then
            let (tail, result) := traced forgiving destination rest (index + 1) payload progress
            (trace ++ tail, result)
          else (trace, .error (.attributed (.pipe index (.plain message))), progress)

/-- Telling what happens changes nothing. -/
theorem traced_snd (forgiving : Bool) (destination : α → Except Fault α) (pipes : List (Pipe α))
    (index : Nat) (payload : α) (progress : Progress α) :
    (traced forgiving destination pipes index payload progress).2 =
      forward forgiving destination pipes index payload progress := by
  induction pipes generalizing index payload progress with
  | nil => rfl
  | cons pipe rest ih =>
      simp only [traced, forward]
      cases pipe (index + 1) payload with
      | answer outcome =>
          cases outcome with
          | ok answer => rfl
          | error fault =>
              cases fault with
              | attributed error => rfl
              | plain message =>
                  simp only
                  split
                  · exact ih (index + 1) payload _
                  · rfl
      | forward passed resume =>
          simp only [← ih (index + 1) passed]
          cases resume _ with
          | ok answer => rfl
          | error fault =>
              cases fault with
              | attributed error => rfl
              | plain message =>
                  simp only
                  split
                  · exact ih (index + 1) payload _
                  · rfl

/-- A failure without a place gets the one where it arrives. -/
def attributed (index : Nat) : Except Fault α → Except Fault α
  | .error (.plain message) => .error (.attributed (.pipe index (.plain message)))
  | outcome => outcome

/-- A plain failure of a pipe that did not forward is passed over in a forgiving pipeline. -/
def PassesOver (forgiving : Bool) (outcome : Except Fault α) : Prop :=
  forgiving = true ∧ ∃ message, outcome = .error (.plain message)

/-- What happens from position `index` on, told without the shared number. -/
inductive Passage (forgiving : Bool) (destination : α → Except Fault α) :
    List (Pipe α) → Nat → α → List (PipeEvent α) → Except Fault α → Prop where
  | delivered {index : Nat} {payload : α} :
      Passage forgiving destination [] index payload [.entered index payload]
        ((destination payload).mapError fun fault => .attributed (.destination fault))
  | answered {pipe : Pipe α} {rest : List (Pipe α)} {index : Nat} {payload : α}
      {outcome : Except Fault α} (hanswer : pipe (index + 1) payload = .answer outcome)
      (hstops : ¬ PassesOver forgiving outcome) :
      Passage forgiving destination (pipe :: rest) index payload
        [.entered index payload, .returned index index outcome] (attributed index outcome)
  | passedOver {pipe : Pipe α} {rest : List (Pipe α)} {index : Nat} {payload : α}
      {failure outcome : Except Fault α} {tail : List (PipeEvent α)}
      (hanswer : pipe (index + 1) payload = .answer failure)
      (hover : PassesOver forgiving failure)
      (htail : Passage forgiving destination rest (index + 1) payload tail outcome) :
      Passage forgiving destination (pipe :: rest) index payload
        (.entered index payload :: .returned index index failure :: tail) outcome
  | forwarded {pipe : Pipe α} {rest : List (Pipe α)} {index reached : Nat} {payload passed : α}
      {resume : Except Fault α → Except Fault α} {downstream : Except Fault α}
      {inner : List (PipeEvent α)}
      (hforward : pipe (index + 1) payload = .forward passed resume)
      (hinner : Passage forgiving destination rest (index + 1) passed inner downstream)
      (hreached : index < reached) :
      Passage forgiving destination (pipe :: rest) index payload
        (.entered index payload :: .forwarded index passed ::
          (inner ++ [.returned index reached (resume downstream)]))
        (attributed index (resume downstream))

/-! ## The shared number says whether the pipe forwarded -/

section

variable {progress : Progress α}

theorem reached_enter (hreached : progress.reached ≤ index) :
    (progress.enter index payload).reached = index :=
  Nat.max_eq_right hreached

/-- A pipe that answers ends the run with its answer, unless it is passed over. -/
theorem traced_of_stops (hreached : progress.reached ≤ index)
    (hanswer : pipe (index + 1) payload = .answer outcome)
    (hstops : ¬ PassesOver forgiving outcome) :
    traced forgiving destination (pipe :: rest) index payload progress =
      ([.entered index payload, .returned index index outcome], attributed index outcome,
        progress.enter index payload) := by
  simp only [traced, hanswer, reached_enter hreached]
  cases outcome with
  | ok answer => rfl
  | error fault =>
      cases fault with
      | attributed error => rfl
      | plain message =>
          have hstrict : forgiving = false := by
            cases forgiving with
            | false => rfl
            | true => exact absurd ⟨rfl, message, rfl⟩ hstops
          simp [hstrict, attributed]

/-- A pipe that is passed over hands its payload to the next. -/
theorem traced_of_passesOver (hreached : progress.reached ≤ index)
    (hanswer : pipe (index + 1) payload = .answer outcome)
    (hover : PassesOver forgiving outcome) :
    traced forgiving destination (pipe :: rest) index payload progress =
      let told := traced forgiving destination rest (index + 1) payload
        (progress.enter index payload)
      (.entered index payload :: .returned index index outcome :: told.1, told.2) := by
  obtain ⟨hforgiving, message, rfl⟩ := hover
  simp only [traced, hanswer, reached_enter hreached]
  simp [hforgiving]

theorem traced_of_forward {passed : α} {resume : Except Fault α → Except Fault α}
    (hforward : pipe (index + 1) payload = .forward passed resume)
    (hdeeper : index < (traced forgiving destination rest (index + 1) passed
      (progress.enter index payload)).2.2.reached) :
    traced forgiving destination (pipe :: rest) index payload progress =
      let told := traced forgiving destination rest (index + 1) passed
        (progress.enter index payload)
      (.entered index payload :: .forwarded index passed ::
          (told.1 ++ [.returned index told.2.2.reached (resume told.2.1)]),
        attributed index (resume told.2.1), told.2.2) := by
  simp only [traced, hforward]
  cases resume _ with
  | ok answer => rfl
  | error fault =>
      cases fault with
      | attributed error => rfl
      | plain message => simp [Nat.not_le.mpr hdeeper, attributed]

/-- A run that starts no deeper than its position is a passage, and leaves the deepest
position at least there. -/
theorem passage_traced (hreached : progress.reached ≤ index)
    (hdelivered : progress.delivered = false) :
    let told := traced forgiving destination pipes index payload progress
    Passage forgiving destination pipes index payload told.1 told.2.1 ∧
      index ≤ told.2.2.reached ∧
      told.2.2.arrivals = progress.arrivals ++
        told.1.filterMap (PipeEvent.arrival? (index + pipes.length)) := by
  induction pipes generalizing index payload progress with
  | nil =>
      simp only [traced, arrive, hdelivered, Progress.deliver]
      refine ⟨.delivered, Nat.le_max_right _ _, ?_⟩
      simp [PipeEvent.arrival?]
  | cons pipe rest ih =>
      intro told
      have hentered : (progress.enter index payload).reached ≤ index + 1 := by
        rw [reached_enter hreached]
        omega
      have hlength : index + (pipe :: rest).length = index + 1 + rest.length := by
        rw [List.length_cons]
        omega
      have hpipe : index < index + 1 + rest.length := by omega
      cases hstep : pipe (index + 1) payload with
      | answer outcome =>
          by_cases hover : PassesOver forgiving outcome
          · obtain ⟨hpassage, hdeep, harrivals⟩ :=
              @ih _ payload _ hentered hdelivered
            simp only [told, traced_of_passesOver hreached hstep hover]
            refine ⟨.passedOver hstep hover hpassage, by omega, ?_⟩
            rw [harrivals, hlength]
            simp [List.filterMap_cons, PipeEvent.arrival?, Progress.enter, hpipe]
          · simp only [told, traced_of_stops hreached hstep hover]
            refine ⟨.answered hstep hover, Nat.le_of_eq (reached_enter hreached).symm, ?_⟩
            simp [PipeEvent.arrival?, Progress.enter]
      | forward passed resume =>
          obtain ⟨hpassage, hdeep, harrivals⟩ :=
            @ih _ passed _ hentered hdelivered
          simp only [told, traced_of_forward hstep hdeep]
          refine ⟨.forwarded hstep hpassage hdeep, by omega, ?_⟩
          rw [harrivals, hlength]
          simp [List.filterMap_cons, PipeEvent.arrival?, Progress.enter, hpipe]

end

end Pipeline
end Plugboard
