import Plugboard.Pipeline.TextPipe
import Plugboard.Proofs.Pipeline.Linearity

/-!
# Whom the failure of a pipeline blames

A failure travels from the stage that raised it up through the pipes before it, and any of
them may pass it on, rewrite it or swallow it.  What comes out of a run blames a stage that
was entered and raised just that, the destination or a pipe that did not have it from its
continuation; on its way up it keeps its place as long as it is passed on.  Only a pipe that
itself raises a failure with a place in it, such as one of a pipeline inside the pipe, goes
unblamed: its failure counts as placed already, so that the place is not one of this run and
the pipe is not passed over.
-/

namespace Plugboard.Pipeline

variable {α : Type}

/-! ## What a pipe has from its continuation -/

section

variable {forgiving : Bool} {destination : α → Except Fault α} {pipes : List (Pipe α)}
  {index : Nat} {payload : α} {trace other : List (PipeEvent α)}
  {outcome result : Except Fault α}

/-- What comes out of the pipes behind a position is decided by what goes in. -/
theorem Passage.unique (hleft : Passage forgiving destination pipes index payload trace outcome)
    (hright : Passage forgiving destination pipes index payload other result) :
    outcome = result := by
  induction hleft generalizing other result with
  | delivered =>
      cases hright
      rfl
  | answered hanswer hstops =>
      cases hright with
      | answered hagain hnot =>
          cases hanswer.symm.trans hagain
          rfl
      | passedOver hagain hover htail =>
          cases hanswer.symm.trans hagain
          exact absurd hover hstops
      | forwarded hforward hinner hreached => cases hanswer.symm.trans hforward
  | passedOver hanswer hover htail ih =>
      cases hright with
      | answered hagain hstops =>
          cases hanswer.symm.trans hagain
          exact absurd hover hstops
      | passedOver hagain hnot hbehind => exact ih hbehind
      | forwarded hforward hinner hreached => cases hanswer.symm.trans hforward
  | forwarded hforward hinner hreached ih =>
      cases hright with
      | answered hanswer hstops => cases hforward.symm.trans hanswer
      | passedOver hanswer hover htail => cases hforward.symm.trans hanswer
      | forwarded hagain hbehind hdeeper =>
          cases hforward.symm.trans hagain
          rw [ih hbehind]

/-- How far the run had come before makes no difference. -/
theorem Passage.fst_forward_start
    (hpassage : Passage forgiving destination pipes index payload trace outcome) :
    (forward forgiving destination pipes index payload .start).1 = outcome := by
  have htraced : Passage forgiving destination pipes index payload _
      (traced forgiving destination pipes index payload .start).2.1 :=
    (passage_traced (Nat.zero_le index) rfl).1
  rw [← traced_snd]
  exact htraced.unique hpassage

/-- A failure that leaves a position has a place. -/
theorem Passage.exists_attributed {fault : Fault}
    (hpassage : Passage forgiving destination pipes index payload trace outcome)
    (hfails : outcome = .error fault) : ∃ error, fault = .attributed error := by
  have hplaced (place : Nat) (answer : Except Fault α)
      (hfails : attributed place answer = .error fault) :
      ∃ error, fault = .attributed error := by
    rcases answer with (_ | error) | answer <;> cases hfails
    · exact ⟨_, rfl⟩
    · exact ⟨error, rfl⟩
  induction hpassage with
  | @delivered index payload =>
      cases hanswer : destination payload with
      | ok answer => simp [hanswer, Except.mapError] at hfails
      | error own =>
          rw [hanswer] at hfails
          cases hfails
          exact ⟨_, rfl⟩
  | answered => exact hplaced _ _ hfails
  | passedOver hanswer hover htail ih => exact ih hfails
  | forwarded => exact hplaced _ _ hfails

end

/-- What the pipes behind a position make of a payload that is forwarded there. -/
def downstream (pipeline : Pipeline α) (destination : α → Except Fault α) (index : Nat)
    (passed : α) : Except Fault α :=
  (forward pipeline.continueOnFailure destination (pipeline.pipes.drop (index + 1)) (index + 1)
    passed .start).1

/-- What the handler at a position returns after a step. -/
def returned (pipeline : Pipeline α) (destination : α → Except Fault α) (index : Nat) :
    PipeStep α → Except Fault α
  | .answer outcome => outcome
  | .forward passed resume => resume (pipeline.downstream destination index passed)

/-! ## Blame -/

variable (pipeline : Pipeline α) (destination : α → Except Fault α)

/-- The pipe at a position was entered and returned a failure that it does not have from its
continuation. -/
structure Raises (index : Nat) (fault : Fault) (pipe : Pipe α) (payload : α) : Prop where
  pipe_eq : pipeline.pipes[index]? = some pipe
  entered : .entered index payload ∈ pipeline.events destination
  fails : ∃ reached, .returned index reached (.error fault) ∈ pipeline.events destination
  own : ∀ passed resume, pipe (index + 1) payload = .forward passed resume →
    pipeline.downstream destination index passed ≠ .error fault

/-- A failure tells the truth: the destination ran and failed so, or the pipe raised just
that, and after it forwarded if pipes that fail before are passed over. -/
inductive Blames : PipelineError → Prop where
  | destination {payload : α} {fault : Fault}
      (hentered : .entered pipeline.pipes.length payload ∈ pipeline.events destination)
      (hfails : destination payload = .error fault) : Blames (.destination fault)
  | pipe {index : Nat} {message : String} {pipe : Pipe α} {payload : α}
      (hraises : pipeline.Raises destination index (.plain message) pipe payload)
      (hfinal : pipeline.continueOnFailure = true →
        ∃ passed, .forwarded index passed ∈ pipeline.events destination) :
      Blames (.pipe index (.plain message))

/-- If the pipe at a position forwards, it passes a failure of its continuation on. -/
def PassesOn (index : Nat) (error : PipelineError) : Prop :=
  ∀ pipe payload passed resume, pipeline.pipes[index]? = some pipe →
    .entered index payload ∈ pipeline.events destination →
    pipe (index + 1) payload = .forward passed resume →
    resume (.error (.attributed error)) = .error (.attributed error)

/-! ## A stretch of the run -/

/-- The pipes from a position on are the last ones of the pipeline, and what happens there is
part of the run. -/
structure Stretch (pipes : List (Pipe α)) (index : Nat) (trace : List (PipeEvent α)) :
    Prop where
  drop_eq : pipeline.pipes.drop index = pipes
  length_eq : index + pipes.length = pipeline.pipes.length
  subset : trace ⊆ pipeline.events destination

variable {pipeline} {destination} {pipe : Pipe α} {rest pipes : List (Pipe α)} {index : Nat}
  {payload : α} {trace inner : List (PipeEvent α)} {outcome : Except Fault α}

namespace Stretch

/-- The first pipe of a stretch stands at its position. -/
theorem pipe_eq (hstretch : Stretch pipeline destination (pipe :: rest) index trace) :
    pipeline.pipes[index]? = some pipe := by
  rw [← Nat.add_zero index, ← List.getElem?_drop, hstretch.drop_eq, List.getElem?_cons_zero]

theorem behind (hstretch : Stretch pipeline destination (pipe :: rest) index trace)
    (hinner : inner ⊆ trace) : Stretch pipeline destination rest (index + 1) inner := by
  refine ⟨?_, ?_, List.Subset.trans hinner hstretch.subset⟩
  · rw [← List.drop_drop, hstretch.drop_eq, List.drop_one, List.tail_cons]
  · rw [← hstretch.length_eq, List.length_cons]
    omega

/-- What is behind a position is what happens behind it in the run. -/
theorem downstream_eq (hstretch : Stretch pipeline destination (pipe :: rest) index trace)
    (hinner : Passage pipeline.continueOnFailure destination rest (index + 1) payload inner
      outcome) : pipeline.downstream destination index payload = outcome := by
  have hrest : pipeline.pipes.drop (index + 1) = rest :=
    (hstretch.behind (List.nil_subset trace)).drop_eq
  rw [downstream, hrest]
  exact hinner.fst_forward_start

end Stretch

namespace Passage

/-- What a handler returns is its answer, or what it makes of the pipes behind it. -/
theorem returned_eq
    (hpassage : Passage pipeline.continueOnFailure destination pipes index payload trace outcome)
    (hstretch : Stretch pipeline destination pipes index trace) {position reached : Nat}
    {result : Except Fault α} (hreturned : .returned position reached result ∈ trace) :
    ∃ pipe given, pipeline.pipes[position]? = some pipe ∧ .entered position given ∈ trace ∧
      result = pipeline.returned destination position (pipe (position + 1) given) := by
  induction hpassage with
  | delivered => simp at hreturned
  | answered hanswer hstops =>
      obtain ⟨rfl, rfl, rfl⟩ : position = _ ∧ reached = _ ∧ result = _ := by
        simpa using hreturned
      exact ⟨_, _, hstretch.pipe_eq, List.mem_cons_self, by rw [hanswer, returned]⟩
  | passedOver hanswer hover htail ih =>
      rcases List.mem_cons.mp (List.mem_of_ne_of_mem (by simp) hreturned) with hown | hreturned
      · cases hown
        exact ⟨_, _, hstretch.pipe_eq, List.mem_cons_self, by rw [hanswer, returned]⟩
      · obtain ⟨pipe, given, hpipe, hentered, hresult⟩ :=
          ih (hstretch.behind (fun _ hevent => by simp [hevent])) hreturned
        exact ⟨pipe, given, hpipe, by simp [hentered], hresult⟩
  | forwarded hforward hinner hreached ih =>
      rcases List.mem_append.mp (List.mem_of_ne_of_mem (by simp)
        (List.mem_of_ne_of_mem (by simp) hreturned)) with hreturned | hown
      · obtain ⟨pipe, given, hpipe, hentered, hresult⟩ :=
          ih (hstretch.behind (fun _ hevent => by simp [hevent])) hreturned
        exact ⟨pipe, given, hpipe, by simp [hentered], hresult⟩
      · cases List.mem_singleton.mp hown
        refine ⟨_, _, hstretch.pipe_eq, List.mem_cons_self, ?_⟩
        rw [hforward, returned, hstretch.downstream_eq hinner]

/-- What a failure that leaves a stretch blames, unless a pipe raised it as it is. -/
theorem blames
    (hpassage : Passage pipeline.continueOnFailure destination pipes index payload trace outcome)
    (hstretch : Stretch pipeline destination pipes index trace) {error : PipelineError}
    (hfails : outcome = .error (.attributed error)) :
    Blames pipeline destination error ∨
      ∃ position pipe given, Raises pipeline destination position (.attributed error) pipe given := by
  induction hpassage with
  | @delivered index payload =>
      cases hanswer : destination payload with
      | ok answer => simp [hanswer, Except.mapError] at hfails
      | error fault =>
          rw [hanswer] at hfails
          cases hfails
          refine .inl (.destination (hstretch.subset ?_) hanswer)
          rw [← hstretch.length_eq]
          exact List.mem_singleton_self _
  | @answered pipe rest index payload outcome hanswer hstops =>
      have hraises (fault : Fault) (hfault : outcome = .error fault) :
          Raises pipeline destination index fault pipe payload := by
        refine ⟨hstretch.pipe_eq, hstretch.subset (by simp), ⟨index, hstretch.subset ?_⟩, ?_⟩
        · simp [hfault]
        · intro passed resume hforward
          cases hanswer.symm.trans hforward
      rcases outcome with (message | own) | answer <;> cases hfails
      · refine .inl (.pipe (hraises _ rfl) fun hforgiving => ?_)
        exact absurd ⟨hforgiving, message, rfl⟩ hstops
      · exact .inr ⟨index, pipe, payload, hraises _ rfl⟩
  | passedOver hanswer hover htail ih =>
      exact ih (hstretch.behind fun _ hevent => by simp [hevent]) hfails
  | @forwarded pipe rest index reached payload passed resume downstream inner hforward hinner
      hreached ih =>
      have hraises (fault : Fault) (hfault : resume downstream = .error fault)
          (hown : downstream ≠ .error fault) :
          Raises pipeline destination index fault pipe payload := by
        refine ⟨hstretch.pipe_eq, hstretch.subset (by simp), ⟨reached, hstretch.subset ?_⟩, ?_⟩
        · simp [hfault]
        · intro other again hagain
          cases hforward.symm.trans hagain
          rwa [hstretch.downstream_eq hinner]
      rcases hresult : resume downstream with (message | own) | answer <;>
        rw [hresult] at hfails <;> cases hfails
      · refine .inl (.pipe (hraises _ hresult ?_) fun _ => ⟨passed, hstretch.subset (by simp)⟩)
        intro hplain
        obtain ⟨error, hplaced⟩ := hinner.exists_attributed hplain
        cases hplaced
      · by_cases hpassed : downstream = .error (.attributed error)
        · exact ih (hstretch.behind fun _ hevent => by simp [hevent]) hpassed
        · exact .inr ⟨index, pipe, payload, hraises _ hresult hpassed⟩

/-- A failure that is passed on keeps its place: whatever a pipe fails with that is not passed
over leaves the stretch. -/
theorem keeps_place
    (hpassage : Passage pipeline.continueOnFailure destination pipes index payload trace outcome)
    (hstretch : Stretch pipeline destination pipes index trace) {position reached : Nat}
    {failure : Except Fault α} {error : PipelineError}
    (hreturned : .returned position reached failure ∈ trace)
    (hfinal : PassesOver pipeline.continueOnFailure failure →
      ∃ passed, .forwarded position passed ∈ trace)
    (hplaced : attributed position failure = .error (.attributed error))
    (hpassed : ∀ other < position, PassesOn pipeline destination other error) :
    outcome = .error (.attributed error) := by
  induction hpassage with
  | delivered => simp at hreturned
  | answered hanswer hstops =>
      obtain ⟨rfl, -, rfl⟩ : position = _ ∧ reached = _ ∧ failure = _ := by
        simpa using hreturned
      exact hplaced
  | @passedOver pipe rest index payload answer outcome tail hanswer hover htail ih =>
      have hnot (passed : α) : .forwarded index passed ∉ tail := fun hforwarded =>
        Nat.not_succ_le_self index (htail.index_le _ hforwarded)
      rcases List.mem_cons.mp (List.mem_of_ne_of_mem (by simp) hreturned) with hown | hreturned
      · cases hown
        obtain ⟨passed, hforwarded⟩ := hfinal hover
        exact absurd (by simpa using hforwarded) (hnot passed)
      · refine ih (hstretch.behind fun _ hevent => by simp [hevent]) hreturned fun hover => ?_
        obtain ⟨passed, hforwarded⟩ := hfinal hover
        exact ⟨passed, by simpa using hforwarded⟩
  | @forwarded pipe rest index deepest payload passed resume downstream inner hforward hinner
      hreached ih =>
      rcases List.mem_append.mp (List.mem_of_ne_of_mem (by simp)
        (List.mem_of_ne_of_mem (by simp) hreturned)) with hreturned | hown
      · have hbehind : index < position := hinner.index_le _ hreturned
        have hdownstream : downstream = .error (.attributed error) := by
          refine ih (hstretch.behind fun _ hevent => by simp [hevent]) hreturned fun hover => ?_
          obtain ⟨other, hforwarded⟩ := hfinal hover
          refine ⟨other, ?_⟩
          simpa [Nat.ne_of_gt hbehind] using hforwarded
        have hresume := hpassed index hbehind pipe payload passed resume hstretch.pipe_eq
          (hstretch.subset (by simp)) hforward
        rw [hdownstream, hresume]
        rfl
      · cases List.mem_singleton.mp hown
        exact hplaced

/-- The same for the destination. -/
theorem keeps_destination
    (hpassage : Passage pipeline.continueOnFailure destination pipes index payload trace outcome)
    (hstretch : Stretch pipeline destination pipes index trace) {given : α} {fault : Fault}
    (hentered : .entered pipeline.pipes.length given ∈ trace)
    (hfails : destination given = .error fault)
    (hpassed : ∀ other < pipeline.pipes.length,
      PassesOn pipeline destination other (.destination fault)) :
    outcome = .error (.attributed (.destination fault)) := by
  have hbefore {pipe : Pipe α} {rest : List (Pipe α)} {own : Nat} {told : List (PipeEvent α)}
      (hstretch : Stretch pipeline destination (pipe :: rest) own told) :
      own < pipeline.pipes.length := by
    rw [← hstretch.length_eq, List.length_cons]
    omega
  induction hpassage with
  | @delivered index payload =>
      obtain ⟨-, rfl⟩ : pipeline.pipes.length = index ∧ given = payload := by
        simpa using hentered
      rw [hfails]
      rfl
  | answered hanswer hstops =>
      have hown := hbefore hstretch
      simp [Nat.ne_of_gt hown] at hentered
  | passedOver hanswer hover htail ih =>
      have hown := hbefore hstretch
      refine ih (hstretch.behind fun _ hevent => by simp [hevent]) ?_
      simpa [Nat.ne_of_gt hown] using hentered
  | @forwarded pipe rest index reached payload passed resume downstream inner hforward hinner
      hreached ih =>
      have hown := hbefore hstretch
      have hdownstream : downstream = .error (.attributed (.destination fault)) := by
        refine ih (hstretch.behind fun _ hevent => by simp [hevent]) ?_
        simpa [Nat.ne_of_gt hown] using hentered
      have hresume := hpassed index hown pipe payload passed resume hstretch.pipe_eq
        (hstretch.subset (by simp)) hforward
      rw [hdownstream, hresume]
      rfl

/-- A pipe that fails before it forwarded is passed over with its input, if its failure names
no place and the pipeline is forgiving. -/
theorem passes_over
    (hpassage : Passage pipeline.continueOnFailure destination pipes index payload trace outcome)
    {position reached : Nat} {failure : Except Fault α}
    (hreturned : .returned position reached failure ∈ trace)
    (hover : PassesOver pipeline.continueOnFailure failure)
    (hunforwarded : ∀ passed, .forwarded position passed ∉ trace) :
    ∃ given, .entered position given ∈ trace ∧ .entered (position + 1) given ∈ trace := by
  induction hpassage with
  | delivered => simp at hreturned
  | answered hanswer hstops =>
      obtain ⟨-, -, rfl⟩ : position = _ ∧ reached = _ ∧ failure = _ := by
        simpa using hreturned
      exact absurd hover hstops
  | @passedOver pipe rest index payload answer outcome tail hanswer hagain htail ih =>
      rcases List.mem_cons.mp (List.mem_of_ne_of_mem (by simp) hreturned) with hown | hreturned
      · cases hown
        exact ⟨payload, by simp, by simp [htail.entered_iff.mpr]⟩
      · obtain ⟨given, hentered, hnext⟩ := ih hreturned fun passed hforwarded =>
          hunforwarded passed (by simp [hforwarded])
        exact ⟨given, by simp [hentered], by simp [hnext]⟩
  | @forwarded pipe rest index deepest payload passed resume downstream inner hforward hinner
      hreached ih =>
      rcases List.mem_append.mp (List.mem_of_ne_of_mem (by simp)
        (List.mem_of_ne_of_mem (by simp) hreturned)) with hreturned | hown
      · obtain ⟨given, hentered, hnext⟩ := ih hreturned fun passed hforwarded =>
          hunforwarded passed (by simp [hforwarded])
        exact ⟨given, by simp [hentered], by simp [hnext]⟩
      · cases List.mem_singleton.mp hown
        exact absurd (by simp) (hunforwarded passed)

end Passage

/-! ## The whole run -/

variable (pipeline : Pipeline α) (destination : α → Except Fault α)

/-- A run is a stretch from the first pipe on. -/
theorem stretch_events :
    Stretch pipeline destination pipeline.pipes 0 (pipeline.events destination) :=
  ⟨rfl, Nat.zero_add _, List.Subset.refl _⟩

/-- The run is a passage, and ends with the failures with which the passage does. -/
theorem passage_events : ∃ outcome,
    Passage pipeline.continueOnFailure destination pipeline.pipes 0 pipeline.payload
      (pipeline.events destination) outcome ∧
    ∀ error, (pipeline.run destination).outcome = .error error ↔
      outcome = .error (.attributed error) := by
  have hpassage : Passage pipeline.continueOnFailure destination pipeline.pipes 0 pipeline.payload
      (pipeline.events destination) _ := (passage_traced (Nat.zero_le 0) rfl).1
  refine ⟨_, hpassage, fun error => ?_⟩
  rw [traced_snd] at hpassage ⊢
  have hrun : (pipeline.run destination).outcome =
      (forward pipeline.continueOnFailure destination pipeline.pipes 0 pipeline.payload
        .start).1.mapError placed := rfl
  rw [hrun]
  cases houtcome : (forward pipeline.continueOnFailure destination pipeline.pipes 0
      pipeline.payload .start).1 with
  | ok answer => simp [Except.mapError]
  | error fault =>
      obtain ⟨own, rfl⟩ := hpassage.exists_attributed houtcome
      simp [Except.mapError, placed]

/-- What a run fails with blames a stage that was entered and raised just that, unless a pipe
raised it with its place already in it; a failure keeps its place while the pipes before pass
it on; and in a forgiving pipeline the stage behind a pipe that failed before forwarding gets
the input of that pipe.  Every return of a handler is its answer, or what it makes of the
pipes behind it. -/
theorem failures_blame_their_origin :
    let run := pipeline.run destination
    let events := pipeline.events destination
    (∀ index reached outcome, .returned index reached outcome ∈ events →
      ∃ pipe payload, pipeline.pipes[index]? = some pipe ∧ .entered index payload ∈ events ∧
        outcome = pipeline.returned destination index (pipe (index + 1) payload)) ∧
      (∀ error, run.outcome = .error error → Blames pipeline destination error ∨
        ∃ index pipe payload, Raises pipeline destination index (.attributed error) pipe payload) ∧
      (∀ index reached outcome error, .returned index reached outcome ∈ events →
        (PassesOver pipeline.continueOnFailure outcome →
          ∃ passed, .forwarded index passed ∈ events) →
        attributed index outcome = .error (.attributed error) →
        (∀ other < index, PassesOn pipeline destination other error) →
        run.outcome = .error error) ∧
      (∀ payload fault, .entered pipeline.pipes.length payload ∈ events →
        destination payload = .error fault →
        (∀ other < pipeline.pipes.length,
          PassesOn pipeline destination other (.destination fault)) →
        run.outcome = .error (.destination fault)) ∧
      (∀ index reached outcome, .returned index reached outcome ∈ events →
        PassesOver pipeline.continueOnFailure outcome →
        (∀ passed, .forwarded index passed ∉ events) →
        ∃ payload, .entered index payload ∈ events ∧ .entered (index + 1) payload ∈ events) := by
  obtain ⟨outcome, hpassage, houtcome⟩ := passage_events pipeline destination
  have hstretch := stretch_events pipeline destination
  refine ⟨?_, ?_, ?_, ?_, ?_⟩
  · intro index reached result hreturned
    exact hpassage.returned_eq hstretch hreturned
  · intro error hfails
    exact hpassage.blames hstretch ((houtcome error).mp hfails)
  · intro index reached failure error hreturned hfinal hplaced hpassed
    exact (houtcome error).mpr (hpassage.keeps_place hstretch hreturned hfinal hplaced hpassed)
  · intro payload fault hentered hfails hpassed
    exact (houtcome _).mpr (hpassage.keeps_destination hstretch hentered hfails hpassed)
  · intro index reached failure hreturned hover hunforwarded
    exact hpassage.passes_over hreturned hover hunforwarded

/-- A pipeline whose only pipe fails with what a pipeline of its own failed with. -/
def nesting : Pipeline String where
  payload := "x"
  pipes := [TextPipe.toPipe ⟨"fail_pipe", "inner"⟩]
  continueOnFailure := true
  successHook := false
  failureHook := false

/-- The run fails, though pipes that fail are to be passed over, and its failure names a pipe
that is not there, and a cause that no pipe failed with. -/
theorem nested_failure_blames_nobody :
    (nesting.run .ok).outcome = .error (.pipe TextPipe.namedIndex (.plain "inner")) ∧
      nesting.pipes.length < TextPipe.namedIndex ∧
      ¬ Blames nesting .ok (.pipe TextPipe.namedIndex (.plain "inner")) ∧
      ∀ passed, .forwarded 0 passed ∉ nesting.events .ok := by
  refine ⟨rfl, by decide, ?_, ?_⟩
  · rintro (_ | ⟨hraises, -⟩)
    have hpipe := hraises.pipe_eq
    cases hpipe
  · have hevents : nesting.events .ok = [.entered 0 "x", .returned 0 0
        (.error (.attributed (.pipe TextPipe.namedIndex (.plain "inner"))))] := rfl
    simp [hevents]

end Plugboard.Pipeline
