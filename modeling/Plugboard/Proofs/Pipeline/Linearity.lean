import Mathlib.Data.List.Basic
import Plugboard.Proofs.Pipeline.Trace

/-!
# Runs of pipelines are linear

A run enters the positions one after the other and none of them twice, the destination's
last.  No position is entered before every pipe in front of it forwarded, or failed without
forwarding in a forgiving pipeline; such a pipe is passed over with the payload that it was
given, and no other pipe is.  As no pipe is entered twice, one whose answers change from call
to call is in a single run as good as one whose answers do not.
-/

namespace Plugboard

variable {α : Type}

/-- A split of a list with one more element splits the list or is at the element. -/
theorem concat_eq_split {items front back : List α} {last item : α}
    (hsplit : items ++ [last] = front ++ item :: back) :
    (∃ shorter, back = shorter ++ [last] ∧ items = front ++ item :: shorter) ∨
      (back = [] ∧ item = last ∧ front = items) := by
  rcases List.eq_nil_or_concat back with rfl | ⟨shorter, other, rfl⟩
  · obtain ⟨rfl, hlast⟩ := List.append_inj' hsplit rfl
    exact .inr ⟨rfl, (List.singleton_inj.mp hlast).symm, rfl⟩
  · rw [List.concat_eq_append, ← List.cons_append, ← List.append_assoc] at hsplit
    obtain ⟨hitems, hlast⟩ := List.append_inj' hsplit rfl
    rw [← List.singleton_inj.mp hlast]
    exact .inl ⟨shorter, List.concat_eq_append, hitems⟩

/-- A split of a list at an element other than its first splits what comes behind the first. -/
theorem exists_split_of_ne {items front back : List α} {first item : α} (hother : first ≠ item)
    (hsplit : first :: items = front ++ item :: back) :
    ∃ inside, front = first :: inside ∧ items = inside ++ item :: back := by
  rcases List.cons_eq_append_iff.mp hsplit with ⟨-, hsame⟩ | hinside
  · exact absurd (List.cons.inj hsame).1.symm hother
  · exact hinside

/-- The position that a payload arrived at, in a pipeline of so many pipes. -/
def Arrival.position (pipes : Nat) : Arrival α → Nat
  | .pipe index _ => index
  | .destination _ => pipes

def PipeEvent.index : PipeEvent α → Nat
  | .entered index _ | .forwarded index _ | .returned index _ _ => index

namespace Pipeline

variable {forgiving : Bool} {destination : α → Except Fault α} {pipes : List (Pipe α)}
  {index : Nat} {payload : α} {trace : List (PipeEvent α)} {outcome : Except Fault α}

/-- A pipe forwarded, or it was passed over. -/
def Settled (forgiving : Bool) (events : List (PipeEvent α)) (index : Nat) : Prop :=
  (∃ payload, .forwarded index payload ∈ events) ∨
    (∀ payload, .forwarded index payload ∉ events) ∧
      ∃ reached outcome, .returned index reached outcome ∈ events ∧ PassesOver forgiving outcome

theorem settled_of_returned {events : List (PipeEvent α)} {reached : Nat}
    (hreturned : .returned index reached outcome ∈ events) (hover : PassesOver forgiving outcome) :
    Settled forgiving events index := by
  by_cases hforwarded : ∃ payload, .forwarded index payload ∈ events
  · exact .inl hforwarded
  · exact .inr ⟨not_exists.mp hforwarded, reached, outcome, hreturned, hover⟩

theorem Settled.mono {events more : List (PipeEvent α)}
    (hsettled : Settled forgiving events index) (hmore : events ⊆ more) :
    Settled forgiving more index := by
  rcases hsettled with ⟨payload, hforwarded⟩ | ⟨-, reached, outcome, hreturned, hover⟩
  · exact .inl ⟨payload, hmore hforwarded⟩
  · exact settled_of_returned (hmore hreturned) hover

/-- What the return of a pipe has to do with the events before and behind it. -/
structure Returns (forgiving : Bool) (front back : List (PipeEvent α)) (index reached : Nat)
    (outcome : Except Fault α) : Prop where
  deeper : index < reached ↔ ∃ passed, .forwarded index passed ∈ front
  resumed : ∀ payload, .entered (index + 1) payload ∈ back ↔
    PassesOver forgiving outcome ∧ (∀ passed, .forwarded index passed ∉ front) ∧
      .entered index payload ∈ front

/-- Events of pipes in front have nothing to do with it. -/
theorem Returns.frame {front back : List (PipeEvent α)} {reached : Nat}
    (hreturns : Returns forgiving front back index reached outcome)
    (before after : List (PipeEvent α)) (hbefore : ∀ event ∈ before, event.index < index)
    (hafter : ∀ event ∈ after, event.index < index) :
    Returns forgiving (before ++ front) (back ++ after) index reached outcome := by
  have hforwarded (passed : α) :
      .forwarded index passed ∈ before ++ front ↔ .forwarded index passed ∈ front := by
    refine List.mem_append.trans (or_iff_right fun hevent => ?_)
    exact Nat.lt_irrefl _ (hbefore _ hevent)
  have hentered (payload : α) :
      .entered index payload ∈ before ++ front ↔ .entered index payload ∈ front := by
    refine List.mem_append.trans (or_iff_right fun hevent => ?_)
    exact Nat.lt_irrefl _ (hbefore _ hevent)
  have hnext (payload : α) :
      .entered (index + 1) payload ∈ back ++ after ↔ .entered (index + 1) payload ∈ back := by
    refine List.mem_append.trans (or_iff_left fun hevent => ?_)
    exact Nat.not_succ_le_self _ (Nat.le_of_lt (hafter _ hevent))
  refine ⟨?_, fun payload => ?_⟩
  · simp only [hforwarded, hreturns.deeper]
  · simp only [hforwarded, hentered, hnext, hreturns.resumed]

namespace Passage

/-- A passage is about its own position and the ones behind it. -/
theorem index_le (hpassage : Passage forgiving destination pipes index payload trace outcome) :
    ∀ event ∈ trace, index ≤ event.index := by
  induction hpassage with
  | delivered => simp [PipeEvent.index]
  | answered => simp [PipeEvent.index]
  | passedOver hanswer hover htail ih =>
      intro event hevent
      simp only [List.mem_cons] at hevent
      rcases hevent with rfl | rfl | hevent
      · exact Nat.le_refl _
      · exact Nat.le_refl _
      · exact Nat.le_of_succ_le (ih event hevent)
  | forwarded hforward hinner hreached ih =>
      intro event hevent
      simp only [List.mem_cons, List.mem_append, List.not_mem_nil, or_false] at hevent
      rcases hevent with rfl | rfl | hevent | rfl
      · exact Nat.le_refl _
      · exact Nat.le_refl _
      · exact Nat.le_of_succ_le (ih event hevent)
      · exact Nat.le_refl _

/-- The position of a passage is entered once, with its payload. -/
theorem entered_iff (hpassage : Passage forgiving destination pipes index payload trace outcome)
    {given : α} : .entered index given ∈ trace ↔ given = payload := by
  have hbehind : ∀ {pipes : List (Pipe α)} {payload : α} {trace : List (PipeEvent α)}
      {outcome : Except Fault α},
      Passage forgiving destination pipes (index + 1) payload trace outcome →
        .entered index given ∉ trace := by
    intro pipes payload trace outcome hbehind hentered
    exact Nat.not_succ_le_self index (hbehind.index_le _ hentered)
  cases hpassage with
  | delivered => simp
  | answered => simp
  | passedOver hanswer hover htail => simp [hbehind htail]
  | forwarded hforward hinner => simp [hbehind hinner]

/-- The positions are entered one after the other. -/
theorem positions (hpassage : Passage forgiving destination pipes index payload trace outcome) :
    ∃ count ≤ pipes.length + 1,
      trace.filterMap PipeEvent.position? = List.range' index count := by
  induction hpassage with
  | delivered => exact ⟨1, by simp, by simp [PipeEvent.position?]⟩
  | answered => exact ⟨1, by simp, by simp [List.filterMap_cons, PipeEvent.position?]⟩
  | passedOver hanswer hover htail ih =>
      obtain ⟨count, hcount, hpositions⟩ := ih
      refine ⟨count + 1, Nat.succ_le_succ hcount, ?_⟩
      simp [List.filterMap_cons, PipeEvent.position?, hpositions, List.range'_succ]
  | forwarded hforward hinner hreached ih =>
      obtain ⟨count, hcount, hpositions⟩ := ih
      refine ⟨count + 1, Nat.succ_le_succ hcount, ?_⟩
      simp [List.filterMap_cons, PipeEvent.position?, hpositions, List.range'_succ]

/-- No position is entered before the pipes in front of it are settled. -/
theorem settled_of_entered
    (hpassage : Passage forgiving destination pipes index payload trace outcome)
    {front back : List (PipeEvent α)} {position : Nat} {given : α}
    (hsplit : trace = front ++ .entered position given :: back) {other : Nat}
    (hfrom : index ≤ other) (hbefore : other < position) : Settled forgiving front other := by
  have hstart {own : Nat} {payload : α} (hown : own ≤ other) :
      PipeEvent.entered own payload ≠ .entered position given := by
    rintro ⟨⟩
    omega
  induction hpassage generalizing front back with
  | delivered =>
      obtain ⟨more, -, hmore⟩ := exists_split_of_ne (hstart hfrom) hsplit
      simp at hmore
  | answered =>
      obtain ⟨more, -, hmore⟩ := exists_split_of_ne (hstart hfrom) hsplit
      obtain ⟨inside, -, hinside⟩ := exists_split_of_ne (by simp) hmore
      simp at hinside
  | passedOver hanswer hover htail ih =>
      obtain ⟨more, rfl, hmore⟩ := exists_split_of_ne (hstart hfrom) hsplit
      obtain ⟨inside, rfl, hinside⟩ := exists_split_of_ne (by simp) hmore
      rcases Nat.eq_or_lt_of_le hfrom with rfl | hbehind
      · exact settled_of_returned (List.mem_cons_of_mem _ List.mem_cons_self) hover
      · apply (ih hinside hbehind).mono
        intro event hevent
        simp [hevent]
  | @forwarded pipe rest index reached payload passed resume downstream inner hforward hinner
      hreached ih =>
      obtain ⟨more, rfl, hmore⟩ := exists_split_of_ne (hstart hfrom) hsplit
      obtain ⟨inside, rfl, hinside⟩ := exists_split_of_ne (by simp) hmore
      rcases Nat.eq_or_lt_of_le hfrom with rfl | hbehind
      · exact .inl ⟨passed, by simp⟩
      · rcases concat_eq_split hinside with ⟨shorter, -, hown⟩ | ⟨-, hlast, -⟩
        · apply (ih hown hbehind).mono
          intro event hevent
          simp [hevent]
        · cases hlast

/-- A return tells whether the pipe forwarded, and a pipe is passed over with its input. -/
theorem returns (hpassage : Passage forgiving destination pipes index payload trace outcome)
    {front back : List (PipeEvent α)} {position reached : Nat} {answer : Except Fault α}
    (hsplit : trace = front ++ .returned position reached answer :: back) :
    Returns forgiving front back position reached answer := by
  have hbehind {own : Nat} {events inside later : List (PipeEvent α)}
      (hindex : ∀ event ∈ events, own + 1 ≤ event.index)
      (hinside : events = inside ++ .returned position reached answer :: later) :
      own < position := by
    exact hindex (.returned position reached answer) (by rw [hinside]; simp)
  induction hpassage generalizing front back with
  | delivered =>
      obtain ⟨more, -, hmore⟩ := exists_split_of_ne (by simp) hsplit
      simp at hmore
  | answered hanswer hstops =>
      obtain ⟨more, rfl, hmore⟩ := exists_split_of_ne (by simp) hsplit
      rcases List.cons_eq_append_iff.mp hmore with ⟨rfl, hsame⟩ | ⟨inside, rfl, hinside⟩
      · cases hsame
        exact ⟨by simp, by simp [hstops]⟩
      · simp at hinside
  | @passedOver pipe rest index payload failure outcome tail hanswer hover htail ih =>
      obtain ⟨more, rfl, hmore⟩ := exists_split_of_ne (by simp) hsplit
      rcases List.cons_eq_append_iff.mp hmore with ⟨rfl, hsame⟩ | ⟨inside, rfl, hinside⟩
      · cases hsame
        exact ⟨by simp, fun resumed => by simp [htail.entered_iff, hover]⟩
      · have hposition := hbehind htail.index_le hinside
        simpa using (ih hinside).frame
          [.entered index payload, .returned index index failure] []
          (by simp [PipeEvent.index, hposition]) (by simp)
  | @forwarded pipe rest index reached' payload passed resume downstream inner hforward hinner
      hreached ih =>
      obtain ⟨more, rfl, hmore⟩ := exists_split_of_ne (by simp) hsplit
      obtain ⟨inside, rfl, hinside⟩ := exists_split_of_ne (by simp) hmore
      rcases concat_eq_split hinside with ⟨shorter, rfl, hown⟩ | ⟨rfl, hlast, rfl⟩
      · have hposition := hbehind hinner.index_le hown
        simpa using (ih hown).frame
          [.entered index payload, .forwarded index passed]
          [.returned index reached' (resume downstream)]
          (by simp [PipeEvent.index, hposition]) (by simp [PipeEvent.index, hposition])
      · cases hlast
        have hforwarded : .forwarded position passed ∈
            PipeEvent.entered position payload :: .forwarded position passed :: inside :=
          List.mem_cons_of_mem _ List.mem_cons_self
        refine ⟨by simp [hreached], fun resumed => ⟨fun hentered => ?_, fun hresumed => ?_⟩⟩
        · cases hentered
        · exact absurd hforwarded (hresumed.2.1 passed)

end Passage

/-! ## The whole run -/

def events (pipeline : Pipeline α) (destination : α → Except Fault α) : List (PipeEvent α) :=
  (traced pipeline.continueOnFailure destination pipeline.pipes 0 pipeline.payload .start).1

variable (pipeline : Pipeline α) (destination : α → Except Fault α)

/-- A run passes its pipes from the first on, and what arrives are its events. -/
theorem run_passage :
    ∃ outcome, Passage pipeline.continueOnFailure destination pipeline.pipes 0 pipeline.payload
        (pipeline.events destination) outcome ∧
      (pipeline.run destination).arrivals =
        (pipeline.events destination).filterMap (PipeEvent.arrival? pipeline.pipes.length) := by
  have hstart : (Progress.start : Progress α).reached ≤ 0 := Nat.le_refl 0
  obtain ⟨hpassage, -, harrivals⟩ := passage_traced hstart rfl
  refine ⟨_, hpassage, ?_⟩
  rw [run, ← traced_snd]
  simpa [Progress.start, events] using harrivals

/-- Where the payloads of a run arrived is where its events say. -/
theorem map_position_filterMap {pipes count : Nat} {trace : List (PipeEvent α)}
    (hpositions : trace.filterMap PipeEvent.position? = List.range' 0 count)
    (hcount : count ≤ pipes + 1) :
    (trace.filterMap (PipeEvent.arrival? pipes)).map (Arrival.position pipes) =
      List.range count := by
  have hinside : ∀ position ∈ trace.filterMap PipeEvent.position?, position ≤ pipes := by
    intro position hposition
    rw [hpositions, List.mem_range'_1] at hposition
    omega
  rw [List.range_eq_range', ← hpositions, List.map_filterMap]
  apply List.filterMap_congr
  intro event hevent
  cases event with
  | forwarded => rfl
  | returned => rfl
  | entered index payload =>
      have hindex : index ≤ pipes :=
        hinside index (List.mem_filterMap.mpr ⟨_, hevent, rfl⟩)
      simp only [PipeEvent.arrival?, PipeEvent.position?, Option.map_some, Option.some.injEq]
      split
      · rfl
      · exact (Nat.le_antisymm hindex (Nat.le_of_not_lt ‹_›)).symm

variable {outcome : Except PipelineError α}

theorem length_hookCalls_le : (pipeline.hookCalls outcome).length ≤ 1 := by
  cases outcome <;> simp only [hookCalls] <;> split <;> simp

/-- The hook for success is called with the result, if there is one of each. -/
theorem succeeded_mem_hookCalls {result : α} :
    .succeeded result ∈ pipeline.hookCalls outcome ↔
      pipeline.successHook = true ∧ outcome = .ok result := by
  cases outcome with
  | ok payload => cases hhook : pipeline.successHook <;> simp [hookCalls, hhook, eq_comm]
  | error error => cases hhook : pipeline.failureHook <;> simp [hookCalls, hhook]

theorem failed_mem_hookCalls {error : PipelineError} :
    .failed error ∈ pipeline.hookCalls outcome ↔
      pipeline.failureHook = true ∧ outcome = .error error := by
  cases outcome with
  | ok payload => cases hhook : pipeline.successHook <;> simp [hookCalls, hhook]
  | error error => cases hhook : pipeline.failureHook <;> simp [hookCalls, hhook, eq_comm]

/-- Payloads arrive at the positions one after the other, the destination's last, and never
twice; every pipe in front of an entered position is settled; a pipe's return tells whether it
forwarded and whether it is passed over; and the hook that is installed for the outcome fires
once, with it. -/
theorem run_is_linear :
    let run := pipeline.run destination
    let events := pipeline.events destination
    (traced pipeline.continueOnFailure destination pipeline.pipes 0 pipeline.payload .start).2 =
        forward pipeline.continueOnFailure destination pipeline.pipes 0 pipeline.payload .start ∧
      run.arrivals = events.filterMap (PipeEvent.arrival? pipeline.pipes.length) ∧
      (∃ count ≤ pipeline.pipes.length + 1,
        run.arrivals.map (Arrival.position pipeline.pipes.length) = List.range count) ∧
      (∀ front position payload back, events = front ++ .entered position payload :: back →
        ∀ other < position, Settled pipeline.continueOnFailure front other) ∧
      (∀ front index reached outcome back,
        events = front ++ .returned index reached outcome :: back →
          Returns pipeline.continueOnFailure front back index reached outcome) ∧
      run.hooks.length ≤ 1 ∧
      (∀ result, .succeeded result ∈ run.hooks ↔
        pipeline.successHook = true ∧ run.outcome = .ok result) ∧
      (∀ error, .failed error ∈ run.hooks ↔
        pipeline.failureHook = true ∧ run.outcome = .error error) := by
  obtain ⟨outcome, hpassage, harrivals⟩ := run_passage pipeline destination
  obtain ⟨count, hcount, hpositions⟩ := hpassage.positions
  refine ⟨traced_snd .., harrivals, ⟨count, hcount, ?_⟩, ?_, ?_, length_hookCalls_le pipeline,
    fun _ => succeeded_mem_hookCalls pipeline, fun _ => failed_mem_hookCalls pipeline⟩
  · rw [harrivals]
    exact map_position_filterMap hpositions hcount
  · intro front position payload back hsplit other hother
    exact hpassage.settled_of_entered hsplit (Nat.zero_le other) hother
  · intro front index reached outcome back hsplit
    exact hpassage.returns hsplit

end Pipeline
end Plugboard
