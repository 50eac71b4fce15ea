import Plugboard.Proofs.Circuit.History

/-!
# The breaker keeps the phases of its history

A stored circuit stays open until somebody writes it, however long ago its timeout ended,
and turns half open only in the record that the next success leaves.  So a record and the
phase that it stands for are related at a time, and stay related as time goes on.
-/

namespace Plugboard

variable {settings : CircuitSettings} {now : UInt64} {record : CircuitRecord}
  {phase : CircuitPhase}

/-- Settings with which a breaker works: it is enabled, both limits are positive, and the
timeout fits into a word of milliseconds. -/
structure CircuitSettings.Works (settings : CircuitSettings) : Prop where
  enabled : settings.enabled = true
  threshold : 1 ≤ settings.threshold.toNat
  probes : 1 ≤ settings.halfOpenMax.toNat
  timeout : settings.timeoutSecs.toNat * 1000 < Nat.pow 2 64

/-- With working settings the timeout is not cut off where it is counted in milliseconds. -/
theorem CircuitSettings.Works.timeoutMillis_eq (hworks : settings.Works) :
    (Breaker.timeoutMillis settings).toNat = settings.blackout :=
  Nat.mod_eq_of_lt hworks.timeout

namespace CircuitRecord

/-- A record stands for a phase, as seen at a time. -/
inductive Shows (settings : CircuitSettings) (now : UInt64) :
    CircuitRecord → CircuitPhase → Prop where
  | closed {count : UInt32} (hbelow : count.toNat < settings.threshold.toNat) :
      Shows settings now ⟨.closed, count, none, 0⟩ (.closed count.toNat)
  | opened {count : UInt32} {since : UInt64} :
      Shows settings now ⟨.opened, count, some since, 0⟩ (.opened since.toNat 0)
  | probed {count probes : UInt32} {since : UInt64}
      (hover : settings.blackout ≤ now.toNat - since.toNat)
      (hbelow : probes.toNat < settings.halfOpenMax.toNat) :
      Shows settings now ⟨.halfOpen, count, some since, probes⟩ (.opened since.toNat probes.toNat)

/-- A handler of which nothing was heard has a closed circuit. -/
theorem shows_unused (hworks : settings.Works) : unused.Shows settings now (.closed 0) :=
  .closed hworks.threshold

/-- Time does not change what a record stands for. -/
theorem Shows.mono {later : UInt64} (hshows : record.Shows settings now phase)
    (hlater : now ≤ later) : record.Shows settings later phase := by
  cases hshows with
  | closed hbelow => exact .closed hbelow
  | opened => exact .opened
  | probed hover hbelow =>
      have htime := UInt64.le_iff_toNat_le.mp hlater
      exact .probed (by omega) hbelow

def readAt (settings : CircuitSettings) (now : UInt64) (record : CircuitRecord) : CircuitRecord :=
  if record.state = .opened ∧ Breaker.timeoutElapsed settings now record then
    { record with state := .halfOpen }
  else record

/-- Until the timeout is over the record of an open circuit is read as it is stored. -/
theorem readAt_opened_within (hworks : settings.Works) {count probes : UInt32} {since : UInt64}
    (hwithin : now.toNat - since.toNat < settings.blackout) :
    readAt settings now ⟨.opened, count, some since, probes⟩ =
      ⟨.opened, count, some since, probes⟩ := by
  simp [readAt, Breaker.timeoutElapsed, hworks.timeoutMillis_eq, Nat.not_le.mpr hwithin]

/-- Once the timeout is over an open circuit is read as half open. -/
theorem readAt_opened_over (hworks : settings.Works) {count probes : UInt32} {since : UInt64}
    (hover : ¬ now.toNat - since.toNat < settings.blackout) :
    readAt settings now ⟨.opened, count, some since, probes⟩ =
      ⟨.halfOpen, count, some since, probes⟩ := by
  simp [readAt, Breaker.timeoutElapsed, hworks.timeoutMillis_eq, Nat.not_lt.mp hover]

theorem readAt_halfOpen {count probes : UInt32} {since : Option UInt64} :
    readAt settings now ⟨.halfOpen, count, since, probes⟩ = ⟨.halfOpen, count, since, probes⟩ :=
  rfl

/-- A record is read as the state of its phase. -/
theorem Shows.state_readAt (hworks : settings.Works) (hshows : record.Shows settings now phase) :
    (readAt settings now record).state = phase.stateAt settings now.toNat := by
  cases hshows with
  | closed => rfl
  | @opened count since =>
      rw [CircuitPhase.stateAt]
      split
      · rename_i hwithin
        rw [readAt_opened_within hworks hwithin]
      · rename_i hover
        rw [readAt_opened_over hworks hover]
  | probed hover =>
      rw [readAt_halfOpen, CircuitPhase.stateAt, if_neg (Nat.not_lt.mpr hover)]

/-- The last of the probes that are asked for closes the circuit, so an open one still lacks some.
-/
theorem Shows.probes_lt (hworks : settings.Works) {since probes : Nat}
    (hshows : record.Shows settings now (.opened since probes)) :
    probes < settings.halfOpenMax.toNat := by
  cases hshows with
  | opened => exact hworks.probes
  | probed hover hbelow => exact hbelow

/-- A closed circuit without failures is as good as new. -/
theorem Shows.eq_unused (hshows : record.Shows settings now (.closed 0)) : record = .unused := by
  generalize hcount : 0 = failures at hshows
  cases hshows with
  | @closed count hbelow =>
      obtain rfl : (0 : UInt32) = count := UInt32.toNat_inj.mp hcount
      rfl

def hear (settings : CircuitSettings) (now : UInt64) (record : CircuitRecord) :
    CircuitSignal → CircuitRecord
  | .failure => Breaker.afterFailure settings now (readAt settings now record)
  | .success =>
      if (readAt settings now record).state = .halfOpen then
        Breaker.afterProbe settings (readAt settings now record)
      else record
  | .opening => record.trip now
  | .closing | .reset => unused

/-- A count below a limit of 32 bits has room for one more. -/
theorem toNat_add_one {count limit : UInt32} (hbelow : count.toNat < limit.toNat) :
    (count + 1).toNat = count.toNat + 1 := by
  rw [UInt32.toNat_add]
  exact Nat.mod_eq_of_lt (Nat.lt_of_le_of_lt hbelow limit.toNat_lt)

theorem countFailure_eq {limit : UInt32} (hbelow : record.failureCount.toNat < limit.toNat) :
    record.countFailure = { record with failureCount := record.failureCount + 1 } := by
  have hroom : record.failureCount.toNat + 1 < Nat.pow 2 32 :=
    Nat.lt_of_le_of_lt hbelow limit.toNat_lt
  rw [countFailure, if_pos hroom]

/-- A failure that finds the circuit closed counts, and opens it at the threshold. -/
theorem shows_afterFailure_closed {count : UInt32}
    (hbelow : count.toNat < settings.threshold.toNat) :
    (Breaker.afterFailure settings now ⟨.closed, count, none, 0⟩).Shows settings now
      ((CircuitPhase.closed count.toNat).next settings now.toNat .failure) := by
  have hcounted : countFailure ⟨.closed, count, none, 0⟩ = ⟨.closed, count + 1, none, 0⟩ :=
    countFailure_eq hbelow
  have hcount := toNat_add_one hbelow
  simp only [Breaker.afterFailure, hcounted, CircuitPhase.next, UInt32.le_iff_toNat_le, hcount]
  split
  · exact .opened
  · rename_i hstill
    rw [← hcount]
    exact .closed (by omega)

/-- A success that finds the circuit half open counts, and closes it if it is the last that
was missing. -/
theorem shows_afterProbe (hworks : settings.Works) {count probes : UInt32} {since : UInt64}
    (hover : settings.blackout ≤ now.toNat - since.toNat)
    (hbelow : probes.toNat < settings.halfOpenMax.toNat) :
    (Breaker.afterProbe settings ⟨.halfOpen, count, some since, probes⟩).Shows settings now
      ((CircuitPhase.opened since.toNat probes.toNat).next settings now.toNat .success) := by
  have hprobes := toNat_add_one hbelow
  simp only [Breaker.afterProbe, countProbe, CircuitPhase.next, UInt32.le_iff_toNat_le, hprobes,
    if_neg (Nat.not_lt.mpr hover)]
  split
  · exact shows_unused hworks
  · rename_i hmissing
    rw [← hprobes]
    exact .probed hover (by omega)

/-- What the breaker makes of a record, a history makes of the phase. -/
theorem Shows.hear (hworks : settings.Works) (hshows : record.Shows settings now phase)
    (signal : CircuitSignal) :
    (record.hear settings now signal).Shows settings now
      (phase.next settings now.toNat signal) := by
  cases signal with
  | opening => exact .opened
  | closing | reset => exact shows_unused hworks
  | failure =>
      cases hshows with
      | closed hbelow => exact shows_afterFailure_closed hbelow
      | @opened count since =>
          simp only [CircuitRecord.hear, CircuitPhase.next]
          split
          · rename_i hwithin
            rw [readAt_opened_within hworks hwithin]
            exact .opened
          · rename_i hover
            rw [readAt_opened_over hworks hover]
            exact .opened
      | probed hover =>
          simp only [CircuitRecord.hear, CircuitPhase.next, if_neg (Nat.not_lt.mpr hover)]
          exact .opened
  | success =>
      cases hshows with
      | closed hbelow => exact .closed hbelow
      | @opened count since =>
          by_cases hwithin : now.toNat - since.toNat < settings.blackout
          · simp only [CircuitRecord.hear, CircuitPhase.next, readAt_opened_within hworks hwithin,
              if_pos hwithin]
            exact .opened
          · simp only [CircuitRecord.hear, readAt_opened_over hworks hwithin]
            exact shows_afterProbe hworks (Nat.not_lt.mp hwithin) hworks.probes
      | probed hover hbelow =>
          simp only [CircuitRecord.hear, readAt_halfOpen]
          exact shows_afterProbe hworks hover hbelow

end CircuitRecord

namespace Breaker

variable {breaker : Breaker} {handler : HandlerId}

/-- What a breaker tells of a circuit is the stored record, read at the time. -/
theorem effective_eq_readAt (breaker : Breaker) (now : UInt64) (handler : HandlerId) :
    breaker.effective now handler =
      (breaker.stored handler).readAt breaker.settings now := rfl

@[simp]
theorem settings_hear (breaker : Breaker) (report : CircuitReport) :
    (breaker.hear report).settings = breaker.settings := by
  obtain ⟨time, handler, signal⟩ := report
  cases signal with
  | failure =>
      simp only [hear, recordFailure]
      split <;> rfl
  | success =>
      simp only [hear, recordSuccess]
      split <;> rfl
  | opening | closing | reset => rfl

@[simp]
theorem stored_reset_self (breaker : Breaker) (handler : HandlerId) :
    (breaker.reset handler).stored handler = .unused := by
  simp [stored, reset]

/-- An enabled breaker changes the record of the handler that a report is about. -/
theorem stored_hear_self (henabled : breaker.settings.enabled = true) (report : CircuitReport) :
    (breaker.hear report).stored report.handler =
      (breaker.stored report.handler).hear breaker.settings report.time report.signal := by
  obtain ⟨time, handler, signal⟩ := report
  cases signal with
  | failure => simp [hear, recordFailure, henabled, CircuitRecord.hear, effective_eq_readAt]
  | success =>
      simp only [hear, recordSuccess, henabled, true_and, CircuitRecord.hear, effective_eq_readAt]
      split
      · exact stored_save_self breaker handler _
      · rfl
  | opening => exact stored_save_self breaker handler _
  | closing => exact stored_save_self breaker handler _
  | reset => exact stored_reset_self breaker handler

/-- What a breaker hears of one handler changes no other circuit. -/
theorem stored_hear_of_ne {report : CircuitReport} (hother : handler ≠ report.handler)
    (breaker : Breaker) : (breaker.hear report).stored handler = breaker.stored handler := by
  obtain ⟨time, about, signal⟩ := report
  cases signal with
  | failure =>
      simp only [hear, recordFailure]
      split
      · exact stored_save_of_ne hother breaker _
      · rfl
  | success =>
      simp only [hear, recordSuccess]
      split
      · exact stored_save_of_ne hother breaker _
      · rfl
  | opening => exact stored_save_of_ne hother breaker _
  | closing => exact stored_save_of_ne hother breaker _
  | reset => simp [hear, reset, stored, Table.get?_remove_of_ne hother]

/-- No report changes what is read of other handlers. -/
theorem effective_hear_of_ne {report : CircuitReport} (hother : handler ≠ report.handler)
    (breaker : Breaker) (now : UInt64) :
    (breaker.hear report).effective now handler = breaker.effective now handler := by
  rw [effective_eq_readAt, effective_eq_readAt, settings_hear, stored_hear_of_ne hother]

theorem isAvailable_hear_of_ne {report : CircuitReport} (hother : handler ≠ report.handler)
    (breaker : Breaker) (now : UInt64) :
    (breaker.hear report).isAvailable now handler = breaker.isAvailable now handler := by
  rw [isAvailable, isAvailable, settings_hear, effective_hear_of_ne hother]

/-! ## Whole histories -/

@[simp]
theorem settings_after (settings : CircuitSettings) (history : CircuitHistory) :
    (after settings history).settings = settings := by
  induction history with
  | nil => rfl
  | cons report earlier ih => rw [after, settings_hear, ih]

/-- After any history, every circuit is stored as its history says. -/
theorem shows_after (hworks : settings.Works) (handler : HandlerId) {history : CircuitHistory}
    (horder : history.InOrder now) :
    ((after settings history).stored handler).Shows settings now
      (history.phase settings handler) := by
  induction history generalizing now with
  | nil => exact CircuitRecord.shows_unused hworks
  | cons report earlier ih =>
      obtain ⟨hreport, hearlier⟩ := horder
      have hbefore := ih hearlier
      rw [after, CircuitHistory.phase]
      split
      · rename_i hself
        subst hself
        have henabled : (after settings earlier).settings.enabled = true := by
          rw [settings_after, hworks.enabled]
        rw [stored_hear_self henabled, settings_after]
        exact (hbefore.hear hworks report.signal).mono hreport
      · rename_i hother
        rw [stored_hear_of_ne (Ne.symm hother)]
        exact hbefore.mono hreport

/-- The breaker sees every circuit in the state that its history says. -/
theorem state_after (hworks : settings.Works) (handler : HandlerId) {history : CircuitHistory}
    (horder : history.InOrder now) :
    ((after settings history).effective now handler).state =
      (history.phase settings handler).stateAt settings now.toNat := by
  rw [effective_eq_readAt, settings_after]
  exact (shows_after hworks handler horder).state_readAt hworks

end Breaker
end Plugboard
