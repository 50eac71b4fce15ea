import Plugboard.Proofs.Circuit.Automaton

/-!
# When a handler is kept from running

A handler is kept from running exactly while the latest opening of its circuit is not older
than the timeout and nobody closed or reset the circuit since.  What is heard meanwhile
does not move the end of that time, and only enough successful probes close the circuit
without a hand.
-/

namespace Plugboard

namespace CircuitHistory

variable {settings : CircuitSettings} {handler : HandlerId} {now : UInt64}
  {earlier history : CircuitHistory} {report : CircuitReport} {phase : CircuitPhase}

/-- What a history says of the circuit in a phase. -/
inductive Tells (settings : CircuitSettings) (handler : HandlerId) (now : UInt64)
    (history : CircuitHistory) : CircuitPhase → Prop where
  | closed {failures : Nat} (hbelow : failures < settings.threshold.toNat)
      (hfailures : history.failuresSinceClosed settings handler = failures)
      (hover : ∀ since, history.openedAt settings handler = some since →
        settings.blackout ≤ now.toNat - since) :
      Tells settings handler now history (.closed failures)
  | opened {since probes : Nat} (hopened : history.openedAt settings handler = some since)
      (hprobes : history.probesSinceOpened settings handler = probes) :
      Tells settings handler now history (.opened since probes)

/-- What is told of a circuit stays true as time passes. -/
theorem Tells.mono {later : UInt64} (htells : history.Tells settings handler now phase)
    (hlater : now ≤ later) : history.Tells settings handler later phase := by
  have htime := UInt64.le_iff_toNat_le.mp hlater
  cases htells with
  | closed hbelow hfailures hover =>
      apply Tells.closed hbelow hfailures
      intro since hsince
      have hbefore := hover since hsince
      omega
  | opened hopened hprobes => exact .opened hopened hprobes

/-- A report that opens the circuit starts everything afresh. -/
theorem tells_of_opens (hopens : Opens settings handler earlier report) :
    Tells settings handler now (report :: earlier) (.opened report.time.toNat 0) := by
  apply Tells.opened
  · rw [openedAt, if_pos hopens]
  · rw [probesSinceOpened, if_pos hopens]

/-- A closed circuit is left alone by what is no failure of its handler. -/
theorem tells_closed_of_quiet {failures : Nat}
    (htells : earlier.Tells settings handler now (.closed failures))
    (hopens : ¬ Opens settings handler earlier report)
    (hcloses : ¬ Closes settings handler earlier report)
    (hquiet : ¬ (report.handler = handler ∧ report.signal = .failure)) :
    Tells settings handler now (report :: earlier) (.closed failures) := by
  have hhand : ¬ (report.handler = handler ∧
      (report.signal = .closing ∨ report.signal = .reset)) := by
    rintro ⟨hself, hsignal⟩
    exact hcloses ⟨hself, hsignal.imp_right .inl⟩
  cases htells with
  | closed hbelow hfailures hover =>
      apply Tells.closed hbelow
      · rw [failuresSinceClosed, if_neg hcloses, if_neg hquiet, hfailures]
      · rw [openedAt, if_neg hopens, if_neg hhand]
        exact hover

/-- An open circuit is left alone by what is no probe of its handler. -/
theorem tells_opened_of_quiet {since probes : Nat}
    (htells : earlier.Tells settings handler now (.opened since probes))
    (hopens : ¬ Opens settings handler earlier report)
    (hhand : ¬ (report.handler = handler ∧
      (report.signal = .closing ∨ report.signal = .reset)))
    (hquiet : ¬ (report.handler = handler ∧ report.signal = .success ∧
      stateBefore settings handler earlier report = .halfOpen)) :
    Tells settings handler now (report :: earlier) (.opened since probes) := by
  cases htells with
  | opened hopened hprobes =>
      apply Tells.opened
      · rw [openedAt, if_neg hopens, if_neg hhand, hopened]
      · rw [probesSinceOpened, if_neg hopens, if_neg hquiet, hprobes]

/-- A report about another handler says nothing. -/
theorem Tells.other (htells : earlier.Tells settings handler now phase)
    (hother : report.handler ≠ handler) :
    Tells settings handler now (report :: earlier) phase := by
  have hopens : ¬ Opens settings handler earlier report := fun hopens => hother hopens.1
  cases phase with
  | closed failures =>
      exact tells_closed_of_quiet htells hopens (fun hcloses => hother hcloses.1)
        (fun hfailure => hother hfailure.1)
  | opened since probes =>
      exact tells_opened_of_quiet htells hopens (fun hhand => hother hhand.1)
        (fun hprobe => hother hprobe.1)

section

variable {time : UInt64} {failures since probes : Nat}

/-- A failure that finds the circuit closed is one more since it closed. -/
theorem tells_failure_closed
    (hbefore : stateBefore settings handler earlier ⟨time, handler, .failure⟩ = .closed)
    (htells : earlier.Tells settings handler time (.closed failures)) :
    Tells settings handler time (⟨time, handler, .failure⟩ :: earlier)
      ((CircuitPhase.closed failures).next settings time.toNat .failure) := by
  cases htells with
  | closed hbelow hfailures hover =>
      rw [CircuitPhase.next]
      split
      · rename_i hreached
        have hcount : earlier.failuresSinceClosed settings handler + 1 =
            settings.threshold.toNat := by omega
        exact tells_of_opens ⟨rfl, .inr (.inr ⟨rfl, hbefore, hcount⟩)⟩
      · rename_i hmissing
        have hopens : ¬ Opens settings handler earlier ⟨time, handler, .failure⟩ := by
          rintro ⟨-, hopening | ⟨-, hprobe⟩ | ⟨-, -, hreached⟩⟩
          · cases hopening
          · rw [hbefore] at hprobe
            cases hprobe
          · omega
        have hcloses : ¬ Closes settings handler earlier ⟨time, handler, .failure⟩ := by
          simp [Closes, hbefore]
        apply Tells.closed (Nat.not_le.mp hmissing)
        · simp [failuresSinceClosed, hcloses, hfailures]
        · simpa [openedAt, hopens] using hover

/-- A failure that comes after the circuit has opened: within the timeout it changes nothing. -/
theorem tells_failure_opened
    (hbefore : stateBefore settings handler earlier ⟨time, handler, .failure⟩ =
      (CircuitPhase.opened since probes).stateAt settings time.toNat)
    (htells : earlier.Tells settings handler time (.opened since probes)) :
    Tells settings handler time (⟨time, handler, .failure⟩ :: earlier)
      ((CircuitPhase.opened since probes).next settings time.toNat .failure) := by
  rw [CircuitPhase.stateAt] at hbefore
  rw [CircuitPhase.next]
  split
  · rename_i hwithin
    rw [if_pos hwithin] at hbefore
    apply tells_opened_of_quiet htells
    · simp [Opens, hbefore]
    · simp
    · simp
  · rename_i hover
    rw [if_neg hover] at hbefore
    exact tells_of_opens ⟨rfl, .inr (.inl ⟨rfl, hbefore⟩)⟩

theorem tells_success_closed
    (hbefore : stateBefore settings handler earlier ⟨time, handler, .success⟩ = .closed)
    (htells : earlier.Tells settings handler time (.closed failures)) :
    Tells settings handler time (⟨time, handler, .success⟩ :: earlier) (.closed failures) := by
  apply tells_closed_of_quiet htells
  · simp [Opens]
  · simp [Closes, hbefore]
  · simp

theorem tells_success_opened (hphase : earlier.phase settings handler = .opened since probes)
    (hthreshold : 1 ≤ settings.threshold.toNat)
    (hbefore : stateBefore settings handler earlier ⟨time, handler, .success⟩ =
      (CircuitPhase.opened since probes).stateAt settings time.toNat)
    (htells : earlier.Tells settings handler time (.opened since probes)) :
    Tells settings handler time (⟨time, handler, .success⟩ :: earlier)
      ((CircuitPhase.opened since probes).next settings time.toNat .success) := by
  have hopens : ¬ Opens settings handler earlier ⟨time, handler, .success⟩ := by simp [Opens]
  have hhand : ¬ (handler = handler ∧
      (CircuitSignal.success = .closing ∨ CircuitSignal.success = .reset)) := by simp
  rw [CircuitPhase.stateAt] at hbefore
  rw [CircuitPhase.next]
  split
  · rename_i hwithin
    rw [if_pos hwithin] at hbefore
    exact tells_opened_of_quiet htells hopens hhand (by simp [hbefore])
  · rename_i hover
    rw [if_neg hover] at hbefore
    cases htells with
    | opened hopened hprobes =>
        split
        · rename_i hlast
          have hafter : stateAfter settings handler earlier ⟨time, handler, .success⟩ =
              .closed := by
            simp [stateAfter, phase, hphase, CircuitPhase.next, hover, hlast,
              CircuitPhase.stateAt]
          have hcloses : Closes settings handler earlier ⟨time, handler, .success⟩ :=
            ⟨rfl, .inr (.inr ⟨hbefore, hafter⟩)⟩
          apply Tells.closed hthreshold
          · rw [failuresSinceClosed, if_pos hcloses]
          · rw [openedAt, if_neg hopens, if_neg hhand, hopened]
            intro other hother
            rw [← Option.some.inj hother]
            exact Nat.not_lt.mp hover
        · apply Tells.opened
          · rw [openedAt, if_neg hopens, if_neg hhand, hopened]
          · rw [probesSinceOpened, if_neg hopens, if_pos ⟨rfl, rfl, hbefore⟩, hprobes]

/-- A history with one more report tells of the phase after the report. -/
theorem Tells.next (htells : earlier.Tells settings handler time phase)
    (hphase : earlier.phase settings handler = phase) (hthreshold : 1 ≤ settings.threshold.toNat)
    (signal : CircuitSignal) :
    Tells settings handler time (⟨time, handler, signal⟩ :: earlier)
      (phase.next settings time.toNat signal) := by
  have hbefore : stateBefore settings handler earlier ⟨time, handler, signal⟩ =
      phase.stateAt settings time.toNat := by rw [stateBefore, hphase]
  cases signal with
  | opening => exact tells_of_opens ⟨rfl, .inl rfl⟩
  | closing | reset =>
      apply Tells.closed hthreshold
      · simp [failuresSinceClosed, Closes]
      · simp [openedAt, Opens]
  | failure =>
      cases phase with
      | closed failures => exact tells_failure_closed hbefore htells
      | opened since probes => exact tells_failure_opened hbefore htells
  | success =>
      cases phase with
      | closed failures => exact tells_success_closed hbefore htells
      | opened since probes => exact tells_success_opened hphase hthreshold hbefore htells

end

/-- Every history in order tells of the phase that it leads to. -/
theorem tells_phase (hthreshold : 1 ≤ settings.threshold.toNat) (handler : HandlerId)
    (horder : history.InOrder now) :
    history.Tells settings handler now (history.phase settings handler) := by
  induction history generalizing now with
  | nil => exact .closed hthreshold rfl (by simp [openedAt])
  | cons report earlier ih =>
      obtain ⟨hreport, hearlier⟩ := horder
      have hbefore := ih hearlier
      rw [phase]
      split
      · rename_i hself
        subst hself
        exact (hbefore.next rfl hthreshold report.signal).mono hreport
      · rename_i hother
        exact (hbefore.other hother).mono hreport

/-- A circuit lets nothing run while its latest opening is recent, and only then. -/
theorem Tells.stateAt_eq_opened_iff (htells : history.Tells settings handler now phase) :
    phase.stateAt settings now.toNat = .opened ↔
      ∃ since, history.openedAt settings handler = some since ∧
        now.toNat - since < settings.blackout := by
  cases htells with
  | closed hbelow hfailures hover =>
      constructor
      · intro hopened
        cases hopened
      · rintro ⟨since, hsince, hwithin⟩
        have hlong := hover since hsince
        omega
  | opened hopened hprobes => simp [CircuitPhase.stateAt, hopened]

/-- Without a hand, only the last probe that was missing closes a circuit. -/
theorem Tells.stateAt_next_eq_closed_iff (htells : history.Tells settings handler now phase)
    (hmissing : ∀ since probes, phase = .opened since probes →
      probes < settings.halfOpenMax.toNat)
    {signal : CircuitSignal} (hclosing : signal ≠ .closing) (hreset : signal ≠ .reset)
    (hopen : phase.stateAt settings now.toNat ≠ .closed) :
    (phase.next settings now.toNat signal).stateAt settings now.toNat = .closed ↔
      signal = .success ∧ phase.stateAt settings now.toNat = .halfOpen ∧
        history.probesSinceOpened settings handler + 1 = settings.halfOpenMax.toNat := by
  cases htells with
  | closed => exact absurd rfl hopen
  | @opened since probes hopened hprobes =>
      have hbelow := hmissing since probes rfl
      rw [hprobes]
      cases signal with
      | opening => simp [CircuitPhase.next]
      | closing => exact absurd rfl hclosing
      | reset => exact absurd rfl hreset
      | failure =>
          rw [CircuitPhase.next]
          split <;> simp
      | success =>
          rw [CircuitPhase.next]
          split
          · rename_i hwithin
            simp [Nat.not_le.mpr hwithin]
          · rename_i hover
            split
            · rename_i hlast
              have hcount : probes + 1 = settings.halfOpenMax.toNat := by omega
              simp [CircuitPhase.stateAt, hover, hcount]
            · rename_i hmore
              have hcount : probes + 1 ≠ settings.halfOpenMax.toNat := by omega
              simp [hcount]

end CircuitHistory

namespace Breaker

variable {settings : CircuitSettings} {handler : HandlerId} {now later : UInt64}
  {history : CircuitHistory}

/-- Whether a handler may run is told by the phase of its circuit. -/
theorem isAvailable_after (hworks : settings.Works) (handler : HandlerId)
    (horder : history.InOrder now) :
    (after settings history).isAvailable now handler =
      ((history.phase settings handler).stateAt settings now.toNat != .opened) := by
  rw [isAvailable, settings_after, hworks.enabled, state_after hworks handler horder]
  rfl

theorem phase_cons_self (settings : CircuitSettings) (handler : HandlerId) (now : UInt64)
    (signal : CircuitSignal) (history : CircuitHistory) :
    CircuitHistory.phase settings handler (⟨now, handler, signal⟩ :: history) =
      (history.phase settings handler).next settings now.toNat signal :=
  if_pos rfl

/-- What is heard of an open circuit does not move the end of its blackout. -/
theorem isAvailable_hear_of_opened (hworks : settings.Works) (horder : history.InOrder now)
    {signal : CircuitSignal} (hsignal : signal = .failure ∨ signal = .success)
    (hopened : ((after settings history).effective now handler).state = .opened)
    (hlater : now ≤ later) :
    ((after settings history).hear ⟨now, handler, signal⟩).isAvailable later handler =
      (after settings history).isAvailable later handler := by
  have hheard : CircuitHistory.InOrder later (⟨now, handler, signal⟩ :: history) :=
    ⟨hlater, horder⟩
  rw [state_after hworks handler horder] at hopened
  have hafter := isAvailable_after hworks handler hheard
  rw [phase_cons_self, CircuitPhase.next_eq_self hsignal hopened] at hafter
  rw [isAvailable_after hworks handler (horder.mono hlater)]
  exact hafter

/-- A circuit that closes without a hand has forgotten its failures. -/
theorem effective_hear_eq_unused (hworks : settings.Works) (horder : history.InOrder now)
    {signal : CircuitSignal}
    (hopen : ((after settings history).effective now handler).state ≠ .closed)
    (hclosed : (((after settings history).hear ⟨now, handler, signal⟩).effective now
      handler).state = .closed) :
    ((after settings history).hear ⟨now, handler, signal⟩).effective now handler = .unused := by
  have hheard : CircuitHistory.InOrder now (⟨now, handler, signal⟩ :: history) :=
    ⟨UInt64.le_refl now, horder⟩
  have hshows := shows_after hworks handler hheard
  have hstate := state_after hworks handler hheard
  rw [phase_cons_self] at hshows hstate
  rw [after, hclosed] at hstate
  rw [state_after hworks handler horder] at hopen
  have hfresh := CircuitPhase.next_eq_closed_zero hopen hstate.symm
  rw [hfresh] at hshows
  rw [after] at hshows
  rw [effective_eq_readAt, hshows.eq_unused]
  rfl

/-- A breaker that began without circuits and was told of them in order of time sees every
circuit in the state that its history says.  It keeps a handler from running exactly while
the latest opening of its circuit is younger than the timeout and nobody closed or reset it
since; failures and successes of an open circuit do not change that.  A circuit closes
without a hand exactly with the last missing success among those that found it half open
since it opened last, and then has no failures.  What is heard of one handler leaves the
circuits of the others alone. -/
theorem circuits_follow_history {settings : CircuitSettings} (hworks : settings.Works)
    (handler : HandlerId) {history : CircuitHistory} {now : UInt64} (horder : history.InOrder now) :
    let breaker := after settings history
    (breaker.effective now handler).state =
        (history.phase settings handler).stateAt settings now.toNat ∧
      (breaker.isAvailable now handler = false ↔
        ∃ since, history.openedAt settings handler = some since ∧
          now.toNat - since < settings.blackout) ∧
      ((breaker.effective now handler).state = .opened →
        ∀ signal, signal = .failure ∨ signal = .success → ∀ later, now ≤ later →
          (breaker.hear ⟨now, handler, signal⟩).isAvailable later handler =
            breaker.isAvailable later handler) ∧
      ((breaker.effective now handler).state ≠ .closed →
        ∀ signal, signal ≠ .closing → signal ≠ .reset →
          let heard := breaker.hear ⟨now, handler, signal⟩
          ((heard.effective now handler).state = .closed ↔
            signal = .success ∧ (breaker.effective now handler).state = .halfOpen ∧
              history.probesSinceOpened settings handler + 1 = settings.halfOpenMax.toNat) ∧
          ((heard.effective now handler).state = .closed →
            (heard.effective now handler).failureCount = 0)) ∧
      (∀ report : CircuitReport, handler ≠ report.handler → ∀ time,
        (breaker.hear report).effective time handler = breaker.effective time handler) := by
  intro breaker
  have hstate := state_after hworks handler horder
  have htells := CircuitHistory.tells_phase hworks.threshold handler horder
  refine ⟨hstate, ?available, ?blackout, ?closing, ?others⟩
  case available =>
    rw [← htells.stateAt_eq_opened_iff, isAvailable_after hworks handler horder]
    simp
  case blackout =>
    intro hopened signal hsignal later hlater
    exact isAvailable_hear_of_opened hworks horder hsignal hopened hlater
  case closing =>
    intro hopen signal hclosing hreset heard
    constructor
    · have hheard : CircuitHistory.InOrder now (⟨now, handler, signal⟩ :: history) :=
        ⟨UInt64.le_refl now, horder⟩
      have hafter := state_after hworks handler hheard
      rw [phase_cons_self, after] at hafter
      have hmissing : ∀ since probes, history.phase settings handler = .opened since probes →
          probes < settings.halfOpenMax.toNat := by
        intro since probes hphase
        have hshows := shows_after hworks handler horder
        rw [hphase] at hshows
        exact hshows.probes_lt hworks
      rw [hafter, hstate]
      rw [hstate] at hopen
      exact htells.stateAt_next_eq_closed_iff hmissing hclosing hreset hopen
    · intro hclosed
      rw [effective_hear_eq_unused hworks horder hopen hclosed]
      rfl
  case others =>
    intro report hother time
    exact effective_hear_of_ne hother breaker time

namespace Sample

def limits : CircuitSettings := ⟨true, 2, 30, 2⟩

def reports : CircuitHistory :=
  [⟨40000, "mail", .success⟩, ⟨20000, "mail", .failure⟩, ⟨10000, "mail", .failure⟩,
    ⟨5000, "mail", .success⟩, ⟨0, "mail", .failure⟩]

end Sample

/-- The blackout after the second failure is over, and the second probe closes the circuit. -/
theorem circuits_follow_history_of_sample :
    Sample.limits.Works ∧ Sample.reports.InOrder 45000 ∧
      let breaker := after Sample.limits Sample.reports
      breaker.isAvailable 45000 "mail" = true ∧
        ((breaker.hear ⟨45000, "mail", .success⟩).effective 45000 "mail").state = .closed := by
  have hworks : Sample.limits.Works := ⟨rfl, by decide, by decide, by decide⟩
  have horder : Sample.reports.InOrder 45000 := by decide
  obtain ⟨-, havailable, -, hclosing, -⟩ := circuits_follow_history hworks "mail" horder
  refine ⟨hworks, horder, ?_, ?_⟩
  · rw [← Bool.not_eq_false, havailable]
    decide
  · have hopen : ((after Sample.limits Sample.reports).effective 45000 "mail").state ≠ .closed := by
      decide
    apply (hclosing hopen .success (by decide) (by decide)).1.mpr
    decide

end Breaker
end Plugboard
