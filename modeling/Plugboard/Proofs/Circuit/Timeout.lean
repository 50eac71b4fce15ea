import Mathlib.Algebra.Group.Nat.Defs
import Plugboard.Proofs.Circuit.Automaton
import Plugboard.Settings.Validation

/-!
# How long an opened circuit stays open

The timeout is configured in seconds and compared in milliseconds, in a word of 64 bits.
Milliseconds beyond the word are cut off: a circuit stays open for the remainder of the
timeout by the size of the word.  Timeouts that fit are kept to the millisecond, whatever the
breaker hears meanwhile, and the longer of two timeouts that fit keeps the handler longer from
running; a timeout that does not fit can end at once.
-/

namespace Plugboard

variable {settings : CircuitSettings} {now since : UInt64} {record : CircuitRecord}

/-- The timeout is counted in words of milliseconds, and cut off where it does not fit. -/
theorem CircuitSettings.toNat_timeoutMillis (settings : CircuitSettings) :
    (Breaker.timeoutMillis settings).toNat = settings.blackout % 2 ^ 64 :=
  UInt64.toNat_ofNat'

namespace CircuitRecord

/-- A circuit that is stored as open since some time. -/
structure OpenSince (record : CircuitRecord) (since : UInt64) : Prop where
  state : record.state = .opened
  openedAt : record.openedAt = some since

theorem OpenSince.timeoutElapsed_iff (hopen : record.OpenSince since) :
    Breaker.timeoutElapsed settings now record = true ↔
      settings.blackout % 2 ^ 64 ≤ now.toNat - since.toNat := by
  rw [Breaker.timeoutElapsed, hopen.openedAt, ← settings.toNat_timeoutMillis, decide_eq_true_eq]

/-- It is read as open for the timeout, as far as that fits into a word. -/
theorem OpenSince.state_readAt (hopen : record.OpenSince since) :
    (readAt settings now record).state = .opened ↔
      now.toNat - since.toNat < settings.blackout % 2 ^ 64 := by
  rw [readAt]
  split
  · rename_i hover
    have hlong := hopen.timeoutElapsed_iff.mp hover.2
    simpa using hlong
  · rename_i hwithin
    rw [hopen.timeoutElapsed_iff] at hwithin
    simpa [hopen.state] using hwithin

/-- Within what is left of the timeout the record of an open circuit is read as it is. -/
theorem OpenSince.readAt_eq (hopen : record.OpenSince since)
    (hwithin : now.toNat - since.toNat < settings.blackout % 2 ^ 64) :
    readAt settings now record = record := by
  rw [readAt]
  apply if_neg
  rintro ⟨-, hover⟩
  exact Nat.not_le.mpr hwithin (hopen.timeoutElapsed_iff.mp hover)

theorem openSince_trip (record : CircuitRecord) (now : UInt64) :
    (record.trip now).OpenSince now := ⟨rfl, rfl⟩

theorem OpenSince.afterFailure (hopen : record.OpenSince since) :
    (Breaker.afterFailure settings now record).OpenSince since := by
  obtain ⟨state, count, openedAt, probes⟩ := record
  obtain ⟨rfl, rfl⟩ := hopen
  exact ⟨rfl, rfl⟩

/-- Whatever an open circuit hears before the timeout is over, it stays open, unless it is
closed or reset by hand. -/
theorem OpenSince.hear (hopen : record.OpenSince since) (hsince : since ≤ now)
    (hwithin : now.toNat - since.toNat < settings.blackout % 2 ^ 64) {signal : CircuitSignal}
    (hclosing : signal ≠ .closing) (hreset : signal ≠ .reset) :
    ∃ latest, since ≤ latest ∧ latest ≤ now ∧
      (record.hear settings now signal).OpenSince latest := by
  have hread := hopen.readAt_eq hwithin
  cases signal with
  | closing => exact absurd rfl hclosing
  | reset => exact absurd rfl hreset
  | opening => exact ⟨now, hsince, UInt64.le_refl now, openSince_trip record now⟩
  | failure =>
      refine ⟨since, UInt64.le_refl since, hsince, ?_⟩
      rw [CircuitRecord.hear, hread]
      exact hopen.afterFailure
  | success =>
      refine ⟨since, UInt64.le_refl since, hsince, ?_⟩
      have hstate : record.state ≠ .halfOpen := by simp [hopen.state]
      rw [CircuitRecord.hear, hread, if_neg hstate]
      exact hopen

end CircuitRecord

/-- Nobody closes or resets the circuit by hand. -/
def CircuitHistory.LeavesOpen (handler : HandlerId) (history : CircuitHistory) : Prop :=
  ∀ report ∈ history, report.handler = handler →
    report.signal ≠ .closing ∧ report.signal ≠ .reset

namespace Breaker

variable {breaker : Breaker} {handler : HandlerId} {opening : CircuitReport}
  {earlier later : CircuitHistory}

/-- A report opens the circuit of its handler: by hand, as the failure of a probe, or as the
failure that reaches the threshold. -/
def Opens (breaker : Breaker) (report : CircuitReport) : Prop :=
  let record := breaker.effective report.time report.handler
  report.signal = .opening ∨
    report.signal = .failure ∧ (record.state = .halfOpen ∨
      record.state = .closed ∧ breaker.settings.threshold ≤ record.countFailure.failureCount)

/-- A report that opens a circuit leaves it open since its own time. -/
theorem Opens.openSince (henabled : breaker.settings.enabled = true)
    (hopens : breaker.Opens opening) :
    ((breaker.hear opening).stored opening.handler).OpenSince opening.time := by
  rw [stored_hear_self henabled]
  obtain ⟨time, handler, signal⟩ := opening
  rcases hopens with hsignal | ⟨hsignal, hhalf | ⟨hclosed, hreached⟩⟩
  · cases hsignal
    exact CircuitRecord.openSince_trip _ time
  · cases hsignal
    have hstate : ((breaker.stored handler).readAt breaker.settings time).countFailure.state =
        .halfOpen := hhalf
    simp only [CircuitRecord.hear, afterFailure, hstate]
    exact CircuitRecord.openSince_trip _ time
  · cases hsignal
    have hstate : ((breaker.stored handler).readAt breaker.settings time).countFailure.state =
        .closed := hclosed
    have hcount : breaker.settings.threshold ≤
        ((breaker.stored handler).readAt breaker.settings time).countFailure.failureCount :=
      hreached
    simp only [CircuitRecord.hear, afterFailure, hstate, if_pos hcount]
    exact CircuitRecord.openSince_trip _ time

/-- A handler with an open circuit is held back for what is left of the timeout. -/
theorem isAvailable_of_openSince (henabled : breaker.settings.enabled = true)
    (hopen : (breaker.stored handler).OpenSince since) :
    breaker.isAvailable now handler = false ↔
      now.toNat - since.toNat < breaker.settings.blackout % 2 ^ 64 := by
  rw [← hopen.state_readAt, isAvailable, henabled, effective_eq_readAt]
  simp

/-- While the timeout is not over, the circuit is stored as open since its opening or since a
later one by hand. -/
theorem openSince_after (henabled : settings.enabled = true)
    (hopens : (after settings earlier).Opens opening)
    (horder : CircuitHistory.InOrder now (later ++ [opening]))
    (hopen : later.LeavesOpen opening.handler)
    (hwithin : now.toNat - opening.time.toNat < settings.blackout % 2 ^ 64) :
    ∃ latest, opening.time ≤ latest ∧ latest ≤ now ∧
      ((after settings (later ++ opening :: earlier)).stored opening.handler).OpenSince latest := by
  have hsettings (history) : (after settings history).settings.enabled = true := by
    rw [settings_after, henabled]
  -- The reports since the opening are taken from the first on; each finds the circuit open
  -- since a time between the opening and its own.
  induction later generalizing now with
  | nil =>
      exact ⟨opening.time, UInt64.le_refl _, horder.1, hopens.openSince (hsettings earlier)⟩
  | cons report later ih =>
      obtain ⟨hreport, hearlier⟩ := horder
      have hclock := UInt64.le_iff_toNat_le.mp hreport
      have hbefore : report.time.toNat - opening.time.toNat < settings.blackout % 2 ^ 64 := by
        omega
      obtain ⟨hquiet, hrest⟩ := List.forall_mem_cons.mp hopen
      obtain ⟨since, hfrom, huntil, hsince⟩ := ih hearlier hrest hbefore
      rw [List.cons_append, after]
      by_cases hself : opening.handler = report.handler
      · have hfromNat := UInt64.le_iff_toNat_le.mp hfrom
        have hstill : report.time.toNat - since.toNat < settings.blackout % 2 ^ 64 := by omega
        obtain ⟨hclosing, hreset⟩ := hquiet hself.symm
        obtain ⟨latest, hlatest, htime, hheard⟩ := hsince.hear huntil hstill hclosing hreset
        refine ⟨latest, UInt64.le_trans hfrom hlatest, UInt64.le_trans htime hreport, ?_⟩
        rw [hself] at hheard ⊢
        rw [stored_hear_self (hsettings _), settings_after]
        exact hheard
      · refine ⟨since, hfrom, UInt64.le_trans huntil hreport, ?_⟩
        rw [stored_hear_of_ne hself]
        exact hsince

theorem isAvailable_after_opening (henabled : settings.enabled = true)
    (hopens : (after settings earlier).Opens opening)
    (horder : CircuitHistory.InOrder now (later ++ [opening]))
    (hopen : later.LeavesOpen opening.handler)
    (hwithin : now.toNat - opening.time.toNat < settings.blackout % 2 ^ 64) :
    (after settings (later ++ opening :: earlier)).isAvailable now opening.handler = false := by
  obtain ⟨latest, hfrom, huntil, hlatest⟩ :=
    openSince_after henabled hopens horder hopen hwithin
  have hfromNat := UInt64.le_iff_toNat_le.mp hfrom
  rw [isAvailable_of_openSince _ hlatest]
  · rw [settings_after]
    omega
  · rw [settings_after, henabled]

/-- Without a report since, the circuit is open for exactly the part of the timeout that fits. -/
theorem isAvailable_opened_iff (henabled : settings.enabled = true)
    (hopens : (after settings earlier).Opens opening) (now : UInt64) :
    (after settings (opening :: earlier)).isAvailable now opening.handler = false ↔
      now.toNat - opening.time.toNat < settings.blackout % 2 ^ 64 := by
  have hbefore : (after settings earlier).settings.enabled = true := by
    rw [settings_after, henabled]
  have hopen := hopens.openSince hbefore
  rw [after, isAvailable_of_openSince _ hopen]
  · rw [settings_hear, settings_after]
  · rw [settings_hear, hbefore]

end Breaker

/-- An opened circuit keeps its handler from running for the whole timeout, whatever the
breaker heard before and hears since, unless the circuit is closed or reset by hand. -/
def CircuitSettings.KeepsBlackout (settings : CircuitSettings) : Prop :=
  ∀ (earlier later : CircuitHistory) (opening : CircuitReport) (now : UInt64),
    (Breaker.after settings earlier).Opens opening →
    CircuitHistory.InOrder now (later ++ [opening]) → later.LeavesOpen opening.handler →
    now.toNat - opening.time.toNat < settings.blackout →
      (Breaker.after settings (later ++ opening :: earlier)).isAvailable now opening.handler =
        false

namespace Breaker

/-- The timeout is kept exactly if its milliseconds fit into a word of 64 bits; what does not
fit is cut off, so that the circuit stays open for the remainder.  A longer timeout never
lets the handler run earlier, as long as it fits. -/
theorem keepsBlackout_iff {settings : CircuitSettings} (henabled : settings.enabled = true) :
    (settings.KeepsBlackout ↔ settings.blackout < 2 ^ 64) ∧
      (∀ (earlier : CircuitHistory) (opening : CircuitReport) (now : UInt64),
        (after settings earlier).Opens opening →
          ((after settings (opening :: earlier)).isAvailable now opening.handler = false ↔
            now.toNat - opening.time.toNat < settings.blackout % 2 ^ 64)) ∧
      (∀ longer : CircuitSettings, longer.enabled = true → longer.blackout < 2 ^ 64 →
        settings.timeoutSecs ≤ longer.timeoutSecs →
        ∀ (earlier elsewhere : CircuitHistory) (opening : CircuitReport) (now : UInt64),
          (after settings earlier).Opens opening → (after longer elsewhere).Opens opening →
          (after settings (opening :: earlier)).isAvailable now opening.handler = false →
          (after longer (opening :: elsewhere)).isAvailable now opening.handler = false) := by
  refine ⟨⟨?fits, ?kept⟩, ?exact, ?longer⟩
  case fits =>
    intro hkeeps
    apply Nat.not_le.mp
    intro hlong
    -- Just when the cut timeout is over, the handler may run again.
    let opening : CircuitReport := ⟨0, "", .opening⟩
    let now : UInt64 := timeoutMillis settings
    have hnow : now.toNat = settings.blackout % 2 ^ 64 := settings.toNat_timeoutMillis
    have hopens : (after settings []).Opens opening := .inl rfl
    have hcut := Nat.mod_lt settings.blackout (Nat.two_pow_pos 64)
    have horder : CircuitHistory.InOrder now [opening] := ⟨UInt64.zero_le, trivial⟩
    have hopen : CircuitHistory.LeavesOpen opening.handler [] := by
      simp [CircuitHistory.LeavesOpen]
    have hwithin : now.toNat - opening.time.toNat < settings.blackout := by omega
    have hheld := hkeeps [] [] opening now hopens horder hopen hwithin
    rw [List.nil_append, isAvailable_opened_iff henabled hopens] at hheld
    have hzero : opening.time.toNat = 0 := rfl
    omega
  case kept =>
    intro hfits earlier later opening now hopens horder hopen hwithin
    rw [← Nat.mod_eq_of_lt hfits] at hwithin
    exact isAvailable_after_opening henabled hopens horder hopen hwithin
  case exact =>
    intro earlier opening now hopens
    exact isAvailable_opened_iff henabled hopens now
  case longer =>
    intro longer hlonger hfits hsecs earlier elsewhere opening now hopens hothers hheld
    rw [isAvailable_opened_iff henabled hopens] at hheld
    rw [isAvailable_opened_iff hlonger hothers, Nat.mod_eq_of_lt hfits]
    have hcut := Nat.mod_le settings.blackout (2 ^ 64)
    have hblackout : settings.blackout ≤ longer.blackout :=
      Nat.mul_le_mul_right 1000 (UInt64.le_iff_toNat_le.mp hsecs)
    omega

/-- The standard timeout of a minute is kept. -/
theorem keepsBlackout_standard :
    CircuitSettings.standard.enabled = true ∧ CircuitSettings.standard.KeepsBlackout := by
  have henabled : CircuitSettings.standard.enabled = true := rfl
  exact ⟨henabled, (keepsBlackout_iff henabled).1.mpr (by decide)⟩

/-- A timeout of more than five hundred million years that valid settings may have is over
after 384 milliseconds, when a timeout of one second still keeps the handler from running. -/
theorem blackout_of_valid_settings_cut :
    let circuit : CircuitSettings := ⟨true, 5, 18446744073709552, 3⟩
    let settings : Settings := { Settings.standard with circuit }
    let opening : CircuitReport := ⟨0, "mail", .opening⟩
    settings.validated = .ok settings ∧ circuit.enabled = true ∧ ¬ circuit.KeepsBlackout ∧
      (after circuit [opening]).isAvailable 500 "mail" = true ∧
      (after { circuit with timeoutSecs := 1 } [opening]).isAvailable 500 "mail" = false := by
  intro circuit settings opening
  have hfault : settings.fault? = none := by decide
  have havailable : (after circuit [opening]).isAvailable 500 "mail" = true := by decide
  refine ⟨by rw [Settings.validated, hfault], rfl, ?_, havailable, by decide⟩
  intro hkeeps
  have hopens : (after circuit []).Opens opening := .inl rfl
  have horder : CircuitHistory.InOrder 500 [opening] := by decide
  have hopen : CircuitHistory.LeavesOpen "mail" [] := by simp [CircuitHistory.LeavesOpen]
  have hwithin : (500 : UInt64).toNat - opening.time.toNat < circuit.blackout := by decide
  have hheld := hkeeps [] [] opening 500 hopens horder hopen hwithin
  rw [List.nil_append, havailable] at hheld
  cases hheld

end Breaker
end Plugboard
