import Plugboard.Proofs.Circuit.Automaton

/-!
# Stored circuits are well formed

Whatever a breaker hears, in whatever order the clock reads, enabled or not: a stored circuit
that is open has its time of opening and no probes, one that is half open has at least one
probe and misses at least one, and one that is closed has fewer failures than the threshold.
The timeout plays no part in this, and neither does the order of time.
-/

namespace Plugboard

variable {settings : CircuitSettings} {now : UInt64} {record : CircuitRecord}

namespace CircuitRecord

/-- The records that a breaker stores. -/
inductive WellFormed (settings : CircuitSettings) : CircuitRecord → Prop where
  | closed {count : UInt32} (hbelow : count.toNat < settings.threshold.toNat) :
      WellFormed settings ⟨.closed, count, none, 0⟩
  | opened {count : UInt32} {since : UInt64} : WellFormed settings ⟨.opened, count, some since, 0⟩
  | halfOpen {count probes : UInt32} {since : UInt64} (hsome : 1 ≤ probes.toNat)
      (hbelow : probes.toNat < settings.halfOpenMax.toNat) :
      WellFormed settings ⟨.halfOpen, count, some since, probes⟩

theorem wellFormed_unused (hthreshold : 1 ≤ settings.threshold.toNat) :
    unused.WellFormed settings :=
  .closed hthreshold

/-- Reading can only make an open circuit half open. -/
theorem readAt_opened {count probes : UInt32} {since : Option UInt64} :
    readAt settings now ⟨.opened, count, since, probes⟩ = ⟨.opened, count, since, probes⟩ ∨
      readAt settings now ⟨.opened, count, since, probes⟩ =
        ⟨.halfOpen, count, since, probes⟩ := by
  unfold readAt
  split
  · exact .inr rfl
  · exact .inl rfl

/-- A circuit that is read as half open misses a probe, also if it is stored as open. -/
theorem WellFormed.probes_readAt (hprobes : 1 ≤ settings.halfOpenMax.toNat)
    (hwell : record.WellFormed settings) (hhalf : (readAt settings now record).state = .halfOpen) :
    (readAt settings now record).halfOpenAttempts.toNat < settings.halfOpenMax.toNat := by
  cases hwell with
  | closed => cases hhalf
  | opened =>
      rcases readAt_opened with hread | hread
      · rw [hread] at hhalf
        cases hhalf
      · rw [hread]
        exact hprobes
  | halfOpen hsome hbelow => exact hbelow

theorem wellFormed_afterProbe (hthreshold : 1 ≤ settings.threshold.toNat)
    {count probes : UInt32} {since : UInt64} (hbelow : probes.toNat < settings.halfOpenMax.toNat) :
    (Breaker.afterProbe settings ⟨.halfOpen, count, some since, probes⟩).WellFormed settings := by
  have hprobes := toNat_add_one hbelow
  simp only [Breaker.afterProbe, countProbe, UInt32.le_iff_toNat_le]
  split
  · exact wellFormed_unused hthreshold
  · rename_i hmissing
    apply WellFormed.halfOpen
    · omega
    · exact Nat.not_le.mp hmissing

theorem wellFormed_afterFailure_closed {count : UInt32}
    (hbelow : count.toNat < settings.threshold.toNat) :
    (Breaker.afterFailure settings now ⟨.closed, count, none, 0⟩).WellFormed settings := by
  have hcounted : countFailure ⟨.closed, count, none, 0⟩ = ⟨.closed, count + 1, none, 0⟩ :=
    countFailure_eq hbelow
  simp only [Breaker.afterFailure, hcounted, UInt32.le_iff_toNat_le]
  split
  · exact .opened
  · rename_i hbelow
    exact .closed (Nat.not_le.mp hbelow)

/-- Whatever is heard of a well-formed record leaves one. -/
theorem WellFormed.hear (hthreshold : 1 ≤ settings.threshold.toNat)
    (hprobes : 1 ≤ settings.halfOpenMax.toNat) (hwell : record.WellFormed settings)
    (now : UInt64) (signal : CircuitSignal) :
    (record.hear settings now signal).WellFormed settings := by
  cases signal with
  | closing | reset => exact wellFormed_unused hthreshold
  | opening =>
      cases hwell with
      | closed | opened | halfOpen => exact .opened
  | failure =>
      cases hwell with
      | closed hbelow => exact wellFormed_afterFailure_closed hbelow
      | opened =>
          rw [CircuitRecord.hear]
          rcases readAt_opened with hread | hread <;> rw [hread] <;> exact .opened
      | halfOpen => exact .opened
  | success =>
      cases hwell with
      | closed hbelow => exact .closed hbelow
      | opened =>
          rw [CircuitRecord.hear]
          rcases readAt_opened with hread | hread <;> rw [hread]
          · exact .opened
          · exact wellFormed_afterProbe hthreshold hprobes
      | halfOpen hsome hbelow => exact wellFormed_afterProbe hthreshold hbelow

/-- A counted failure leaves a trace, at the largest count as well. -/
theorem failureCount_countFailure_ne_zero (record : CircuitRecord) :
    record.countFailure.failureCount ≠ 0 := by
  intro hzero
  have hcount : record.countFailure.failureCount.toNat = 0 := by rw [hzero]; rfl
  rw [countFailure] at hcount
  split at hcount
  · rename_i hroom
    rw [UInt32.toNat_add, UInt32.toNat_one, Nat.mod_eq_of_lt hroom] at hcount
    omega
  · rename_i hfull
    rw [hcount] at hfull
    exact hfull (by decide)

/-- A failure is counted whatever state it finds the circuit in. -/
theorem failureCount_afterFailure (settings : CircuitSettings) (now : UInt64)
    (record : CircuitRecord) :
    (Breaker.afterFailure settings now record).failureCount = record.countFailure.failureCount := by
  simp only [Breaker.afterFailure]
  split
  · rfl
  · split <;> rfl
  · rfl

theorem failureCount_readAt (settings : CircuitSettings) (now : UInt64) (record : CircuitRecord) :
    (readAt settings now record).failureCount = record.failureCount := by
  unfold readAt
  split <;> rfl

/-- Failures are forgotten only together with everything else. -/
theorem hear_eq_unused_of_failureCount {signal : CircuitSignal} (hsome : record.failureCount ≠ 0)
    (hnone : (record.hear settings now signal).failureCount = 0) :
    record.hear settings now signal = .unused := by
  cases signal with
  | closing | reset => rfl
  | opening => exact absurd hnone hsome
  | failure =>
      rw [CircuitRecord.hear, failureCount_afterFailure] at hnone
      exact absurd hnone (failureCount_countFailure_ne_zero _)
  | success =>
      rw [CircuitRecord.hear] at hnone ⊢
      split
      · rename_i hhalf
        rw [if_pos hhalf] at hnone
        rw [Breaker.afterProbe] at hnone ⊢
        split
        · rfl
        · rename_i hmissing
          have hkept : (readAt settings now record).failureCount = 0 := by
            rw [if_neg hmissing] at hnone
            exact hnone
          rw [failureCount_readAt] at hkept
          exact absurd hkept hsome
      · rename_i hother
        rw [if_neg hother] at hnone
        exact absurd hnone hsome

end CircuitRecord

namespace Breaker

variable {breaker : Breaker} {handler : HandlerId}

theorem stored_eq_of_get? (hget : breaker.circuits.get? handler = some record) :
    breaker.stored handler = record := by
  rw [stored, hget, Option.getD_some]

/-- A report changes the circuit of its handler as a record hears it, unless the breaker is
disabled and lets it pass. -/
theorem stored_hear (breaker : Breaker) (report : CircuitReport) (handler : HandlerId) :
    (breaker.hear report).stored handler = breaker.stored handler ∨
      (breaker.hear report).stored handler =
        (breaker.stored handler).hear breaker.settings report.time report.signal := by
  by_cases hself : handler = report.handler
  · subst hself
    cases henabled : breaker.settings.enabled with
    | true => exact .inr (stored_hear_self henabled report)
    | false =>
        obtain ⟨time, handler, signal⟩ := report
        cases signal with
        | failure | success =>
            left
            simp [hear, recordFailure, recordSuccess, henabled]
        | opening =>
            right
            exact stored_save_self breaker handler _
        | closing =>
            right
            exact stored_save_self breaker handler _
        | reset =>
            right
            exact stored_reset_self breaker handler
  · exact .inl (stored_hear_of_ne hself breaker)

/-- Whatever a breaker has heard, the records that it stores are well formed. -/
theorem wellFormed_after (hthreshold : 1 ≤ settings.threshold.toNat)
    (hprobes : 1 ≤ settings.halfOpenMax.toNat) (history : CircuitHistory) (handler : HandlerId) :
    ((after settings history).stored handler).WellFormed settings := by
  induction history with
  | nil => exact CircuitRecord.wellFormed_unused hthreshold
  | cons report earlier ih =>
      rw [after]
      rcases stored_hear (after settings earlier) report handler with hsame | hheard
      · rw [hsame]
        exact ih
      · rw [hheard, settings_after]
        exact ih.hear hthreshold hprobes report.time report.signal

/-- After any reports, at any readings of the clock, every stored circuit is well formed.
One more report brings the failures of a handler back to zero only by closing its circuit or
forgetting it.  A probe that is about to be counted leaves the count at most at the limit, so
that counting it does not wrap around. -/
theorem records_are_well_formed {settings : CircuitSettings}
    (hthreshold : 1 ≤ settings.threshold.toNat) (hprobes : 1 ≤ settings.halfOpenMax.toNat)
    (history : CircuitHistory) (handler : HandlerId) :
    let breaker := after settings history
    (∀ record, breaker.circuits.get? handler = some record →
      (record.state = .opened → record.openedAt.isSome ∧ record.halfOpenAttempts = 0) ∧
      (record.state = .halfOpen → record.openedAt.isSome ∧ 1 ≤ record.halfOpenAttempts ∧
        record.halfOpenAttempts < settings.halfOpenMax) ∧
      (record.state = .closed → record.openedAt = none ∧ record.halfOpenAttempts = 0 ∧
        record.failureCount < settings.threshold)) ∧
    (∀ report record, breaker.circuits.get? handler = some record → record.failureCount ≠ 0 →
      ∀ left, (breaker.hear report).circuits.get? handler = some left → left.failureCount = 0 →
        left.state = .closed) ∧
    (∀ now, (breaker.effective now handler).state = .halfOpen →
      let record := breaker.effective now handler
      record.countProbe.halfOpenAttempts.toNat = record.halfOpenAttempts.toNat + 1 ∧
        record.countProbe.halfOpenAttempts ≤ settings.halfOpenMax) := by
  intro breaker
  have hwell := wellFormed_after hthreshold hprobes history handler
  refine ⟨?stored, ?failures, ?probe⟩
  case stored =>
    intro record hget
    rw [stored_eq_of_get? hget] at hwell
    cases hwell with
    | closed hbelow => simpa [UInt32.lt_iff_toNat_lt] using hbelow
    | opened => simp
    | halfOpen hsome hbelow =>
        simpa [UInt32.lt_iff_toNat_lt, UInt32.le_iff_toNat_le] using ⟨hsome, hbelow⟩
  case failures =>
    intro report record hget hsome left hleft hnone
    have hbefore := stored_eq_of_get? hget
    have hafter := stored_eq_of_get? hleft
    rcases stored_hear breaker report handler with hsame | hheard
    · rw [hafter, hbefore] at hsame
      rw [hsame] at hnone
      exact absurd hnone hsome
    · rw [hafter, hbefore] at hheard
      rw [hheard] at hnone ⊢
      rw [CircuitRecord.hear_eq_unused_of_failureCount hsome hnone]
      rfl
  case probe =>
    intro now hhalf record
    have hbelow : record.halfOpenAttempts.toNat < settings.halfOpenMax.toNat := by
      have hread : record = (breaker.stored handler).readAt settings now := by
        rw [← settings_after settings history]
        rfl
      rw [hread]
      exact hwell.probes_readAt hprobes (hread ▸ hhalf)
    have hcount := CircuitRecord.toNat_add_one hbelow
    refine ⟨hcount, UInt32.le_iff_toNat_le.mpr ?_⟩
    rw [CircuitRecord.countProbe, hcount]
    exact hbelow

namespace Sample

def restless : CircuitHistory :=
  [⟨130000, "mail", .success⟩, ⟨20, "mail", .failure⟩, ⟨60000, "mail", .opening⟩]

end Sample

/-- With the standard settings the circuit is left half open, with one probe of three. -/
theorem records_are_well_formed_of_sample :
    let settings := CircuitSettings.standard
    let record : CircuitRecord := ⟨.halfOpen, 1, some 60000, 1⟩
    1 ≤ settings.threshold.toNat ∧ 1 ≤ settings.halfOpenMax.toNat ∧
      (after settings Sample.restless).circuits.get? "mail" = some record ∧
      1 ≤ record.halfOpenAttempts ∧ record.halfOpenAttempts < settings.halfOpenMax := by
  intro settings record
  have hthreshold : 1 ≤ settings.threshold.toNat := by decide
  have hprobes : 1 ≤ settings.halfOpenMax.toNat := by decide
  have hget : (after settings Sample.restless).circuits.get? "mail" = some record := by decide
  obtain ⟨hstored, -, -⟩ := records_are_well_formed hthreshold hprobes Sample.restless "mail"
  obtain ⟨-, hhalf, -⟩ := hstored record hget
  obtain ⟨-, hsome, hbelow⟩ := hhalf rfl
  exact ⟨hthreshold, hprobes, hget, hsome, hbelow⟩

end Breaker
end Plugboard
