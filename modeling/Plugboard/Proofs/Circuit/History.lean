import Plugboard.Circuit.Breaker

/-!
# Histories of circuits

A breaker hears of failures and successes, and of circuits opened, closed and reset by
hand.  What such a history says about the circuit of a handler is told here without the
breaker: when the circuit opened last, how many failures there were since it closed, and
how many probes succeeded since it opened.  Histories hold the latest report first.
-/

namespace Plugboard

/-- What a breaker can hear of a handler. -/
inductive CircuitSignal where
  | failure
  | success
  | opening
  | closing
  | reset
  deriving DecidableEq, Repr

/-- Something that a breaker heard, with the reading of the clock. -/
structure CircuitReport where
  time : UInt64
  handler : HandlerId
  signal : CircuitSignal
  deriving DecidableEq, Repr

abbrev CircuitHistory := List CircuitReport

namespace CircuitHistory

/-- The clock never went back, up to now. -/
def InOrder (now : UInt64) : CircuitHistory → Prop
  | [] => True
  | report :: earlier => report.time ≤ now ∧ InOrder report.time earlier

instance decidableInOrder : (now : UInt64) → (history : CircuitHistory) →
    Decidable (InOrder now history)
  | _, [] => .isTrue trivial
  | now, report :: earlier =>
      letI := decidableInOrder report.time earlier
      inferInstanceAs (Decidable (report.time ≤ now ∧ InOrder report.time earlier))

theorem InOrder.mono {history : CircuitHistory} {now later : UInt64} (horder : history.InOrder now)
    (hlater : now ≤ later) : history.InOrder later := by
  cases history with
  | nil => trivial
  | cons report earlier => exact ⟨UInt64.le_trans horder.1 hlater, horder.2⟩

end CircuitHistory

/-! ## Breakers with a history -/

namespace Breaker

def hear (breaker : Breaker) (report : CircuitReport) : Breaker :=
  match report.signal with
  | .failure => breaker.recordFailure report.time report.handler
  | .success => breaker.recordSuccess report.time report.handler
  | .opening => breaker.openCircuit report.time report.handler
  | .closing => breaker.closeCircuit report.handler
  | .reset => breaker.reset report.handler

def after (settings : CircuitSettings) : CircuitHistory → Breaker
  | [] => ⟨settings, []⟩
  | report :: earlier => (after settings earlier).hear report

end Breaker

/-! ## What a history says about a circuit -/

def CircuitSettings.blackout (settings : CircuitSettings) : Nat := settings.timeoutSecs.toNat * 1000

/-- What has become of a circuit: it is closed, with the failures since then, or it opened at
some time and is not closed yet, with the probes that succeeded since then.  Time alone
makes an open circuit half open. -/
inductive CircuitPhase where
  | closed (failures : Nat)
  | opened (since probes : Nat)
  deriving DecidableEq, Repr

namespace CircuitPhase

variable (settings : CircuitSettings)

def stateAt (now : Nat) : CircuitPhase → CircuitState
  | .closed _ => .closed
  | .opened since _ => if now - since < settings.blackout then .opened else .halfOpen

def next (now : Nat) (phase : CircuitPhase) : CircuitSignal → CircuitPhase
  | .opening => .opened now 0
  | .closing | .reset => .closed 0
  | .failure =>
      match phase with
      | .closed failures =>
          if settings.threshold.toNat ≤ failures + 1 then .opened now 0 else .closed (failures + 1)
      | .opened since _ => if now - since < settings.blackout then phase else .opened now 0
  | .success =>
      match phase with
      | .closed _ => phase
      | .opened since probes =>
          if now - since < settings.blackout then phase
          else if settings.halfOpenMax.toNat ≤ probes + 1 then .closed 0
          else .opened since (probes + 1)

section

variable {settings : CircuitSettings} {now since probes : Nat} {phase : CircuitPhase}

@[simp]
theorem stateAt_opened_eq_opened : (opened since probes).stateAt settings now = .opened ↔
    now - since < settings.blackout := by
  simp [stateAt]

@[simp]
theorem stateAt_opened_eq_halfOpen : (opened since probes).stateAt settings now = .halfOpen ↔
    settings.blackout ≤ now - since := by
  simp [stateAt]

@[simp]
theorem stateAt_opened_ne_closed : (opened since probes).stateAt settings now ≠ .closed := by
  rw [stateAt]
  split <;> simp

/-- What is heard of an open circuit is not even counted. -/
theorem next_eq_self {signal : CircuitSignal} (hsignal : signal = .failure ∨ signal = .success)
    (hopened : phase.stateAt settings now = .opened) : phase.next settings now signal = phase := by
  cases phase with
  | closed failures => cases hopened
  | opened since probes =>
      have hwithin := stateAt_opened_eq_opened.mp hopened
      rcases hsignal with rfl | rfl <;> rw [next, if_pos hwithin]

/-- A circuit that closes has no failures. -/
theorem next_eq_closed_zero {signal : CircuitSignal} (hopen : phase.stateAt settings now ≠ .closed)
    (hclosed : (phase.next settings now signal).stateAt settings now = .closed) :
    phase.next settings now signal = .closed 0 := by
  cases phase with
  | closed failures => exact absurd rfl hopen
  | opened since probes =>
      cases signal with
      | opening => exact absurd hclosed stateAt_opened_ne_closed
      | closing | reset => rfl
      | failure =>
          rw [next] at hclosed
          split at hclosed <;> exact absurd hclosed stateAt_opened_ne_closed
      | success =>
          rw [next] at hclosed ⊢
          split at hclosed
          · exact absurd hclosed stateAt_opened_ne_closed
          · split at hclosed
            · rename_i hover hlast
              rw [if_neg hover, if_pos hlast]
            · exact absurd hclosed stateAt_opened_ne_closed

end

end CircuitPhase

namespace CircuitHistory

variable (settings : CircuitSettings) (handler : HandlerId)

/-- The phase of a handler's circuit after a history. -/
def phase : CircuitHistory → CircuitPhase
  | [] => .closed 0
  | report :: earlier =>
      if report.handler = handler then
        (phase earlier).next settings report.time.toNat report.signal
      else phase earlier

def stateBefore (earlier : CircuitHistory) (report : CircuitReport) : CircuitState :=
  (phase settings handler earlier).stateAt settings report.time.toNat

def stateAfter (earlier : CircuitHistory) (report : CircuitReport) : CircuitState :=
  (phase settings handler (report :: earlier)).stateAt settings report.time.toNat

/-- A report closes the circuit: by hand, or because it is half open and recovers. -/
def Closes (earlier : CircuitHistory) (report : CircuitReport) : Prop :=
  report.handler = handler ∧
    (report.signal = .closing ∨ report.signal = .reset ∨
      (stateBefore settings handler earlier report = .halfOpen ∧
        stateAfter settings handler earlier report = .closed))

instance (earlier : CircuitHistory) (report : CircuitReport) :
    Decidable (Closes settings handler earlier report) :=
  inferInstanceAs (Decidable (_ ∧ _))

/-- The handler's failures since its circuit closed last. -/
def failuresSinceClosed : CircuitHistory → Nat
  | [] => 0
  | report :: earlier =>
      if Closes settings handler earlier report then 0
      else if report.handler = handler ∧ report.signal = .failure then
        failuresSinceClosed earlier + 1
      else failuresSinceClosed earlier

/-- A report opens the circuit: by hand, as the failure of a probe, or as the failure that
reaches the threshold since the circuit closed last. -/
def Opens (earlier : CircuitHistory) (report : CircuitReport) : Prop :=
  report.handler = handler ∧
    (report.signal = .opening ∨
      (report.signal = .failure ∧ stateBefore settings handler earlier report = .halfOpen) ∨
      (report.signal = .failure ∧ stateBefore settings handler earlier report = .closed ∧
        failuresSinceClosed settings handler earlier + 1 = settings.threshold.toNat))

instance (earlier : CircuitHistory) (report : CircuitReport) :
    Decidable (Opens settings handler earlier report) :=
  inferInstanceAs (Decidable (_ ∧ _))

/-- The time of the latest report that opened the circuit, unless it was closed or reset by
hand since. -/
def openedAt : CircuitHistory → Option Nat
  | [] => none
  | report :: earlier =>
      if Opens settings handler earlier report then some report.time.toNat
      else if report.handler = handler ∧ (report.signal = .closing ∨ report.signal = .reset) then
        none
      else openedAt earlier

/-- The successes that found the circuit half open since it opened last. -/
def probesSinceOpened : CircuitHistory → Nat
  | [] => 0
  | report :: earlier =>
      if Opens settings handler earlier report then 0
      else if report.handler = handler ∧ report.signal = .success ∧
          stateBefore settings handler earlier report = .halfOpen then
        probesSinceOpened earlier + 1
      else probesSinceOpened earlier

end CircuitHistory
end Plugboard
