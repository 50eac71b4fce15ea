import Plugboard.Proofs.Engine.Runs

/-!
# Code that stops, and code that leaves a part alone

Code that stops leaves an engine behind as code does that comes to its end.  What the code does not
touch is then as it was, either way.
-/

namespace Plugboard.Engine

variable {α β γ : Type}

/-! ## Stops -/

/-- The code stops and leaves the engine behind. -/
def Stops (code : EngineM α) (before : Engine) (abort : Abort) (after : Engine) : Prop :=
  code.run.run before = (.error abort, after)

variable {first : EngineM α} {next : α → EngineM β} {before middle after : Engine} {given : α}
  {abort : Abort}

theorem not_stops_pure {value : α} : ¬ Stops (pure value) before abort after := by
  intro hstop
  cases hstop

/-- Code in sequence is stopped in its first part or in its second. -/
theorem stops_bind :
    Stops (first >>= next) before abort after ↔
      Stops first before abort after ∨
        ∃ given middle, Runs first before given middle ∧ Stops (next given) middle abort after := by
  rw [Stops, Stops, run_bind]
  constructor
  · intro hstop
    split at hstop
    · rename_i given middle hfirst
      exact .inr ⟨given, middle, hfirst, hstop⟩
    · rename_i stopped middle hfirst
      obtain ⟨habort, rfl⟩ := Prod.mk.inj hstop
      obtain rfl := Except.error.inj habort
      exact .inl hfirst
  · rintro (hstop | ⟨given, middle, hfirst, hstop⟩)
    · rw [hstop]
    · rw [Runs] at hfirst
      rw [hfirst]
      exact hstop

/-- After code that comes to its end, only what follows can stop. -/
theorem Runs.stops_bind (hfirst : Runs first before given middle) :
    Stops (first >>= next) before abort after ↔ Stops (next given) middle abort after := by
  rw [Stops, run_bind]
  rw [Runs] at hfirst
  rw [hfirst]
  exact Iff.rfl

theorem stops_get_then {next : Engine → EngineM α} :
    Stops (get >>= next) before abort after ↔ Stops (next before) before abort after :=
  (runs_get.mpr ⟨rfl, rfl⟩).stops_bind

theorem stops_log_then {event : LogEvent} {next : Unit → EngineM α} :
    Stops (log event >>= next) before abort after ↔
      Stops (next ()) (before.record (.log event)) abort after :=
  Runs.stops_bind (runs_log.mpr rfl)

/-- Code comes to its end or stops. -/
theorem runs_or_stops (code : EngineM α) (before : Engine) :
    (∃ value after, Runs code before value after) ∨
      ∃ abort after, Stops code before abort after := by
  cases hrun : code.run.run before with
  | mk outcome after =>
      cases outcome with
      | ok value => exact .inl ⟨value, after, hrun⟩
      | error abort => exact .inr ⟨abort, after, hrun⟩

/-! ## Parts that are left alone -/

/-- The code leaves the part of the engine as it finds it, also where it stops. -/
def Spares (part : Engine → γ) (code : EngineM α) : Prop :=
  ∀ before, part (code.run.run before).2 = part before

section

variable {part : Engine → γ} {code : EngineM α} {value : α}

/-- What code leaves alone is as before where the code ends. -/
theorem Spares.runs (hcode : Spares part code) (hrun : Runs code before value after) :
    part after = part before := by
  rw [← hcode before, show code.run.run before = (.ok value, after) from hrun]

/-- What code leaves alone is as before where the code is stopped. -/
theorem Spares.stops (hcode : Spares part code) (hstop : Stops code before abort after) :
    part after = part before := by
  rw [← hcode before, show code.run.run before = (.error abort, after) from hstop]

theorem spares_pure (value : α) : Spares part (pure value) := fun _ => rfl

theorem spares_throw (abort : Abort) : Spares part (throw abort : EngineM α) := fun _ => rfl

theorem spares_get : Spares part get := fun _ => rfl

theorem spares_modify {change : Engine → Engine}
    (hchange : ∀ engine, part (change engine) = part engine) : Spares part (modify change) :=
  hchange

theorem Spares.bind (hfirst : Spares part first) (hnext : ∀ given, Spares part (next given)) :
    Spares part (first >>= next) := by
  intro before
  rw [run_bind]
  cases hgiven : first.run.run before with
  | mk outcome middle =>
      have hmiddle : part middle = part before := by rw [← hfirst before, hgiven]
      cases outcome with
      | ok given => exact (hnext given middle).trans hmiddle
      | error abort => exact hmiddle

variable (hevents : ∀ engine, part engine = part engine.bare)

include hevents

theorem spares_announce (event : Event) : Spares part (announce event) :=
  fun engine => eq_of_bare_eq part hevents (bare_record engine event)

theorem spares_log (event : LogEvent) : Spares part (log event) := spares_announce hevents _

end

end Plugboard.Engine
