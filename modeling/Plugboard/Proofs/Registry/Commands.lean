import Plugboard.Proofs.Registry.Views
import Plugboard.Proofs.Engine.Runs
import Plugboard.Engine.Run

/-!
# Registry commands

What code asks of the registry of its engine is one of the operations that ledgers follow,
or a question that changes nothing.  So the registry of an engine is always as far as its
ledger says, whatever commands were given.
-/

namespace Plugboard

open Engine

/-- The operation that a command stands for, where handler instances take their number from
the serial given.  A question stands for none. -/
def RegistryCommand.operation? (serial : Nat) :
    RegistryCommand Behaviour → Option (RegistryOperation Behaviour)
  | .register code priority => some (.register (.live { code with serial } priority))
  | .registerQueued code priority options =>
      some (.register ((Registration.live { code with serial } priority).queued options))
  | .registerDeferred kind id priority => some (.register (.deferred kind id priority))
  | .registerFor kind code priority => some (.registerFor kind { code with serial } priority)
  | .registerNamed name code priority => some (.registerNamed name { code with serial } priority)
  | .registerInScope scope code priority =>
      some (.register ((Registration.live { code with serial } priority).inScope scope))
  | .registerInGroup group code priority none =>
      some (.register ((Registration.live { code with serial } priority).inGroup group))
  | .registerInGroup group code priority (some options) =>
      some (.register
        (((Registration.live { code with serial } priority).queued options).inGroup group))
  | .registerDeferredInGroup group kind id priority =>
      some (.register ((Registration.deferred kind id priority).inGroup group))
  | .declare kind => some (.declare kind)
  | .view kind _ | .hasHandlers kind => some (.view kind)
  | .tag handle tags => some (.tag handle tags)
  | .untag handle name => some (.untag handle name)
  | .disableTag name => some (.disableTag name)
  | .enableTag name => some (.enableTag name)
  | .disableGroup group => some (.disableGroup group)
  | .enableGroup group => some (.enableGroup group)
  | .remove handle => some (.remove handle)
  | .removeHandler kind id => some (.removeHandler kind id)
  | .removeGroup group => some (.removeGroup group)
  | .clearScope scope => some (.clearScope scope)
  | .forget kind => some (.forget kind)
  | .clear => some .clear
  | .declared _ | .entry _ | .handleText _ | .size | .stats | .hasTag _ _ | .tagged _
  | .isTagDisabled _ | .groupMembers _ | .isGroupDisabled _ => none

namespace Registry

variable {ρ : Type}

def Reachable (registry : Registry ρ) : Prop :=
  ∃ operations, ((empty : Registry ρ).performAll operations).2 = registry

theorem performAll_append (registry : Registry ρ) (first second : List (RegistryOperation ρ)) :
    (registry.performAll (first ++ second)).2 =
      ((registry.performAll first).2.performAll second).2 := by
  induction first generalizing registry with
  | nil => rfl
  | cons operation rest ih => exact ih (registry.perform operation).2

theorem Reachable.perform {registry : Registry ρ} (hreachable : registry.Reachable)
    (operation : RegistryOperation ρ) : (registry.perform operation).2.Reachable := by
  obtain ⟨operations, rfl⟩ := hreachable
  exact ⟨operations ++ [operation], performAll_append empty operations [operation]⟩

end Registry

namespace Powers

variable {before after : Engine} {answer : Answer}

theorem runs_instantiate_then {code : HandlerCode Behaviour}
    {next : Handler Behaviour → EngineM Answer} :
    Runs (instantiate code >>= next) before answer after ↔
      Runs (next { code with serial := before.nextSerial })
        { before with nextSerial := before.nextSerial + 1 } answer after := by
  have hrun : ∀ {handler middle}, Runs (instantiate code) before handler middle ↔
      handler = { code with serial := before.nextSerial } ∧
        middle = { before with nextSerial := before.nextSerial + 1 } := by
    intro handler middle
    rw [instantiate, runs_get_then, runs_modify_then, runs_pure]
  rw [runs_bind]
  constructor
  · rintro ⟨handler, middle, hhandler, hrest⟩
    obtain ⟨rfl, rfl⟩ := hrun.mp hhandler
    exact hrest
  · intro hrest
    exact ⟨_, _, hrun.mpr ⟨rfl, rfl⟩, hrest⟩

/-- Registering and answering adds the registration. -/
theorem registry_of_insert {registration : Registration Behaviour} {answerOf : Nat → Answer}
    (hrun : Runs (insert registration >>= fun handle => pure (answerOf handle)) before answer
      after) :
    after.registry = (before.registry.insert registration).1 := by
  rw [insert] at hrun
  obtain ⟨handle, middle, hinsert, hrest⟩ := runs_bind.mp hrun
  obtain ⟨-, rfl⟩ := runs_pure.mp hrest
  rw [runs_get_then] at hinsert
  dsimp only at hinsert
  rw [runs_log_then, runs_modify_then, runs_pure] at hinsert
  rw [hinsert.2]

/-- Changing the registry and answering changes the registry and nothing else of it. -/
theorem registry_of_change {change : Registry Behaviour → Registry Behaviour} {given : Answer}
    (hrun : Runs (performRegistry.change change >>= fun _ => pure given) before answer after) :
    after.registry = change before.registry := by
  rw [performRegistry.change, runs_modify_then, runs_pure] at hrun
  rw [hrun.2]

/-- A command that inserts a registration does so just if there is one. -/
theorem registry_of_insertIf {registration : Except RegistryError (Registration Behaviour)}
    (hrun : Runs (performRegistry.insertIf registration) before answer after) :
    after.registry = (before.registry.insertIf registration).2 := by
  cases registration with
  | ok registration => exact registry_of_insert hrun
  | error error =>
      obtain ⟨-, rfl⟩ := runs_pure.mp hrun
      rfl

theorem registry_of_attempt {outcome : Except RegistryError (Registry Behaviour)}
    (hrun : Runs (performRegistry.attempt outcome) before answer after) :
    after.registry = (before.registry.changeIf outcome).2 := by
  cases outcome with
  | ok registry => exact registry_of_change hrun
  | error error =>
      obtain ⟨-, rfl⟩ := runs_pure.mp hrun
      rfl

/-- A command leaves the registry that its operation leaves. -/
theorem registry_of_performRegistry {command : RegistryCommand Behaviour}
    (hrun : Runs (performRegistry command) before answer after) :
    after.registry =
      match command.operation? before.nextSerial with
      | some operation => (before.registry.perform operation).2
      | none => before.registry := by
  unfold performRegistry at hrun
  cases command with
  | register code priority | registerQueued code priority options
  | registerInScope scope code priority =>
      have hregistry := registry_of_insert (runs_instantiate_then.mp hrun)
      exact hregistry
  | registerInGroup group code priority options =>
      cases options with
      | none =>
          have hregistry := registry_of_insert (runs_instantiate_then.mp hrun)
          exact hregistry
      | some options =>
          have hregistry := registry_of_insert (runs_instantiate_then.mp hrun)
          exact hregistry
  | registerDeferred kind id priority | registerDeferredInGroup group kind id priority =>
      exact registry_of_insert hrun
  | registerFor kind code priority =>
      have hregistry := registry_of_insertIf (runs_instantiate_then.mp hrun)
      exact hregistry
  | registerNamed name code priority =>
      have hregistry := registry_of_insertIf (runs_get_then.mp (runs_instantiate_then.mp hrun))
      exact hregistry
  | declare kind | forget kind | clear => exact registry_of_change hrun
  | tag handle tags | untag handle name | remove handle =>
      exact registry_of_attempt (runs_get_then.mp hrun)
  | view kind full | hasHandlers kind =>
      obtain ⟨entries, middle, hview, hrest⟩ := runs_bind.mp hrun
      obtain ⟨-, rfl⟩ := runs_view.mp hview
      obtain ⟨-, rfl⟩ := runs_pure.mp hrest
      rfl
  | disableTag name | enableTag name | disableGroup group | enableGroup group =>
      have hregistry := registry_of_change (runs_log_then.mp hrun)
      rw [registry_record] at hregistry
      exact hregistry
  | removeGroup group | removeHandler kind id =>
      have hregistry := registry_of_change (runs_get_then.mp hrun)
      exact hregistry
  | clearScope scope =>
      rw [runs_get_then] at hrun
      unfold performRegistry.change at hrun
      dsimp only at hrun
      rw [runs_modify_then, runs_log_then, runs_pure] at hrun
      rw [hrun.2, registry_record]
      rfl
  | declared name | entry handle | size | stats | hasTag handle name | tagged name
  | isTagDisabled name | groupMembers group | isGroupDisabled group =>
      have hanswer := runs_get_then.mp hrun
      obtain ⟨-, rfl⟩ := runs_pure.mp hanswer
      rfl
  | handleText handle =>
      obtain ⟨-, rfl⟩ := runs_pure.mp hrun
      rfl

/-- Commands lead from reachable registries to reachable ones. -/
theorem reachable_of_performRegistry {command : RegistryCommand Behaviour}
    (hreachable : before.registry.Reachable)
    (hrun : Runs (performRegistry command) before answer after) : after.registry.Reachable := by
  rw [registry_of_performRegistry hrun]
  split
  · exact hreachable.perform _
  · exact hreachable

end Powers
end Plugboard
