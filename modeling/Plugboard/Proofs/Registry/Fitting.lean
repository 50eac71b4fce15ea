import Plugboard.Proofs.Registry.Commands
import Plugboard.Proofs.Registry.Holdings

/-!
# Entries fit their kind

A handler is registered under the kind that it accepts, a queued entry copies points of its
own kind, and nothing that happens to an entry later changes either.  So the views of a
registry hold entries that fit the kind of the view, also where kinds share a name.
-/

namespace Plugboard

variable {ρ : Type}

/-- The entry is for points of the kind: a handler that it holds accepts them, and what it
hands to a queue copies them.  What a deferred entry stands for is not known here. -/
structure Entry.Fits (entry : Entry ρ) (kind : PointKind) : Prop where
  point : entry.point = kind
  accepts : ∀ handler, entry.handler = .live handler → handler.accepts = kind
  copies : ∀ plan, entry.queue = some plan → plan.copies = kind

theorem Entry.Fits.withTags {entry : Entry ρ} {kind : PointKind} (hfits : entry.Fits kind)
    (tags : TagSet) : (entry.withTags tags).Fits kind :=
  ⟨hfits.point, hfits.accepts, hfits.copies⟩

/-- The registrations that the registry can be asked for: of a handler under what it accepts,
or of an id, each perhaps queued, in a group or in a scope. -/
inductive Registration.Proper : Registration ρ → Prop where
  | live (handler : Handler ρ) (priority : Int) : Proper (.live handler priority)
  | deferred (kind : PointKind) (id : HandlerId) (priority : Int) :
      Proper (.deferred kind id priority)
  | queued {registration : Registration ρ} (hproper : registration.Proper)
      (options : QueueOptions) : Proper (registration.queued options)
  | inGroup {registration : Registration ρ} (hproper : registration.Proper) (group : String) :
      Proper (registration.inGroup group)
  | inScope {registration : Registration ρ} (hproper : registration.Proper) (scope : String) :
      Proper (registration.inScope scope)

/-- A proper registration becomes an entry that fits its kind. -/
theorem Registration.Proper.fits {registration : Registration ρ}
    (hproper : registration.Proper) (handle : Nat) :
    (registration.toEntry handle).Fits registration.point := by
  induction hproper with
  | live handler priority =>
      refine ⟨rfl, ?_, ?_⟩
      · intro other hother
        cases hother
        rfl
      · intro plan hplan
        cases hplan
  | deferred kind id priority =>
      refine ⟨rfl, ?_, ?_⟩
      · intro other hother
        cases hother
      · intro plan hplan
        cases hplan
  | queued _ options ih =>
      refine ⟨rfl, ih.accepts, ?_⟩
      intro plan hplan
      cases hplan
      rfl
  | inGroup _ group ih => exact ⟨rfl, ih.accepts, ih.copies⟩
  | inScope _ scope ih => exact ⟨rfl, ih.accepts, ih.copies⟩

/-- Whatever the operation registers is a proper registration. -/
def RegistryOperation.Proper (operation : RegistryOperation ρ) : Prop :=
  ∀ registration, operation.registration? = some registration → registration.Proper

theorem RegistryOperation.proper_of_none {operation : RegistryOperation ρ}
    (hnone : operation.registration? = none) : operation.Proper := by
  intro registration hregistration
  rw [hnone] at hregistration
  cases hregistration

theorem RegistryOperation.proper_of_some {operation : RegistryOperation ρ}
    {registration : Registration ρ} (hsome : operation.registration? = some registration)
    (hproper : registration.Proper) : operation.Proper := by
  intro other hother
  rw [hsome] at hother
  obtain rfl := Option.some.inj hother
  exact hproper

/-- Every command asks for a proper registration, or for none. -/
theorem RegistryCommand.proper_of_operation? {command : RegistryCommand Behaviour} {serial : Nat}
    {operation : RegistryOperation Behaviour}
    (hoperation : command.operation? serial = some operation) : operation.Proper := by
  cases command with
  | register _ _ | registerFor _ _ _ | registerNamed _ _ _ =>
      cases hoperation
      exact RegistryOperation.proper_of_some rfl (.live _ _)
  | registerQueued _ _ options =>
      cases hoperation
      exact RegistryOperation.proper_of_some rfl (.queued (.live _ _) options)
  | registerDeferred _ _ _ =>
      cases hoperation
      exact RegistryOperation.proper_of_some rfl (.deferred _ _ _)
  | registerInScope scope _ _ =>
      cases hoperation
      exact RegistryOperation.proper_of_some rfl (.inScope (.live _ _) scope)
  | registerInGroup group code priority options =>
      cases options with
      | none =>
          cases hoperation
          exact RegistryOperation.proper_of_some rfl (.inGroup (.live _ _) _)
      | some options =>
          cases hoperation
          exact RegistryOperation.proper_of_some rfl (.inGroup (.queued (.live _ _) _) _)
  | registerDeferredInGroup group kind id priority =>
      cases hoperation
      exact RegistryOperation.proper_of_some rfl (.inGroup (.deferred _ _ _) _)
  | declare _ | view _ _ | hasHandlers _ | tag _ _ | untag _ _ | disableTag _ | enableTag _
  | disableGroup _ | enableGroup _ | remove _ | removeHandler _ _ | removeGroup _
  | clearScope _ | forget _ | clear =>
      cases hoperation
      exact RegistryOperation.proper_of_none rfl
  | declared _ | entry _ | handleText _ | size | stats | hasTag _ _ | tagged _
  | isTagDisabled _ | groupMembers _ | isGroupDisabled _ => cases hoperation

namespace Registry

/-- The registries that proper operations lead to, starting from an empty one. -/
inductive Built : Registry ρ → Prop where
  | empty : Built .empty
  | perform {registry : Registry ρ} {operation : RegistryOperation ρ} (hbuilt : registry.Built)
      (hproper : operation.Proper) : Built (registry.perform operation).2

variable {registry : Registry ρ}

/-- Every live entry of a built registry fits its kind. -/
theorem Built.exists_ledger (hbuilt : registry.Built) :
    ∃ ledger, registry.Mirrors ledger ∧ ∀ entry ∈ ledger.live, entry.Fits entry.point := by
  induction hbuilt with
  | empty =>
      refine ⟨.empty, mirrors_empty, ?_⟩
      intro entry hentry
      cases hentry
  | perform _ hproper ih =>
      obtain ⟨ledger, hmirrors, hfits⟩ := ih
      refine ⟨_, hmirrors.perform _, ?_⟩
      intro entry hentry
      rcases Ledger.mem_live_follow.mp hentry with
        ⟨registration, handle, hregistration, -, rfl⟩ | ⟨before, hbefore, -, rfl⟩
      · exact (hproper registration hregistration).fits handle
      · exact (hfits before hbefore).withTags _

/-- Whatever is in the view of a kind is for points of it. -/
theorem Built.fits_of_mem_view (hbuilt : registry.Built) {kind : PointKind} {entry : Entry ρ}
    (hentry : entry ∈ registry.view kind) : entry.Fits kind := by
  obtain ⟨ledger, hmirrors, hfits⟩ := hbuilt.exists_ledger
  rw [view_of_remembersRightly hmirrors.views, freshView, mem_sortByPriority] at hentry
  obtain ⟨hlive, rfl⟩ := hmirrors.mem_entriesOf.mp (List.mem_filter.mp hentry).1
  exact hfits entry hlive

end Registry

end Plugboard
