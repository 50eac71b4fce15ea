import Plugboard.Proofs.Registry.Fitting

/-!
# Registries with an entry less

Removing an entry takes it out of the view of its kind and leaves the other entries of the view in
their order.  The registries looked at here are those that commands lead to: in these an entry that
is queued holds its handler.
-/

namespace Plugboard

variable {ρ : Type}

namespace Registry

/-! ## Removing -/

def without (registry : Registry ρ) (entry : Entry ρ) : Registry ρ :=
  (registry.perform (.remove entry.handle)).2

namespace Mirrors

variable {registry : Registry ρ} {ledger : Ledger ρ}

/-- A view has the live entries of its kind that are enabled. -/
theorem mem_view (hmirrors : registry.Mirrors ledger) {entry : Entry ρ} {kind : PointKind} :
    entry ∈ registry.view kind ↔
      entry ∈ ledger.live ∧ entry.point = kind ∧ ledger.Enables entry := by
  rw [hmirrors.view_eq]
  simp [Ledger.view]

/-- Entries that are struck out are missing from the views, and nothing else changes. -/
theorem view_strike (hmirrors : registry.Mirrors ledger) {struck : Registry ρ}
    {applies : Entry ρ → Bool} (hstruck : struck.Mirrors (ledger.strike applies))
    (kind : PointKind) :
    struck.view kind = (registry.view kind).filter fun entry => !applies entry := by
  obtain ⟨hnodup, hsorted⟩ := hmirrors.nodup_and_pairwise_view kind
  obtain ⟨hstruckNodup, hstruckSorted⟩ := hstruck.nodup_and_pairwise_view kind
  have hmem : ∀ entry, entry ∈ struck.view kind ↔
      entry ∈ (registry.view kind).filter fun entry => !applies entry := by
    intro entry
    rw [List.mem_filter, hstruck.mem_view, hmirrors.mem_view, Ledger.strike, List.mem_filter]
    constructor
    · rintro ⟨⟨hlive, hstays⟩, hkind, henables⟩
      exact ⟨⟨hlive, hkind, henables⟩, hstays⟩
    · rintro ⟨⟨hlive, hkind, henables⟩, hstays⟩
      exact ⟨⟨hlive, hstays⟩, hkind, henables⟩
  have hperm : (struck.view kind).Perm ((registry.view kind).filter fun entry => !applies entry) :=
    (List.perm_ext_iff_of_nodup hstruckNodup (hnodup.filter _)).mpr hmem
  apply hperm.eq_of_pairwise _ hstruckSorted (hsorted.filter _)
  intro left right _ _ hbelow habove
  exact absurd habove hbelow.asymm

/-- The view without an entry is the view with the entry cut out. -/
theorem view_without (hmirrors : registry.Mirrors ledger) {kind : PointKind} {entry : Entry ρ}
    {early rest : List (Entry ρ)} (hview : registry.view kind = early ++ entry :: rest) :
    (registry.without entry).view kind = early ++ rest := by
  have hnodup := (hmirrors.nodup_and_pairwise_view kind).1
  have hothers : ∀ other ∈ early ++ rest, (!(other.handle == entry.handle)) = true := by
    intro other hother
    have hmem : other ∈ registry.view kind ∧ entry ∈ registry.view kind := by
      rw [hview]
      constructor
      · exact (List.sublist_cons_self entry rest).append_left early |>.subset hother
      · exact List.mem_append_right early List.mem_cons_self
    rw [Bool.not_eq_true', beq_eq_false_iff_ne]
    intro hsame
    have heq : other = entry := hmirrors.registered.eq_of_handle_eq
      (hmirrors.mem_view.mp hmem.1).1 (hmirrors.mem_view.mp hmem.2).1 hsame
    rw [hview, List.nodup_middle, List.nodup_cons] at hnodup
    exact hnodup.1 (heq ▸ hother)
  obtain ⟨hearly, hrest⟩ := List.forall_mem_append.mp hothers
  rw [without, Registry.perform, hmirrors.view_strike (hmirrors.remove entry.handle), hview,
    List.filter_append, List.filter_cons_of_neg (by simp), List.filter_eq_self.mpr hearly,
    List.filter_eq_self.mpr hrest]

end Mirrors

/-! ## What commands lead to -/

/-- The registries that commands lead to, starting from an empty one. -/
inductive Commanded : Registry Behaviour → Prop where
  | empty : Commanded .empty
  | perform {registry : Registry Behaviour} {command : RegistryCommand Behaviour} {serial : Nat}
      {operation : RegistryOperation Behaviour} (hcommanded : registry.Commanded)
      (hoperation : command.operation? serial = some operation) :
      Commanded (registry.perform operation).2

variable {registry : Registry Behaviour}

theorem commanded_of_performRegistry {command : RegistryCommand Behaviour} {before after : Engine}
    {answer : Answer} (hcommanded : before.registry.Commanded)
    (hrun : Engine.Runs (Powers.performRegistry command) before answer after) :
    after.registry.Commanded := by
  rw [Powers.registry_of_performRegistry hrun]
  split
  · rename_i operation hoperation
    exact hcommanded.perform hoperation
  · exact hcommanded

/-- What commands lead to was built by proper operations. -/
theorem Commanded.built (hcommanded : registry.Commanded) : registry.Built := by
  induction hcommanded with
  | empty => exact .empty
  | perform _ hoperation ih => exact ih.perform (RegistryCommand.proper_of_operation? hoperation)

/-- Whatever a command registers holds its handler if it is queued. -/
theorem exists_live_of_operation? {command : RegistryCommand Behaviour} {serial : Nat}
    {operation : RegistryOperation Behaviour} {registration : Registration Behaviour}
    (hoperation : command.operation? serial = some operation)
    (hregistration : operation.registration? = some registration)
    (hqueued : registration.queue.isSome = true) :
    ∃ handler, registration.handler = .live handler := by
  cases command with
  | register _ _ | registerQueued _ _ _ | registerFor _ _ _ | registerNamed _ _ _
  | registerInScope _ _ _ =>
      cases hoperation
      cases hregistration
      exact ⟨_, rfl⟩
  | registerInGroup _ _ _ options =>
      cases options with
      | none | some _ =>
          cases hoperation
          cases hregistration
          exact ⟨_, rfl⟩
  | registerDeferred _ _ _ | registerDeferredInGroup _ _ _ _ =>
      cases hoperation
      cases hregistration
      cases hqueued
  | declare _ | view _ _ | hasHandlers _ | tag _ _ | untag _ _ | disableTag _ | enableTag _
  | disableGroup _ | enableGroup _ | remove _ | removeHandler _ _ | removeGroup _
  | clearScope _ | forget _ | clear =>
      cases hoperation
      cases hregistration
  | declared _ | entry _ | handleText _ | size | stats | hasTag _ _ | tagged _
  | isTagDisabled _ | groupMembers _ | isGroupDisabled _ => cases hoperation

theorem Commanded.exists_ledger (hcommanded : registry.Commanded) :
    ∃ ledger, registry.Mirrors ledger ∧ ∀ entry ∈ ledger.live, entry.isQueued = true →
      ∃ handler, entry.handler = .live handler := by
  induction hcommanded with
  | empty =>
      refine ⟨.empty, mirrors_empty, ?_⟩
      intro entry hentry
      cases hentry
  | perform _ hoperation ih =>
      obtain ⟨ledger, hmirrors, hlive⟩ := ih
      refine ⟨_, hmirrors.perform _, ?_⟩
      intro entry hentry hqueued
      rcases Ledger.mem_live_follow.mp hentry with
        ⟨registration, handle, hregistration, -, rfl⟩ | ⟨before, hbefore, -, rfl⟩
      · exact exists_live_of_operation? hoperation hregistration hqueued
      · exact hlive before hbefore hqueued

/-- An entry that is queued holds its handler. -/
theorem Commanded.exists_live (hcommanded : registry.Commanded) {kind : PointKind}
    {entry : Entry Behaviour} (hentry : entry ∈ registry.view kind)
    (hqueued : entry.isQueued = true) : ∃ handler, entry.handler = .live handler := by
  obtain ⟨ledger, hmirrors, hlive⟩ := hcommanded.exists_ledger
  exact hlive entry (hmirrors.mem_view.mp hentry).1 hqueued

end Registry
end Plugboard
