import Mathlib.Data.List.Perm.Basic
import Plugboard.Proofs.Registry.Holdings
import Plugboard.Proofs.Registry.Views
import Plugboard.Registry.Report

/-!
# Handles

A registry keeps two indexes: where each handle is, and the entries of each kind.  Every
operation keeps both the same.  So a handle is good from the registration that returned it
until an operation removes the entry, always stands for what was registered then, and is
never returned again.
-/

namespace Plugboard

variable {ρ : Type}

theorem Table.mem_keys_iff {κ α : Type} [DecidableEq κ] {table : Table κ α}
    (hkeys : table.keys.Nodup) {key : κ} :
    key ∈ table.keys ↔ ∃ value, table.get? key = some value := by
  simp [keys, ← mem_iff_get? hkeys]

namespace Registry

/-- The locations and the lists of the kinds hold the same entries. -/
structure Indexed (registry : Registry ρ) : Prop where
  kinds : registry.points.keys.Nodup
  handles : registry.locations.keys.Nodup
  located : ∀ handle kind, registry.locations.get? handle = some kind ↔
    ∃ entry ∈ registry.entriesOf kind, entry.handle = handle ∧ entry.point = kind ∧
      ∀ other ∈ registry.allEntries, other.handle = handle → other = entry
  single : registry.allEntries.Nodup
  ordered : ∀ kind, Registered (registry.entriesOf kind)
  below : ∀ entry ∈ registry.allEntries, entry.handle < registry.nextHandle

/-- What is asked of the entry with a handle becomes of this entry, and of no other; without
such an entry the handle is unknown. -/
structure Changes (registry : Registry ρ) (handle : Nat) (change : Entry ρ → Option (Entry ρ))
    (outcome : Except RegistryError (Registry ρ)) : Prop where
  accepted : ∀ entry, registry.entry? handle = some entry →
    ∃ after, outcome = .ok after ∧ after.entry? handle = change entry ∧
      ∀ other, other ≠ handle → after.entry? other = registry.entry? other
  refused : registry.entry? handle = none → outcome = .error (.unknownEntry handle)

/-- The entries that match are removed, and their number is returned. -/
structure Strikes (registry : Registry ρ) (applies : Entry ρ → Bool)
    (outcome : Registry ρ × Nat) : Prop where
  entries : ∀ handle, Registry.entry? outcome.1 handle =
    (registry.entry? handle).filter fun entry => !applies entry
  count : outcome.2 = registry.allEntries.countP applies
  balance : outcome.1.size + outcome.2 = registry.size

/-! ## What one operation does to the locations -/

theorem dropLocations_sublist (locations : Table Nat PointKind) (entries : List (Entry ρ)) :
    (dropLocations locations entries).Sublist locations := by
  induction entries generalizing locations with
  | nil => exact List.Sublist.refl _
  | cons entry rest ih => exact (ih (locations.remove entry.handle)).trans List.filter_sublist

/-- An operation returns the next handle and locates it, or it returns none and locates
nothing new. -/
def Locates (before after : Registry ρ) (reply : RegistryReply ρ) : Prop :=
  (∃ kind, reply.handle? = some before.nextHandle ∧
      after.locations = before.locations.set before.nextHandle kind ∧
      after.nextHandle = before.nextHandle + 1) ∨
    (reply.handle? = none ∧ after.locations.Sublist before.locations ∧
      after.nextHandle = before.nextHandle)

variable {registry after : Registry ρ} {reply : RegistryReply ρ}

theorem locates_same (hnone : reply.handle? = none)
    (hlocations : after.locations = registry.locations)
    (hnext : after.nextHandle = registry.nextHandle) : registry.Locates after reply := by
  refine .inr ⟨hnone, ?_, hnext⟩
  rw [hlocations]

theorem locates_insertIf (registry : Registry ρ)
    (registration : Except RegistryError (Registration ρ)) :
    registry.Locates (registry.insertIf registration).2 (registry.insertIf registration).1 := by
  cases registration with
  | ok registration => exact .inl ⟨registration.point, rfl, rfl, rfl⟩
  | error error => exact locates_same rfl rfl rfl

theorem locates_modifyEntry (registry : Registry ρ) (handle : Nat) (change : Entry ρ → Entry ρ) :
    registry.Locates (registry.changeIf (registry.modifyEntry handle change)).2
      (registry.changeIf (registry.modifyEntry handle change)).1 := by
  rw [modifyEntry]
  split <;> exact locates_same rfl rfl rfl

theorem locates_remove (registry : Registry ρ) (handle : Nat) :
    registry.Locates (registry.changeIf (registry.remove handle)).2
      (registry.changeIf (registry.remove handle)).1 := by
  rw [remove]
  split
  · exact locates_same rfl rfl rfl
  · exact .inr ⟨rfl, List.filter_sublist, rfl⟩

/-- Every operation locates what it registers, and locates nothing else anew. -/
theorem locates_perform (registry : Registry ρ) (operation : RegistryOperation ρ) :
    registry.Locates (registry.perform operation).2 (registry.perform operation).1 := by
  cases operation with
  | register _ | registerFor _ _ _ | registerNamed _ _ _ => exact locates_insertIf registry _
  | tag handle _ | untag handle _ => exact locates_modifyEntry registry handle _
  | remove handle => exact locates_remove registry handle
  | removeHandler _ _ | removeGroup _ | clearScope _ | forget _ =>
      exact .inr ⟨rfl, dropLocations_sublist _ _, rfl⟩
  | clear => exact .inr ⟨rfl, List.nil_sublist _, rfl⟩
  | declare _ | view _ | disableTag _ | enableTag _ | disableGroup _ | enableGroup _ =>
      exact locates_same rfl rfl rfl

/-! ## Registries with their history -/

/-- A registry is what its history says: it mirrors the ledger, its locations are told apart by
their handles, and the handles were given out one after the other. -/
structure Accounts (registry : Registry ρ) (history : RegistryHistory ρ) : Prop where
  mirrors : registry.Mirrors (Ledger.empty.replay history)
  locations : registry.locations.keys.Nodup
  next : registry.nextHandle = history.handles.length + 1
  handles : history.handles = List.range' 1 history.handles.length

theorem accounts_empty : (empty : Registry ρ).Accounts [] where
  mirrors := mirrors_empty
  locations := List.nodup_nil
  next := rfl
  handles := rfl

namespace Accounts

variable {history : RegistryHistory ρ}

/-- A registry accounts for each operation by its reply. -/
theorem perform (haccounts : registry.Accounts history) (operation : RegistryOperation ρ) :
    (registry.perform operation).2.Accounts
      (history ++ [(operation, (registry.perform operation).1)]) := by
  have hmirrors := haccounts.mirrors.perform operation
  rw [← Ledger.replay_concat] at hmirrors
  have hhandles := RegistryHistory.handles_concat history operation (registry.perform operation).1
  rcases locates_perform registry operation with
    ⟨kind, hreply, hlocations, hnext⟩ | ⟨hreply, hlocations, hnext⟩
  · rw [hreply, Option.toList_some] at hhandles
    constructor
    case mirrors => exact hmirrors
    case locations =>
      rw [hlocations]
      exact Table.nodup_keys_set haccounts.locations _ _
    case next =>
      rw [hhandles, hnext, haccounts.next, List.length_append, List.length_singleton]
    case handles =>
      rw [hhandles, List.length_append, List.length_singleton, List.range'_concat,
        ← haccounts.handles, haccounts.next, Nat.one_mul, Nat.add_comm]
  · rw [hreply, Option.toList_none, List.append_nil] at hhandles
    constructor
    case mirrors => exact hmirrors
    case locations => exact haccounts.locations.sublist (hlocations.map Prod.fst)
    case next => rw [hhandles, hnext, haccounts.next]
    case handles =>
      rw [hhandles]
      exact haccounts.handles

theorem performAll (haccounts : registry.Accounts history)
    (operations : List (RegistryOperation ρ)) :
    (registry.performAll operations).2.Accounts
      (history ++ (registry.performAll operations).1) := by
  induction operations generalizing registry history with
  | nil =>
      rw [Registry.performAll, List.append_nil]
      exact haccounts
  | cons operation rest ih =>
      have hrest := ih (haccounts.perform operation)
      rw [List.append_assoc, List.singleton_append] at hrest
      exact hrest

/-- No handle is given out twice. -/
theorem nodup_handles (haccounts : registry.Accounts history) : history.handles.Nodup := by
  rw [haccounts.handles]
  exact List.nodup_range'

theorem handle_lt (haccounts : registry.Accounts history) {handle : Nat}
    (hreturned : handle ∈ history.handles) : handle < registry.nextHandle := by
  rw [haccounts.handles, List.mem_range'_1] at hreturned
  rw [haccounts.next]
  omega

end Accounts

/-! ## Looking handles up -/

namespace Mirrors

variable {ledger : Ledger ρ} {entry : Entry ρ} {handle : Nat}

/-- A handle stands for the live entry that has it. -/
theorem entry?_eq_some_iff (hmirrors : registry.Mirrors ledger) :
    registry.entry? handle = some entry ↔ entry ∈ ledger.live ∧ entry.handle = handle := by
  constructor
  · intro hfound
    obtain ⟨kind, -, hfind⟩ := Option.bind_eq_some_iff.mp hfound
    have hmem := hmirrors.mem_entriesOf.mp (List.mem_of_find?_eq_some hfind)
    have hhandle := List.find?_some hfind
    exact ⟨hmem.1, eq_of_beq hhandle⟩
  · rintro ⟨hlive, hhandle⟩
    have hlocated := (hmirrors.located handle entry.point).mpr ⟨entry, hlive, hhandle, rfl⟩
    obtain ⟨found, hfound⟩ := hmirrors.exists_entry hlocated
    obtain ⟨kind, -, hfind⟩ := Option.bind_eq_some_iff.mp hfound
    have hmem := hmirrors.mem_entriesOf.mp (List.mem_of_find?_eq_some hfind)
    have hfoundHandle := List.find?_some hfind
    have hsame : found.handle = entry.handle := (eq_of_beq hfoundHandle).trans hhandle.symm
    rw [hfound, hmirrors.registered.eq_of_handle_eq hmem.1 hlive hsame]

/-- What is not found is not located either. -/
theorem entry?_eq_none_iff (hmirrors : registry.Mirrors ledger) :
    registry.entry? handle = none ↔ registry.locations.get? handle = none := by
  constructor
  · intro hnone
    cases hlocated : registry.locations.get? handle with
    | none => rfl
    | some kind =>
        obtain ⟨found, hfound⟩ := hmirrors.exists_entry hlocated
        rw [hnone] at hfound
        cases hfound
  · intro hnone
    rw [ entry?, hnone, Option.bind_none]

theorem entry?_strike (hmirrors : registry.Mirrors ledger) {applies : Entry ρ → Bool}
    (hafter : after.Mirrors (ledger.strike applies)) (handle : Nat) :
    after.entry? handle = (registry.entry? handle).filter fun entry => !applies entry := by
  apply Option.ext
  intro entry
  rw [hafter.entry?_eq_some_iff, Option.filter_eq_some_iff, hmirrors.entry?_eq_some_iff,
    Ledger.strike, List.mem_filter]
  tauto

theorem entry?_retag (hmirrors : registry.Mirrors ledger) {target : Nat}
    {change : TagSet → TagSet} (hafter : after.Mirrors (ledger.retag target change))
    (handle : Nat) :
    after.entry? handle = (registry.entry? handle).map fun entry =>
      if entry.handle = target then entry.withTags (change entry.tags) else entry := by
  apply Option.ext
  intro entry
  rw [hafter.entry?_eq_some_iff, Option.map_eq_some_iff, Ledger.retag, List.mem_map]
  constructor
  · rintro ⟨⟨before, hbefore, rfl⟩, hhandle⟩
    have hsame : before.handle = handle := by
      rw [← hhandle]
      split <;> rfl
    exact ⟨before, hmirrors.entry?_eq_some_iff.mpr ⟨hbefore, hsame⟩, rfl⟩
  · rintro ⟨before, hbefore, rfl⟩
    obtain ⟨hlive, hsame⟩ := hmirrors.entry?_eq_some_iff.mp hbefore
    refine ⟨⟨before, hlive, rfl⟩, ?_⟩
    split <;> exact hsame

theorem changes_modifyEntry (hmirrors : registry.Mirrors ledger) (handle : Nat)
    (change : TagSet → TagSet) :
    registry.Changes handle (fun entry => some (entry.withTags (change entry.tags)))
      (registry.modifyEntry handle fun entry => { entry with tags := change entry.tags }) := by
  have hretag := hmirrors.retag handle change
  constructor
  case accepted =>
    intro entry hentry
    cases hlocated : registry.locations.get? handle with
    | none =>
        rw [hmirrors.entry?_eq_none_iff.mpr hlocated] at hentry
        cases hentry
    | some kind =>
        simp only [modifyEntry, hlocated, hentry, changeIf] at hretag ⊢
        refine ⟨_, rfl, ?_, ?_⟩
        · have hhandle := (hmirrors.entry?_eq_some_iff.mp hentry).2
          rw [hmirrors.entry?_retag hretag, hentry, Option.map_some, if_pos hhandle]
        · intro other hother
          rw [hmirrors.entry?_retag hretag]
          cases hfound : registry.entry? other with
          | none => rfl
          | some found =>
              have hhandle := (hmirrors.entry?_eq_some_iff.mp hfound).2
              rw [Option.map_some, hhandle, if_neg hother]
  case refused =>
    intro hnone
    simp [modifyEntry, hmirrors.entry?_eq_none_iff.mp hnone]

theorem changes_remove (hmirrors : registry.Mirrors ledger) (handle : Nat) :
    registry.Changes handle (fun _ => none) (registry.remove handle) := by
  have hremove := hmirrors.remove handle
  constructor
  case accepted =>
    intro entry hentry
    cases hlocated : registry.locations.get? handle with
    | none =>
        rw [hmirrors.entry?_eq_none_iff.mpr hlocated] at hentry
        cases hentry
    | some kind =>
        simp only [Registry.remove, hlocated, changeIf] at hremove ⊢
        refine ⟨_, rfl, ?_, ?_⟩
        · have hhandle := (hmirrors.entry?_eq_some_iff.mp hentry).2
          rw [hmirrors.entry?_strike hremove, hentry]
          simp [Option.filter, hhandle]
        · intro other hother
          rw [hmirrors.entry?_strike hremove]
          cases hfound : registry.entry? other with
          | none => rfl
          | some found =>
              have hhandle := (hmirrors.entry?_eq_some_iff.mp hfound).2
              simp [Option.filter, hhandle, hother]
  case refused =>
    intro hnone
    rw [Registry.remove, hmirrors.entry?_eq_none_iff.mp hnone]

/-! ## Counting -/

/-- There are as many entries as are live. -/
theorem size_eq (hmirrors : registry.Mirrors ledger)
    (hhandles : registry.locations.keys.Nodup) : registry.size = ledger.live.length := by
  have hlive : (ledger.live.map Entry.handle).Nodup :=
    List.pairwise_map.mpr (hmirrors.registered.imp Nat.ne_of_lt)
  have hperm : registry.locations.keys.Perm (ledger.live.map Entry.handle) := by
    apply (List.perm_ext_iff_of_nodup hhandles hlive).mpr
    intro handle
    rw [Table.mem_keys_iff hhandles, List.mem_map]
    simp [hmirrors.located]
  have hlength := hperm.length_eq
  rw [Table.keys, List.length_map, List.length_map] at hlength
  exact hlength

/-- The locations shrink by the number of entries that match, so subtracting their numbers
counts these entries. -/
theorem strikes_removeWhere (hmirrors : registry.Mirrors ledger)
    (hhandles : registry.locations.keys.Nodup) (applies : Entry ρ → Bool) :
    registry.Strikes applies (registry.removeWhere applies) := by
  have hafter := hmirrors.removeWhere applies
  have hkept : (registry.removeWhere applies).1.locations.keys.Nodup :=
    hhandles.sublist ((dropLocations_sublist _ _).map Prod.fst)
  have hbefore := hmirrors.size_eq hhandles
  have hleft := hafter.size_eq hkept
  have hreturned : (registry.removeWhere applies).2 =
      registry.size - (registry.removeWhere applies).1.size := rfl
  have hsplit := ledger.live.length_eq_countP_add_countP applies
  rw [Ledger.strike, ← List.countP_eq_length_filter] at hleft
  have hothers : (ledger.live.countP fun entry => !applies entry) =
      ledger.live.countP fun entry => decide (¬ applies entry = true) := by
    apply List.countP_congr
    intro entry _
    simp
  have hcount := hmirrors.allEntries_perm.countP_eq applies
  constructor
  case entries => exact hmirrors.entry?_strike hafter
  case count => omega
  case balance => omega

end Mirrors

/-! ## The handles of a run -/

namespace Accounts

variable {history : RegistryHistory ρ}

theorem entry?_eq_some_iff (haccounts : registry.Accounts history) (handle : Nat)
    (entry : Entry ρ) :
    registry.entry? handle = some entry ↔ history.Holds entry ∧ entry.handle = handle := by
  rw [haccounts.mirrors.entry?_eq_some_iff, Ledger.mem_live_replay]

/-- The entries of a registry are those that its history holds. -/
theorem mem_allEntries (haccounts : registry.Accounts history) (entry : Entry ρ) :
    entry ∈ registry.allEntries ↔ history.Holds entry := by
  rw [haccounts.mirrors.mem_allEntries, Ledger.mem_live_replay]

theorem indexed (haccounts : registry.Accounts history) : registry.Indexed := by
  have hmirrors := haccounts.mirrors
  constructor
  case kinds => exact hmirrors.kinds
  case handles => exact haccounts.locations
  case located =>
    intro handle kind
    rw [hmirrors.located]
    constructor
    · rintro ⟨entry, hlive, hhandle, hkind⟩
      refine ⟨entry, hmirrors.mem_entriesOf.mpr ⟨hlive, hkind⟩, hhandle, hkind, ?_⟩
      intro other hother hsame
      exact hmirrors.registered.eq_of_handle_eq ((hmirrors.mem_allEntries other).mp hother) hlive
        (hsame.trans hhandle.symm)
    · rintro ⟨entry, hmem, hhandle, hkind, -⟩
      exact ⟨entry, (hmirrors.mem_entriesOf.mp hmem).1, hhandle, hkind⟩
  case single => exact hmirrors.nodup_allEntries
  case ordered =>
    intro kind
    rw [hmirrors.entries]
    exact hmirrors.registered.filter _
  case below =>
    intro entry hentry
    exact hmirrors.handles entry ((hmirrors.mem_allEntries entry).mp hentry)

/-- A handle that was returned and is not found any more is never found again. -/
theorem entry?_performAll_eq_none (haccounts : registry.Accounts history) {handle : Nat}
    (hreturned : handle ∈ history.handles) (hgone : registry.entry? handle = none)
    (operations : List (RegistryOperation ρ)) :
    Registry.entry? (registry.performAll operations).2 handle = none := by
  induction operations generalizing registry history with
  | nil => exact hgone
  | cons operation rest ih =>
      have hstep := haccounts.perform operation
      have hhandles := RegistryHistory.handles_concat history operation
        (registry.perform operation).1
      apply ih hstep
      · rw [hhandles]
        exact List.mem_append_left _ hreturned
      · apply Option.eq_none_iff_forall_ne_some.mpr
        intro entry hentry
        obtain ⟨hholds, hhandle⟩ := (hstep.entry?_eq_some_iff handle entry).mp hentry
        rcases RegistryHistory.holds_concat_iff.mp hholds with
          ⟨registration, fresh, -, hreply, rfl⟩ | ⟨before, hbefore, -, rfl⟩
        · -- The handle would have been returned twice.
          have hnodup := hstep.nodup_handles
          rw [hhandles, hreply] at hnodup
          obtain rfl : fresh = handle := hhandle
          exact (List.nodup_append.mp hnodup).2.2 fresh hreturned fresh
            (List.mem_singleton_self fresh) rfl
        · have hfound := (haccounts.entry?_eq_some_iff handle before).mpr ⟨hbefore, hhandle⟩
          rw [hgone] at hfound
          cases hfound

end Accounts

/-- After any run of a new registry its two indexes agree.  The handles that it returned are
all different.  A handle is found exactly while a registration returned it and nothing
removed the entry since, and it stands for what was registered then, with the tags that it
was given since; tagging, untagging and removing concern this entry alone, and are refused
for every other handle.  A handle that was removed stays unknown whatever comes later.  The
size is the number of entries, and removing by group, scope or handler returns the number of
entries that matched, enabled or not. -/
theorem handles_stand_for_registrations (operations : List (RegistryOperation ρ)) :
    let history : RegistryHistory ρ := ((empty : Registry ρ).performAll operations).1
    let registry := ((empty : Registry ρ).performAll operations).2
    registry.Indexed ∧
      (history.handles.Nodup ∧ ∀ handle ∈ history.handles, handle < registry.nextHandle) ∧
      (∀ entry, entry ∈ registry.allEntries ↔ history.Holds entry) ∧
      (∀ handle entry, registry.entry? handle = some entry ↔
        history.Holds entry ∧ entry.handle = handle) ∧
      (∀ handle tags, registry.Changes handle
        (fun entry => some (entry.withTags (entry.tags.insertAll tags)))
        (registry.tag handle tags)) ∧
      (∀ handle tag, registry.Changes handle
        (fun entry => some (entry.withTags (entry.tags.remove tag))) (registry.untag handle tag)) ∧
      (∀ handle, registry.Changes handle (fun _ => none) (registry.remove handle)) ∧
      (∀ handle ∈ history.handles, registry.entry? handle = none → ∀ later,
        Registry.entry? (registry.performAll later).2 handle = none ∧
          (∀ tags, (registry.performAll later).2.tag handle tags = .error (.unknownEntry handle)) ∧
          (∀ tag, (registry.performAll later).2.untag handle tag = .error (.unknownEntry handle)) ∧
          (registry.performAll later).2.remove handle = .error (.unknownEntry handle)) ∧
      registry.size = registry.stats.entries ∧
      (∀ group, registry.Strikes (fun entry => entry.group = some group)
        (registry.removeGroup group)) ∧
      (∀ scope, registry.Strikes (fun entry => entry.scope = some scope)
        (registry.clearScope scope)) ∧
      (∀ kind id, registry.Strikes (fun entry => entry.point = kind ∧ entry.id = id)
        (registry.removeHandler kind id)) := by
  intro history registry
  have haccounts : registry.Accounts history := accounts_empty.performAll operations
  have hmirrors := haccounts.mirrors
  have hstrikes (applies : Entry ρ → Bool) :=
    hmirrors.strikes_removeWhere haccounts.locations applies
  refine ⟨haccounts.indexed, ⟨haccounts.nodup_handles, fun _ => haccounts.handle_lt⟩,
    haccounts.mem_allEntries, haccounts.entry?_eq_some_iff, ?tag, ?untag,
    hmirrors.changes_remove, ?gone, ?size, ?group, ?scope, ?handler⟩
  case tag =>
    intro handle tags
    exact hmirrors.changes_modifyEntry handle fun set => set.insertAll tags
  case untag =>
    intro handle tag
    exact hmirrors.changes_modifyEntry handle fun set => set.remove tag
  case gone =>
    intro handle hreturned hgone later
    have hnone := haccounts.entry?_performAll_eq_none hreturned hgone later
    have hlater := (haccounts.performAll later).mirrors
    refine ⟨hnone, ?_, ?_, (hlater.changes_remove handle).refused hnone⟩
    · intro tags
      exact (hlater.changes_modifyEntry handle fun set => set.insertAll tags).refused hnone
    · intro tag
      exact (hlater.changes_modifyEntry handle fun set => set.remove tag).refused hnone
  case size =>
    rw [hmirrors.size_eq haccounts.locations]
    exact hmirrors.allEntries_perm.length_eq.symm
  case group =>
    intro group
    have happlies : (fun entry : Entry ρ => decide (entry.group = some group)) =
        Entry.inGroup group := by
      funext entry
      simp [Entry.inGroup, Bool.beq_eq_decide_eq]
    rw [happlies]
    exact hstrikes (Entry.inGroup group)
  case scope =>
    intro scope
    have happlies : (fun entry : Entry ρ => decide (entry.scope = some scope)) =
        Entry.inScope scope := by
      funext entry
      simp [Entry.inScope, Bool.beq_eq_decide_eq]
    rw [happlies]
    exact hstrikes (Entry.inScope scope)
  case handler =>
    intro kind id
    have happlies : (fun entry : Entry ρ => decide (entry.point = kind ∧ entry.id = id)) =
        fun entry => entry.point == kind && entry.id == id := by
      funext entry
      simp [Bool.beq_eq_decide_eq]
    rw [happlies]
    exact hstrikes fun entry => entry.point == kind && entry.id == id

end Registry
end Plugboard
