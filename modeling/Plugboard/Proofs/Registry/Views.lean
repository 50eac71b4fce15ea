import Plugboard.Proofs.Registry.Mirror

/-!
# Views never go stale

A registry that starts empty mirrors its ledger after every run, in whatever way looking at
views and changing the registry alternate.  So a view is always the list of enabled live
entries of its kind, sorted from scratch.
-/

namespace Plugboard

variable {ρ : Type}

namespace Registry

theorem get?_dropLocations (locations : Table Nat PointKind) (entries : List (Entry ρ))
    (handle : Nat) :
    (dropLocations locations entries).get? handle =
      if handle ∈ entries.map Entry.handle then none else locations.get? handle := by
  rw [← Table.get?_removeAll, List.foldl_map]
  rfl

theorem mirrors_empty : (empty : Registry ρ).Mirrors .empty where
  entries := fun _ => rfl
  kinds := List.nodup_nil
  located := fun _ _ => by simp [empty, Ledger.empty, Table.get?]
  registered := List.Pairwise.nil
  handles := fun _ hentry => by cases hentry
  tags := fun _ => by simp [empty, Ledger.empty]
  groups := fun _ => by simp [empty, Ledger.empty]
  views := remembersRightly_of_views_nil rfl

/-- A change of the entry with one handle that keeps its handle and its kind. -/
structure Amends (target : Nat) (update : Entry ρ → Entry ρ) : Prop where
  handle : ∀ entry, (update entry).handle = entry.handle
  point : ∀ entry, (update entry).point = entry.point
  others : ∀ entry, entry.handle ≠ target → update entry = entry

theorem Amends.map_eq_self {handle : Nat} {update : Entry ρ → Entry ρ}
    (hamends : Amends handle update) {entries : List (Entry ρ)}
    (hne : ∀ entry ∈ entries, entry.handle ≠ handle) : entries.map update = entries :=
  (List.map_congr_left fun entry hentry => hamends.others entry (hne entry hentry)).trans
    (List.map_id entries)

theorem amends_tags (handle : Nat) (change : TagSet → TagSet) :
    Amends handle fun entry : Entry ρ =>
      if entry.handle = handle then { entry with tags := change entry.tags } else entry where
  handle := fun entry => by split <;> rfl
  point := fun entry => by split <;> rfl
  others := fun entry hne => by simp [hne]

namespace Mirrors

variable {registry after : Registry ρ} {ledger : Ledger ρ}

/-! ## Adding -/

/-- A registration is entered in both. -/
theorem insert (hmirrors : registry.Mirrors ledger) (registration : Registration ρ) :
    (registry.insert registration).1.Mirrors
      (ledger.add (registration.toEntry (registry.insert registration).2)) := by
  have hfresh : ∀ entry ∈ ledger.live, entry.handle ≠ registry.nextHandle := by
    intro entry hentry
    exact Nat.ne_of_lt (hmirrors.handles entry hentry)
  have hothers : ∀ other, other ≠ registration.point →
      (registry.insert registration).1.entriesOf other = registry.entriesOf other := by
    intro other hother
    exact entriesOf_set_of_ne registry _ rfl hother
  constructor
  case entries =>
    intro kind
    by_cases hkind : kind = registration.point
    · subst hkind
      have hself := entriesOf_set_self registry (registry.insert registration).1 rfl
      rw [hself, hmirrors.entries]
      simp [Ledger.add, Registration.toEntry, Registry.insert]
    · rw [hothers kind hkind, hmirrors.entries]
      simp [Ledger.add, Registration.toEntry, Ne.symm hkind]
  case kinds => exact Table.nodup_keys_set hmirrors.kinds _ _
  case located =>
    intro handle kind
    change (registry.locations.set registry.nextHandle registration.point).get? handle = _ ↔ _
    by_cases hhandle : handle = registry.nextHandle
    · subst hhandle
      rw [Table.get?_set_self]
      constructor
      · intro hkind
        exact ⟨_, List.mem_append_right _ (List.mem_singleton_self _), rfl, Option.some.inj hkind⟩
      · rintro ⟨entry, hentry, hsame, rfl⟩
        rcases List.mem_append.mp hentry with hold | hnew
        · exact absurd hsame (hfresh entry hold)
        · rw [List.mem_singleton.mp hnew]
          rfl
    · rw [Table.get?_set_of_ne hhandle, hmirrors.located]
      constructor
      · rintro ⟨entry, hentry, hrest⟩
        exact ⟨entry, List.mem_append_left _ hentry, hrest⟩
      · rintro ⟨entry, hentry, hsame, hpoint⟩
        rcases List.mem_append.mp hentry with hold | hnew
        · exact ⟨entry, hold, hsame, hpoint⟩
        · rw [List.mem_singleton.mp hnew] at hsame
          exact absurd hsame.symm hhandle
  case registered =>
    apply List.pairwise_append.mpr
    constructor
    · exact hmirrors.registered
    · constructor
      · exact List.pairwise_singleton _ _
      · intro entry hentry added hadded
        rw [List.mem_singleton.mp hadded]
        exact hmirrors.handles entry hentry
  case handles =>
    intro entry hentry
    rcases List.mem_append.mp hentry with hold | hnew
    · exact Nat.lt_succ_of_lt (hmirrors.handles entry hold)
    · rw [List.mem_singleton.mp hnew]
      exact Nat.lt_succ_self _
  case tags => exact hmirrors.tags
  case groups => exact hmirrors.groups
  case views => exact RemembersRightly.forgetView hmirrors.views rfl rfl rfl hothers

theorem declare (hmirrors : registry.Mirrors ledger) (kind : PointKind) :
    (registry.declare kind).Mirrors ledger :=
  ⟨hmirrors.entries, hmirrors.kinds, hmirrors.located, hmirrors.registered, hmirrors.handles,
    hmirrors.tags, hmirrors.groups, hmirrors.views⟩

/-- Remembering the view of a kind remembers the right one. -/
theorem remember (hmirrors : registry.Mirrors ledger) (kind : PointKind) :
    (registry.remember kind).Mirrors ledger := by
  have hviews : (registry.remember kind).RemembersRightly := by
    intro other entries hentries
    change (registry.views.set kind (registry.view kind)).get? other = some entries at hentries
    change entries = registry.freshView other
    by_cases hother : other = kind
    · subst hother
      rw [Table.get?_set_self, Option.some.injEq] at hentries
      rw [← hentries]
      exact view_of_remembersRightly hmirrors.views other
    · rw [Table.get?_set_of_ne hother] at hentries
      exact hmirrors.views other entries hentries
  exact ⟨hmirrors.entries, hmirrors.kinds, hmirrors.located, hmirrors.registered,
    hmirrors.handles, hmirrors.tags, hmirrors.groups, hviews⟩

/-! ## Changing entries -/

/-- Changing the entry where it stands changes it in the ledger. -/
theorem amend (hmirrors : registry.Mirrors ledger) {handle : Nat} {kind : PointKind}
    (hlocated : registry.locations.get? handle = some kind) {update : Entry ρ → Entry ρ}
    (hamends : Amends handle update) :
    (({ registry with
        points := registry.points.set kind ((registry.entriesOf kind).map update) } :
      Registry ρ).forgetView kind).Mirrors { ledger with live := ledger.live.map update } := by
  have hfilter : ∀ other, (ledger.live.map update).filter (fun entry => entry.point = other) =
      (registry.entriesOf other).map update := by
    intro other
    rw [List.filter_map, hmirrors.entries]
    congr 1
    apply List.filter_congr
    intro entry _
    simp [hamends.point]
  have hothers : ∀ other, other ≠ kind →
      ({ registry with
          points := registry.points.set kind ((registry.entriesOf kind).map update) } :
        Registry ρ).entriesOf other = registry.entriesOf other := by
    intro other hother
    exact entriesOf_set_of_ne registry _ rfl hother
  constructor
  case entries =>
    intro other
    rw [hfilter]
    by_cases hkind : other = kind
    · subst hkind
      exact entriesOf_set_self registry _ rfl
    · rw [hamends.map_eq_self (hmirrors.handle_ne_of_mem_entriesOf hlocated hkind)]
      exact hothers other hkind
  case kinds => exact Table.nodup_keys_set hmirrors.kinds _ _
  case located =>
    intro other otherKind
    have hamended : (∃ entry ∈ ledger.live.map update,
        entry.handle = other ∧ entry.point = otherKind) ↔
          ∃ entry ∈ ledger.live, entry.handle = other ∧ entry.point = otherKind := by
      simp [hamends.handle, hamends.point]
    exact (hmirrors.located other otherKind).trans hamended.symm
  case registered =>
    apply List.pairwise_map.mpr
    apply hmirrors.registered.imp
    intro left right hlt
    rw [hamends.handle, hamends.handle]
    exact hlt
  case handles =>
    intro entry hentry
    obtain ⟨before, hbefore, rfl⟩ := List.mem_map.mp hentry
    rw [hamends.handle]
    exact hmirrors.handles before hbefore
  case tags => exact hmirrors.tags
  case groups => exact hmirrors.groups
  case views => exact RemembersRightly.forgetView hmirrors.views rfl rfl rfl hothers

/-- Tags change in both. -/
theorem retag (hmirrors : registry.Mirrors ledger) (handle : Nat) (change : TagSet → TagSet) :
    (registry.changeIf (registry.modifyEntry handle fun entry =>
        { entry with tags := change entry.tags })).2.Mirrors (ledger.retag handle change) := by
  have hamends : Amends handle _ := @amends_tags ρ handle change
  cases hlocated : registry.locations.get? handle with
  | none =>
      have hledger : ledger.retag handle change = ledger := by
        rw [Ledger.retag, hamends.map_eq_self (hmirrors.handle_ne_of_get?_eq_none hlocated)]
      simp only [modifyEntry, hlocated, changeIf, hledger]
      exact hmirrors
  | some kind =>
      obtain ⟨found, hfound⟩ := hmirrors.exists_entry hlocated
      simp only [modifyEntry, hlocated, hfound, changeIf]
      exact hmirrors.amend hlocated hamends

/-! ## Disabling and enabling -/

/-- When only what is disabled changes and all views are forgotten, nothing else has to be
looked at. -/
theorem toggle (hmirrors : registry.Mirrors ledger) {tags groups : Bag String}
    {ledgerTags ledgerGroups : Finset String}
    (htags : ∀ tag, tag ∈ tags ↔ tag ∈ ledgerTags)
    (hgroups : ∀ group, group ∈ groups ↔ group ∈ ledgerGroups) :
    ({ registry with disabledTags := tags, disabledGroups := groups } :
      Registry ρ).forgetViews.Mirrors ⟨ledger.live, ledgerTags, ledgerGroups⟩ :=
  ⟨hmirrors.entries, hmirrors.kinds, hmirrors.located, hmirrors.registered, hmirrors.handles,
    htags, hgroups, remembersRightly_of_views_nil rfl⟩

/-! ## Removing -/

/-- A registry that lost the entries that match, and their locations, mirrors the ledger
in which they are struck out. -/
theorem strike (hmirrors : registry.Mirrors ledger) (applies : Entry ρ → Bool)
    (hentries : ∀ kind, after.entriesOf kind =
      (registry.entriesOf kind).filter fun entry => !applies entry)
    (hkinds : after.points.keys.Nodup)
    (hgone : ∀ entry ∈ ledger.live, applies entry = true →
      after.locations.get? entry.handle = none)
    (hkept : ∀ handle, (∀ entry ∈ ledger.live, applies entry = true → entry.handle ≠ handle) →
      after.locations.get? handle = registry.locations.get? handle)
    (hnext : after.nextHandle = registry.nextHandle)
    (htags : after.disabledTags = registry.disabledTags)
    (hgroups : after.disabledGroups = registry.disabledGroups)
    (hviews : after.RemembersRightly) : after.Mirrors (ledger.strike applies) := by
  have hlive : ∀ entry, entry ∈ (ledger.strike applies).live ↔
      entry ∈ ledger.live ∧ applies entry = false := by
    intro entry
    simp [Ledger.strike]
  constructor
  case entries =>
    intro kind
    rw [hentries, hmirrors.entries, Ledger.strike, List.filter_filter, List.filter_filter]
    apply List.filter_congr
    intro entry _
    exact Bool.and_comm _ _
  case kinds => exact hkinds
  case located =>
    intro handle kind
    -- A struck handle is located nowhere, and by its handle no other entry is live.
    by_cases hstruck : ∃ entry ∈ ledger.live, applies entry = true ∧ entry.handle = handle
    · obtain ⟨struck, hmem, happlies, rfl⟩ := hstruck
      rw [hgone struck hmem happlies]
      constructor
      · intro hnone
        cases hnone
      · rintro ⟨entry, hentry, hsame, -⟩
        obtain ⟨hentryLive, hentryKept⟩ := (hlive entry).mp hentry
        rw [hmirrors.registered.eq_of_handle_eq hentryLive hmem hsame, happlies] at hentryKept
        cases hentryKept
    · have hothers : ∀ entry ∈ ledger.live, applies entry = true → entry.handle ≠ handle := by
        intro entry hentry happlies hsame
        exact hstruck ⟨entry, hentry, happlies, hsame⟩
      rw [hkept handle hothers, hmirrors.located]
      constructor
      · rintro ⟨entry, hentry, hsame, hpoint⟩
        have hfalse : applies entry = false := by
          apply Bool.eq_false_iff.mpr
          intro happlies
          exact hothers entry hentry happlies hsame
        exact ⟨entry, (hlive entry).mpr ⟨hentry, hfalse⟩, hsame, hpoint⟩
      · rintro ⟨entry, hentry, hrest⟩
        exact ⟨entry, ((hlive entry).mp hentry).1, hrest⟩
  case registered => exact hmirrors.registered.filter _
  case handles =>
    intro entry hentry
    rw [hnext]
    exact hmirrors.handles entry ((hlive entry).mp hentry).1
  case tags =>
    rw [htags]
    exact hmirrors.tags
  case groups =>
    rw [hgroups]
    exact hmirrors.groups
  case views => exact hviews

/-- An entry is removed from both. -/
theorem remove (hmirrors : registry.Mirrors ledger) (handle : Nat) :
    (registry.changeIf (registry.remove handle)).2.Mirrors
      (ledger.strike fun entry => entry.handle == handle) := by
  cases hlocated : registry.locations.get? handle with
  | none =>
      have hne := hmirrors.handle_ne_of_get?_eq_none hlocated
      have hledger : (ledger.strike fun entry => entry.handle == handle) = ledger := by
        rw [Ledger.strike, List.filter_eq_self.mpr]
        intro entry hentry
        simp [hne entry hentry]
      simp only [Registry.remove, hlocated, changeIf, hledger]
      exact hmirrors
  | some kind =>
      simp only [Registry.remove, hlocated, changeIf]
      have hothers : ∀ other, other ≠ kind →
          ({ registry with
              points := registry.points.set kind
                ((registry.entriesOf kind).filter fun entry => entry.handle != handle)
              locations := registry.locations.remove handle } :
            Registry ρ).entriesOf other = registry.entriesOf other := by
        intro other hother
        exact entriesOf_set_of_ne registry _ rfl hother
      apply hmirrors.strike
      case hentries =>
        intro other
        by_cases hkind : other = kind
        · subst hkind
          exact entriesOf_set_self registry _ rfl
        · have hall : ∀ entry ∈ registry.entriesOf other, (!(entry.handle == handle)) = true := by
            intro entry hentry
            simp [hmirrors.handle_ne_of_mem_entriesOf hlocated hkind entry hentry]
          rw [List.filter_eq_self.mpr hall]
          exact hothers other hkind
      case hkinds => exact Table.nodup_keys_set hmirrors.kinds _ _
      case hgone =>
        intro entry _ hsame
        rw [eq_of_beq hsame]
        exact Table.get?_remove_self handle registry.locations
      case hkept =>
        intro other hstays
        obtain ⟨struck, hmem, hsame, -⟩ := (hmirrors.located handle kind).mp hlocated
        have hne : other ≠ handle := by
          rintro rfl
          exact hstays struck hmem (beq_iff_eq.mpr hsame) hsame
        exact Table.get?_remove_of_ne hne registry.locations
      case hnext => rfl
      case htags => rfl
      case hgroups => rfl
      case hviews => exact RemembersRightly.forgetView hmirrors.views rfl rfl rfl hothers

theorem entriesOf_removeWhere (registry : Registry ρ) (applies : Entry ρ → Bool)
    (kind : PointKind) : (registry.removeWhere applies).1.entriesOf kind =
      (registry.entriesOf kind).filter fun entry => !applies entry := by
  change ((Table.get? kind (registry.points.map fun point =>
    (point.1, point.2.filter fun entry => !applies entry))).getD []) = _
  rw [Table.get?_mapValues, entriesOf]
  cases registry.points.get? kind <;> rfl

/-- Only the kinds that lose an entry have their views forgotten. -/
theorem remembersRightly_removeWhere (hmirrors : registry.Mirrors ledger)
    (applies : Entry ρ → Bool) : (registry.removeWhere applies).1.RemembersRightly := by
  have hkept : ∀ kind entries, (registry.removeWhere applies).1.views.get? kind = some entries →
      registry.views.get? kind = some entries ∧
        (registry.removeWhere applies).1.entriesOf kind = registry.entriesOf kind := by
    intro kind entries hentries
    change Table.get? kind (List.foldl (fun views other => Table.remove other views)
      registry.views _) = some entries at hentries
    rw [Table.get?_removeAll] at hentries
    split at hentries
    · cases hentries
    · rename_i huntouched
      have hnone : ∀ entry ∈ registry.entriesOf kind, (!applies entry) = true := by
        intro entry hentry
        rw [Bool.not_eq_true', Bool.eq_false_iff]
        intro happlies
        apply huntouched
        cases hpoint : registry.points.get? kind with
        | none => simp [entriesOf, hpoint] at hentry
        | some held =>
            have hmem := (Table.mem_iff_get? hmirrors.kinds).mpr hpoint
            have hheld : entry ∈ held := by simpa [entriesOf, hpoint] using hentry
            have htouched : held.any applies = true := List.any_eq_true.mpr ⟨entry, hheld, happlies⟩
            exact List.mem_map.mpr ⟨(kind, held), List.mem_filter.mpr ⟨hmem, htouched⟩, rfl⟩
      rw [entriesOf_removeWhere, List.filter_eq_self.mpr hnone]
      exact ⟨hentries, rfl⟩
  exact hmirrors.views.of_kept rfl rfl hkept

/-- Entries that match are struck from both. -/
theorem removeWhere (hmirrors : registry.Mirrors ledger) (applies : Entry ρ → Bool) :
    (registry.removeWhere applies).1.Mirrors (ledger.strike applies) := by
  have hlocations : ∀ handle, (registry.removeWhere applies).1.locations.get? handle =
      if handle ∈ (registry.allEntries.filter applies).map Entry.handle then none
      else registry.locations.get? handle := by
    intro handle
    exact get?_dropLocations registry.locations _ handle
  apply hmirrors.strike
  case hentries => exact entriesOf_removeWhere registry applies
  case hkinds =>
    have hkinds := hmirrors.kinds
    simpa [Table.keys, Registry.removeWhere, Function.comp_def] using hkinds
  case hgone =>
    intro entry hentry happlies
    rw [hlocations, if_pos]
    have hmem := (hmirrors.mem_allEntries entry).mpr hentry
    exact List.mem_map_of_mem (List.mem_filter.mpr ⟨hmem, happlies⟩)
  case hkept =>
    intro handle hothers
    rw [hlocations, if_neg]
    intro hstruck
    obtain ⟨entry, hentry, hsame⟩ := List.mem_map.mp hstruck
    obtain ⟨hmem, happlies⟩ := List.mem_filter.mp hentry
    exact hothers entry ((hmirrors.mem_allEntries entry).mp hmem) happlies hsame
  case hnext => rfl
  case htags => rfl
  case hgroups => rfl
  case hviews => exact hmirrors.remembersRightly_removeWhere applies

theorem forget (hmirrors : registry.Mirrors ledger) (kind : PointKind) :
    (registry.forget kind).Mirrors (ledger.strike fun entry => entry.point == kind) := by
  have hlocations : ∀ handle, (registry.forget kind).locations.get? handle =
      if handle ∈ (registry.entriesOf kind).map Entry.handle then none
      else registry.locations.get? handle := by
    intro handle
    exact get?_dropLocations registry.locations _ handle
  have hempty : (registry.forget kind).entriesOf kind = [] := by
    simp [entriesOf, Registry.forget, forgetView]
  have hothers : ∀ other, other ≠ kind →
      (registry.forget kind).entriesOf other = registry.entriesOf other := by
    intro other hne
    simp [entriesOf, Registry.forget, forgetView, Table.get?_remove_of_ne hne]
  apply hmirrors.strike
  case hentries =>
    intro other
    by_cases hkind : other = kind
    · subst hkind
      rw [hempty, List.filter_eq_nil_iff.mpr]
      intro entry hentry
      simp [(hmirrors.mem_entriesOf.mp hentry).2]
    · rw [hothers other hkind, List.filter_eq_self.mpr]
      intro entry hentry
      simp [(hmirrors.mem_entriesOf.mp hentry).2, hkind]
  case hkinds => exact Table.nodup_keys_remove hmirrors.kinds kind
  case hgone =>
    intro entry hentry hpoint
    rw [hlocations, if_pos]
    exact List.mem_map_of_mem (hmirrors.mem_entriesOf.mpr ⟨hentry, eq_of_beq hpoint⟩)
  case hkept =>
    intro handle hstays
    rw [hlocations, if_neg]
    intro hstruck
    obtain ⟨entry, hentry, hsame⟩ := List.mem_map.mp hstruck
    obtain ⟨hlive, hpoint⟩ := hmirrors.mem_entriesOf.mp hentry
    exact hstays entry hlive (beq_iff_eq.mpr hpoint) hsame
  case hnext => rfl
  case htags => rfl
  case hgroups => rfl
  case hviews => exact RemembersRightly.forgetView hmirrors.views rfl rfl rfl hothers

/-- Clearing leaves nothing, whatever there was. -/
theorem clear (registry : Registry ρ) : registry.clear.Mirrors .empty :=
  ⟨mirrors_empty.entries, mirrors_empty.kinds, mirrors_empty.located, mirrors_empty.registered,
    (fun _ hentry => by cases hentry), mirrors_empty.tags, mirrors_empty.groups,
    remembersRightly_of_views_nil rfl⟩

/-! ## Runs -/

/-- A handler that is registered for a kind is registered under the kind it accepts. -/
theorem registrationFor_eq_live {kind : PointKind} {handler : Handler ρ} {priority : Int}
    {registration : Registration ρ}
    (haccepted : registrationFor kind handler priority = .ok registration) :
    registration = .live handler priority := by
  rw [registrationFor] at haccepted
  split at haccepted
  · exact (Except.ok.inj haccepted).symm
  · cases haccepted

theorem registrationNamed_eq_live {name : String} {handler : Handler ρ} {priority : Int}
    {registration : Registration ρ}
    (haccepted : registry.registrationNamed name handler priority = .ok registration) :
    registration = .live handler priority := by
  rw [registrationNamed] at haccepted
  split at haccepted
  · cases haccepted
  · exact registrationFor_eq_live haccepted

/-- What one operation does to a registry, its ledger follows from the reply. -/
theorem perform (hmirrors : registry.Mirrors ledger) (operation : RegistryOperation ρ) :
    (registry.perform operation).2.Mirrors
      (ledger.follow operation (registry.perform operation).1) := by
  cases operation with
  | register registration => exact hmirrors.insert registration
  | registerFor kind handler priority =>
      simp only [Registry.perform]
      cases haccepted : registrationFor kind handler priority with
      | ok registration =>
          rw [registrationFor_eq_live haccepted]
          exact hmirrors.insert _
      | error error => exact hmirrors
  | registerNamed name handler priority =>
      simp only [Registry.perform]
      cases haccepted : registry.registrationNamed name handler priority with
      | ok registration =>
          rw [registrationNamed_eq_live haccepted]
          exact hmirrors.insert _
      | error error => exact hmirrors
  | declare kind => exact hmirrors.declare kind
  | view kind => exact hmirrors.remember kind
  | tag handle tags => exact hmirrors.retag handle fun set => set.insertAll tags
  | untag handle tag => exact hmirrors.retag handle fun set => set.remove tag
  | disableTag tag =>
      exact hmirrors.toggle (fun other => by simp [hmirrors.tags, or_comm]) hmirrors.groups
  | enableTag tag =>
      exact hmirrors.toggle (fun other => by simp [hmirrors.tags, and_comm]) hmirrors.groups
  | disableGroup group =>
      exact hmirrors.toggle hmirrors.tags fun other => by simp [hmirrors.groups, or_comm]
  | enableGroup group =>
      exact hmirrors.toggle hmirrors.tags fun other => by simp [hmirrors.groups, and_comm]
  | remove handle => exact hmirrors.remove handle
  | removeHandler kind id => exact hmirrors.removeWhere _
  | removeGroup group => exact hmirrors.removeWhere _
  | clearScope scope => exact hmirrors.removeWhere _
  | forget kind => exact hmirrors.forget kind
  | clear => exact clear registry

/-- A registry mirrors the ledger that follows it. -/
theorem performAll (hmirrors : registry.Mirrors ledger)
    (operations : List (RegistryOperation ρ)) :
    (registry.performAll operations).2.Mirrors
      (ledger.replay (registry.performAll operations).1) := by
  induction operations generalizing registry ledger with
  | nil => exact hmirrors
  | cons operation rest ih => exact ih (hmirrors.perform operation)

end Mirrors

/-- After any run of a new registry, whatever views were looked at on the way, a view is
the list of live entries of its kind that are enabled, each once, by priority and then by
registration; and what has a tag or is in a group is listed in order of registration,
enabled or not. -/
theorem views_match_ledger (operations : List (RegistryOperation ρ)) :
    let registry := ((empty : Registry ρ).performAll operations).2
    let ledger := Ledger.empty.replay ((empty : Registry ρ).performAll operations).1
    (∀ kind, registry.view kind = ledger.view kind) ∧
      (∀ kind entry, entry ∈ registry.view kind ↔
        entry ∈ ledger.live ∧ entry.point = kind ∧ ledger.Enables entry) ∧
      (∀ kind, (registry.view kind).Nodup ∧ (registry.view kind).Pairwise Entry.Precedes) ∧
      (∀ tag, registry.tagged tag = ledger.live.filter fun entry => tag ∈ entry.tags) ∧
      (∀ group, registry.groupMembers group =
        ledger.live.filter fun entry => entry.group = some group) ∧
      Registered ledger.live := by
  intro registry ledger
  have hmirrors : registry.Mirrors ledger := mirrors_empty.performAll operations
  have hmem : ∀ kind entry, entry ∈ registry.view kind ↔
      entry ∈ ledger.live ∧ entry.point = kind ∧ ledger.Enables entry := by
    intro kind entry
    rw [hmirrors.view_eq]
    simp [Ledger.view]
  exact ⟨hmirrors.view_eq, hmem, hmirrors.nodup_and_pairwise_view, hmirrors.tagged_eq,
    hmirrors.groupMembers_eq, hmirrors.registered⟩

end Registry
end Plugboard
