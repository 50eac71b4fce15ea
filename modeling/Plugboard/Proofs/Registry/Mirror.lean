import Plugboard.Proofs.Data.Table
import Plugboard.Proofs.Registry.Order

/-!
# Registries mirror ledgers

The lists per kind, the locations and the remembered views of a registry are determined by
the ledger of its run.  Every operation keeps it so: what a view depends on changes only
together with forgetting the view.
-/

namespace Plugboard

variable {ρ : Type}

/-- Every remembered view is the one that would be computed afresh. -/
def Registry.RemembersRightly (registry : Registry ρ) : Prop :=
  ∀ kind entries, registry.views.get? kind = some entries → entries = registry.freshView kind

/-- The registry holds what the ledger says, kind by kind. -/
structure Registry.Mirrors (registry : Registry ρ) (ledger : Ledger ρ) : Prop where
  entries : ∀ kind, registry.entriesOf kind = ledger.live.filter fun entry => entry.point = kind
  kinds : registry.points.keys.Nodup
  located : ∀ handle kind, registry.locations.get? handle = some kind ↔
    ∃ entry ∈ ledger.live, entry.handle = handle ∧ entry.point = kind
  registered : Registered ledger.live
  handles : ∀ entry ∈ ledger.live, entry.handle < registry.nextHandle
  tags : ∀ tag, tag ∈ registry.disabledTags ↔ tag ∈ ledger.disabledTags
  groups : ∀ group, group ∈ registry.disabledGroups ↔ group ∈ ledger.disabledGroups
  views : registry.RemembersRightly

namespace Registry

/-! ## What views depend on -/

/-- A view is the one computed afresh. -/
theorem view_of_remembersRightly {registry : Registry ρ} (hviews : registry.RemembersRightly)
    (kind : PointKind) : registry.view kind = registry.freshView kind := by
  rw [view]
  cases hkept : registry.views.get? kind with
  | none => rfl
  | some entries => exact hviews kind entries hkept

theorem isEnabled_congr {before after : Registry ρ}
    (htags : after.disabledTags = before.disabledTags)
    (hgroups : after.disabledGroups = before.disabledGroups) :
    after.isEnabled = before.isEnabled := by
  funext entry
  rw [isEnabled, isEnabled, htags, hgroups]

/-- A change may keep the views of the kinds whose entries it leaves alone, if it also
leaves alone what is disabled. -/
theorem RemembersRightly.of_kept {before after : Registry ρ} (hviews : before.RemembersRightly)
    (htags : after.disabledTags = before.disabledTags)
    (hgroups : after.disabledGroups = before.disabledGroups)
    (hkept : ∀ kind entries, after.views.get? kind = some entries →
      before.views.get? kind = some entries ∧ after.entriesOf kind = before.entriesOf kind) :
    after.RemembersRightly := by
  intro kind entries hentries
  obtain ⟨hbefore, hsame⟩ := hkept kind entries hentries
  rw [freshView, hsame, isEnabled_congr htags hgroups]
  exact hviews kind entries hbefore

theorem remembersRightly_of_views_nil {registry : Registry ρ} (hviews : registry.views = []) :
    registry.RemembersRightly := by
  intro kind entries hentries
  rw [hviews] at hentries
  cases hentries

theorem get?_views_forgetView (registry : Registry ρ) (kind other : PointKind) :
    (registry.forgetView kind).views.get? other =
      if other = kind then none else registry.views.get? other := by
  by_cases hkind : other = kind
  · simp [forgetView, hkind]
  · simp [forgetView, hkind, Table.get?_remove_of_ne hkind]

/-- Replacing the entries of one kind and forgetting its view keeps the other views
right. -/
theorem RemembersRightly.forgetView {before after : Registry ρ} {kind : PointKind}
    (hviews : before.RemembersRightly) (hsame : after.views = before.views)
    (htags : after.disabledTags = before.disabledTags)
    (hgroups : after.disabledGroups = before.disabledGroups)
    (hothers : ∀ other, other ≠ kind → after.entriesOf other = before.entriesOf other) :
    (after.forgetView kind).RemembersRightly := by
  have hkept : ∀ other entries, (after.forgetView kind).views.get? other = some entries →
      before.views.get? other = some entries ∧
        (after.forgetView kind).entriesOf other = before.entriesOf other := by
    intro other entries hentries
    rw [get?_views_forgetView] at hentries
    by_cases hother : other = kind
    · rw [if_pos hother] at hentries
      cases hentries
    · rw [if_neg hother, hsame] at hentries
      exact ⟨hentries, hothers other hother⟩
  exact hviews.of_kept htags hgroups hkept

theorem entriesOf_set_self (registry after : Registry ρ) {kind : PointKind}
    {entries : List (Entry ρ)} (hpoints : after.points = registry.points.set kind entries) :
    after.entriesOf kind = entries := by
  simp [entriesOf, hpoints]

theorem entriesOf_set_of_ne (registry after : Registry ρ) {kind other : PointKind}
    {entries : List (Entry ρ)} (hpoints : after.points = registry.points.set kind entries)
    (hother : other ≠ kind) : after.entriesOf other = registry.entriesOf other := by
  simp [entriesOf, hpoints, Table.get?_set_of_ne hother]

/-! ## Answers -/

namespace Mirrors

variable {registry : Registry ρ} {ledger : Ledger ρ}

/-- The ledger says which entries are enabled. -/
theorem isEnabled_iff (hmirrors : registry.Mirrors ledger) (entry : Entry ρ) :
    registry.isEnabled entry = true ↔ ledger.Enables entry := by
  cases hgroup : entry.group with
  | none => simp [isEnabled, Ledger.Enables, hgroup, hmirrors.tags]
  | some group => simp [isEnabled, Ledger.Enables, hgroup, hmirrors.tags, hmirrors.groups]

/-- What is remembered is what the ledger computes from scratch. -/
theorem view_eq (hmirrors : registry.Mirrors ledger) (kind : PointKind) :
    registry.view kind = ledger.view kind := by
  have hfilter : (registry.entriesOf kind).filter registry.isEnabled =
      ledger.live.filter fun entry => entry.point = kind ∧ ledger.Enables entry := by
    rw [hmirrors.entries, List.filter_filter]
    apply List.filter_congr
    intro entry _
    rw [Bool.eq_iff_iff]
    simp [hmirrors.isEnabled_iff, and_comm]
  rw [view_of_remembersRightly hmirrors.views, freshView, hfilter, Ledger.view]
  exact sortByPriority_eq_mergeSort (hmirrors.registered.filter _)

/-- The ledger says which entries a kind has. -/
theorem mem_entriesOf (hmirrors : registry.Mirrors ledger) {entry : Entry ρ} {kind : PointKind} :
    entry ∈ registry.entriesOf kind ↔ entry ∈ ledger.live ∧ entry.point = kind := by
  simp [hmirrors.entries]

/-- A handle that is not located belongs to no live entry. -/
theorem handle_ne_of_get?_eq_none (hmirrors : registry.Mirrors ledger) {handle : Nat}
    (hlocated : registry.locations.get? handle = none) :
    ∀ entry ∈ ledger.live, entry.handle ≠ handle := by
  intro entry hentry hsame
  have hkind := (hmirrors.located handle entry.point).mpr ⟨entry, hentry, hsame, rfl⟩
  rw [hlocated] at hkind
  cases hkind

/-- A located handle belongs to entries of its kind only. -/
theorem handle_ne_of_mem_entriesOf (hmirrors : registry.Mirrors ledger) {handle : Nat}
    {kind other : PointKind} (hlocated : registry.locations.get? handle = some kind)
    (hother : other ≠ kind) : ∀ entry ∈ registry.entriesOf other, entry.handle ≠ handle := by
  intro entry hentry hsame
  obtain ⟨hlive, rfl⟩ := hmirrors.mem_entriesOf.mp hentry
  have hkind := (hmirrors.located handle entry.point).mpr ⟨entry, hlive, hsame, rfl⟩
  rw [hlocated] at hkind
  exact hother (Option.some.inj hkind).symm

/-- A located handle is found among the entries of its kind. -/
theorem exists_entry (hmirrors : registry.Mirrors ledger) {handle : Nat} {kind : PointKind}
    (hlocated : registry.locations.get? handle = some kind) :
    ∃ found, registry.entry? handle = some found := by
  obtain ⟨entry, hentry, hsame, hkind⟩ := (hmirrors.located handle kind).mp hlocated
  have hmem := hmirrors.mem_entriesOf.mpr ⟨hentry, hkind⟩
  cases hfind : (registry.entriesOf kind).find? fun other => other.handle == handle with
  | none =>
      have hother := List.find?_eq_none.mp hfind entry hmem
      simp [hsame] at hother
  | some found => exact ⟨found, by simp [ entry?, hlocated, hfind]⟩

theorem mem_allEntries (hmirrors : registry.Mirrors ledger) (entry : Entry ρ) :
    entry ∈ registry.allEntries ↔ entry ∈ ledger.live := by
  rw [allEntries, List.mem_flatMap]
  constructor
  · rintro ⟨⟨kind, entries⟩, hpoint, hentry⟩
    have hget := (Table.mem_iff_get? hmirrors.kinds).mp hpoint
    have hmem : entry ∈ registry.entriesOf kind := by simpa [entriesOf, hget] using hentry
    exact (hmirrors.mem_entriesOf.mp hmem).1
  · intro hlive
    have hmem := hmirrors.mem_entriesOf.mpr ⟨hlive, rfl⟩
    cases hget : registry.points.get? entry.point with
    | none => simp [entriesOf, hget] at hmem
    | some entries =>
        have hpoint := (Table.mem_iff_get? hmirrors.kinds).mpr hget
        have hentry : entry ∈ entries := by simpa [entriesOf, hget] using hmem
        exact ⟨(entry.point, entries), hpoint, hentry⟩

theorem nodup_allEntries (hmirrors : registry.Mirrors ledger) : registry.allEntries.Nodup := by
  have hlist : ∀ point ∈ registry.points,
      point.2 = ledger.live.filter fun entry => entry.point = point.1 := by
    intro point hpoint
    have hget := (Table.mem_iff_get? hmirrors.kinds).mp hpoint
    rw [← hmirrors.entries, entriesOf, hget]
    rfl
  rw [allEntries, List.nodup_flatMap]
  constructor
  · intro point hpoint
    rw [hlist point hpoint]
    exact hmirrors.registered.nodup.filter _
  · have hkinds : registry.points.Pairwise fun left right => left.1 ≠ right.1 :=
      List.pairwise_map.mp hmirrors.kinds
    apply hkinds.imp_of_mem
    intro left right hleft hright hne entry hentryLeft hentryRight
    have hpoint : ∀ point ∈ registry.points, entry ∈ point.2 → entry.point = point.1 := by
      intro point hpoint hentry
      rw [hlist point hpoint] at hentry
      simpa using (List.mem_filter.mp hentry).2
    exact hne ((hpoint left hleft hentryLeft).symm.trans (hpoint right hright hentryRight))

/-- All entries are those that are live. -/
theorem allEntries_perm (hmirrors : registry.Mirrors ledger) :
    registry.allEntries.Perm ledger.live :=
  (List.perm_ext_iff_of_nodup hmirrors.nodup_allEntries hmirrors.registered.nodup).mpr
    hmirrors.mem_allEntries

/-- The entries that match come in order of registration, whatever is disabled. -/
theorem sortByHandle_filter (hmirrors : registry.Mirrors ledger) (applies : Entry ρ → Bool) :
    sortByHandle (registry.allEntries.filter applies) = ledger.live.filter applies :=
  sortByHandle_eq (hmirrors.allEntries_perm.filter applies) (hmirrors.registered.filter applies)

theorem tagged_eq (hmirrors : registry.Mirrors ledger) (tag : String) :
    registry.tagged tag = ledger.live.filter fun entry => tag ∈ entry.tags := by
  rw [tagged, hmirrors.sortByHandle_filter]
  apply List.filter_congr
  intro entry _
  simp [Entry.hasTag]

theorem groupMembers_eq (hmirrors : registry.Mirrors ledger) (group : String) :
    registry.groupMembers group = ledger.live.filter fun entry => entry.group = some group := by
  rw [groupMembers, hmirrors.sortByHandle_filter]
  apply List.filter_congr
  intro entry _
  rw [Bool.eq_iff_iff]
  simp [Entry.inGroup]

/-- A view holds each of its entries once, in dispatch order. -/
theorem nodup_and_pairwise_view (hmirrors : registry.Mirrors ledger) (kind : PointKind) :
    (registry.view kind).Nodup ∧ (registry.view kind).Pairwise Entry.Precedes := by
  have hregistered : Registered ((registry.entriesOf kind).filter registry.isEnabled) := by
    rw [hmirrors.entries]
    exact (hmirrors.registered.filter _).filter _
  rw [view_of_remembersRightly hmirrors.views, freshView]
  constructor
  · exact (sortByPriority_perm _).nodup_iff.mpr hregistered.nodup
  · exact sortByPriority_precedes hregistered

end Mirrors
end Registry
end Plugboard
