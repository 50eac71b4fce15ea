import Plugboard.Proofs.Registry.Commands
import Plugboard.Registry.Report

/-!
# Disabling and enabling again

What is disabled and which views are remembered is all that sets a registry apart from the one in
which a label was never disabled.  No operation looks at either but to make a view, so two runs that
differ in a disabled label stay side by side: they reply the same to every change, and enabling the
label brings the one to where the other is.
-/

namespace Plugboard

variable {ρ : Type}

/-- What is disabled and enabled as a whole: the entries with a tag, or those of a group. -/
inductive Label where
  | tag (name : String)
  | group (name : String)
  deriving DecidableEq

namespace Label

def disabling : Label → RegistryOperation ρ
  | .tag name => .disableTag name
  | .group name => .disableGroup name

def enabling : Label → RegistryOperation ρ
  | .tag name => .enableTag name
  | .group name => .enableGroup name

def IsDisabled (registry : Registry ρ) : Label → Prop
  | .tag name => name ∈ registry.disabledTags
  | .group name => name ∈ registry.disabledGroups

instance (registry : Registry ρ) : DecidablePred (IsDisabled registry)
  | .tag name => inferInstanceAs (Decidable (name ∈ registry.disabledTags))
  | .group name => inferInstanceAs (Decidable (name ∈ registry.disabledGroups))

/-- The tags that are disabled once the label is enabled. -/
def onTags (label : Label) (tags : Bag String) : Bag String :=
  match label with
  | .tag name => tags.drop name
  | .group _ => tags

/-- The groups that are disabled once the label is enabled. -/
def onGroups (label : Label) (groups : Bag String) : Bag String :=
  match label with
  | .tag _ => groups
  | .group name => groups.drop name

end Label

namespace RegistryOperation

/-- The label that the operation disables or enables. -/
def switched? : RegistryOperation ρ → Option Label
  | .disableTag name | .enableTag name => some (.tag name)
  | .disableGroup name | .enableGroup name => some (.group name)
  | _ => none

def mutates : RegistryOperation ρ → Bool
  | .view _ => false
  | _ => true

end RegistryOperation

namespace Bag

variable {κ : Type} [DecidableEq κ]

theorem drop_eq_self {element : κ} {bag : Bag κ} (habsent : element ∉ bag) :
    bag.drop element = bag := by
  apply List.filter_eq_self.mpr
  intro other hother
  apply decide_eq_true
  rintro rfl
  exact habsent hother

theorem drop_add_self {element : κ} {bag : Bag κ} (habsent : element ∉ bag) :
    (bag.add element).drop element = bag := by
  calc (bag.add element).drop element
      = bag.drop element ++ drop element [element] := by
        rw [add, if_neg habsent, drop, List.filter_append, ← drop, ← drop]
    _ = bag.drop element ++ [] := by simp [drop]
    _ = bag := by rw [List.append_nil, drop_eq_self habsent]

theorem drop_add_of_ne {element other : κ} (hne : other ≠ element) (bag : Bag κ) :
    (bag.add other).drop element = (bag.drop element).add other := by
  by_cases hmem : other ∈ bag
  · rw [add, if_pos hmem, add, if_pos (mem_drop.mpr ⟨hmem, hne⟩)]
  · have hgone : other ∉ bag.drop element := fun hdropped => hmem (mem_drop.mp hdropped).1
    rw [add, if_neg hmem, add, if_neg hgone, drop, List.filter_append]
    simp [drop, hne]

theorem drop_drop_comm (first second : κ) (bag : Bag κ) :
    (bag.drop second).drop first = (bag.drop first).drop second := by
  rw [drop, drop, drop, drop, List.filter_filter, List.filter_filter]
  apply List.filter_congr
  intro element _
  exact Bool.and_comm _ _

end Bag

namespace Registry

/-- The registry with other labels disabled and nothing remembered. -/
def relabeled (onTags onGroups : Bag String → Bag String) (registry : Registry ρ) : Registry ρ :=
  { registry with
    disabledTags := onTags registry.disabledTags
    disabledGroups := onGroups registry.disabledGroups
    views := [] }

/-- What the operation disables and enables is independent of the change of labels. -/
structure Unconcerned (onTags onGroups : Bag String → Bag String)
    (operation : RegistryOperation ρ) : Prop where
  disableTag : ∀ name, operation = .disableTag name →
    ∀ tags, onTags (tags.add name) = (onTags tags).add name
  enableTag : ∀ name, operation = .enableTag name →
    ∀ tags, onTags (tags.drop name) = (onTags tags).drop name
  disableGroup : ∀ name, operation = .disableGroup name →
    ∀ groups, onGroups (groups.add name) = (onGroups groups).add name
  enableGroup : ∀ name, operation = .enableGroup name →
    ∀ groups, onGroups (groups.drop name) = (onGroups groups).drop name
  noTags : onTags [] = []
  noGroups : onGroups [] = []

/-- Every operation is independent of forgetting the views alone. -/
theorem unconcerned_id (operation : RegistryOperation ρ) : Unconcerned id id operation :=
  ⟨fun _ _ _ => rfl, fun _ _ _ => rfl, fun _ _ _ => rfl, fun _ _ _ => rfl, rfl, rfl⟩

/-- An operation that does not switch the label is independent of enabling it. -/
theorem unconcerned_of_switched?_ne {label : Label} {operation : RegistryOperation ρ}
    (hother : operation.switched? ≠ some label) :
    Unconcerned label.onTags label.onGroups operation := by
  cases label with
  | tag name =>
      have hne : ∀ other, operation.switched? = some (.tag other) → other ≠ name := by
        rintro other hswitched rfl
        exact hother hswitched
      refine ⟨?_, ?_, fun _ _ _ => rfl, fun _ _ _ => rfl, rfl, rfl⟩
      · rintro other rfl tags
        exact Bag.drop_add_of_ne (hne other rfl) tags
      · rintro other rfl tags
        exact Bag.drop_drop_comm name other tags
  | group name =>
      have hne : ∀ other, operation.switched? = some (.group other) → other ≠ name := by
        rintro other hswitched rfl
        exact hother hswitched
      refine ⟨fun _ _ _ => rfl, fun _ _ _ => rfl, ?_, ?_, rfl, rfl⟩
      · rintro other rfl groups
        exact Bag.drop_add_of_ne (hne other rfl) groups
      · rintro other rfl groups
        exact Bag.drop_drop_comm name other groups

section

variable {onTags onGroups : Bag String → Bag String}

/-- Changing an entry is independent of what is disabled. -/
theorem changeIf_modifyEntry_relabeled (registry : Registry ρ) (handle : Nat)
    (change : Entry ρ → Entry ρ) :
    ((registry.relabeled onTags onGroups).changeIf
        ((registry.relabeled onTags onGroups).modifyEntry handle change)).1 =
      (registry.changeIf (registry.modifyEntry handle change)).1 ∧
    ((registry.relabeled onTags onGroups).changeIf
        ((registry.relabeled onTags onGroups).modifyEntry handle change)).2.forgetViews =
      (registry.changeIf (registry.modifyEntry handle change)).2.relabeled onTags onGroups := by
  have hlocations : (registry.relabeled onTags onGroups).locations = registry.locations := rfl
  have hentry :
      Registry.entry? (registry.relabeled onTags onGroups) handle = registry.entry? handle := rfl
  rw [modifyEntry, modifyEntry, hlocations, hentry]
  cases registry.locations.get? handle with
  | none => exact ⟨rfl, rfl⟩
  | some kind => cases registry.entry? handle <;> exact ⟨rfl, rfl⟩

theorem changeIf_remove_relabeled (registry : Registry ρ) (handle : Nat) :
    ((registry.relabeled onTags onGroups).changeIf
        ((registry.relabeled onTags onGroups).remove handle)).1 =
      (registry.changeIf (registry.remove handle)).1 ∧
    ((registry.relabeled onTags onGroups).changeIf
        ((registry.relabeled onTags onGroups).remove handle)).2.forgetViews =
      (registry.changeIf (registry.remove handle)).2.relabeled onTags onGroups := by
  have hlocations : (registry.relabeled onTags onGroups).locations = registry.locations := rfl
  rw [remove, remove, hlocations]
  cases registry.locations.get? handle <;> exact ⟨rfl, rfl⟩

theorem insertIf_relabeled (registry : Registry ρ)
    (registration : Except RegistryError (Registration ρ)) :
    ((registry.relabeled onTags onGroups).insertIf registration).1 =
      (registry.insertIf registration).1 ∧
    ((registry.relabeled onTags onGroups).insertIf registration).2.forgetViews =
      (registry.insertIf registration).2.relabeled onTags onGroups := by
  cases registration <;> exact ⟨rfl, rfl⟩

/-- What is disabled and what is remembered matters to no operation but a view: with other labels
disabled it replies the same, and leads to the same registry with these labels disabled. -/
theorem perform_relabeled (registry : Registry ρ) {operation : RegistryOperation ρ}
    (hoperation : Unconcerned onTags onGroups operation) :
    (operation.mutates = true → ((registry.relabeled onTags onGroups).perform operation).1 =
      (registry.perform operation).1) ∧
    ((registry.relabeled onTags onGroups).perform operation).2.forgetViews =
      (registry.perform operation).2.relabeled onTags onGroups := by
  cases operation with
  | register registration =>
      obtain ⟨hreply, hafter⟩ := registry.insertIf_relabeled (.ok registration)
      exact ⟨fun _ => hreply, hafter⟩
  | registerFor kind handler priority =>
      obtain ⟨hreply, hafter⟩ :=
        registry.insertIf_relabeled (registrationFor kind handler priority)
      exact ⟨fun _ => hreply, hafter⟩
  | registerNamed name handler priority =>
      obtain ⟨hreply, hafter⟩ :=
        registry.insertIf_relabeled (registry.registrationNamed name handler priority)
      exact ⟨fun _ => hreply, hafter⟩
  | view kind => exact ⟨nofun, rfl⟩
  | tag handle tags =>
      obtain ⟨hreply, hafter⟩ := registry.changeIf_modifyEntry_relabeled handle
        fun entry => { entry with tags := entry.tags.insertAll tags }
      exact ⟨fun _ => hreply, hafter⟩
  | untag handle name =>
      obtain ⟨hreply, hafter⟩ := registry.changeIf_modifyEntry_relabeled handle
        fun entry => { entry with tags := entry.tags.remove name }
      exact ⟨fun _ => hreply, hafter⟩
  | remove handle =>
      obtain ⟨hreply, hafter⟩ := registry.changeIf_remove_relabeled handle
      exact ⟨fun _ => hreply, hafter⟩
  | disableTag name =>
      refine ⟨fun _ => rfl, ?_⟩
      simp only [perform, disableTag, relabeled, forgetViews, hoperation.disableTag name rfl]
  | enableTag name =>
      refine ⟨fun _ => rfl, ?_⟩
      simp only [perform, enableTag, relabeled, forgetViews, hoperation.enableTag name rfl]
  | disableGroup name =>
      refine ⟨fun _ => rfl, ?_⟩
      simp only [perform, disableGroup, relabeled, forgetViews, hoperation.disableGroup name rfl]
  | enableGroup name =>
      refine ⟨fun _ => rfl, ?_⟩
      simp only [perform, enableGroup, relabeled, forgetViews, hoperation.enableGroup name rfl]
  | clear =>
      refine ⟨fun _ => rfl, ?_⟩
      simp only [perform, clear, relabeled, forgetViews, hoperation.noTags, hoperation.noGroups]
  | declare _ | removeHandler _ _ | removeGroup _ | clearScope _ | forget _ =>
      exact ⟨fun _ => rfl, rfl⟩

end

/-! ## Two runs side by side -/

/-- Enabling the label in the one registry gives the other, but for the views that the other
remembers. -/
def DiffersBy (label : Label) (veiled other : Registry ρ) : Prop :=
  veiled.relabeled label.onTags label.onGroups = other.forgetViews

/-- Enabling a label changes nothing but what is disabled and what is remembered. -/
theorem perform_enabling (label : Label) (registry : Registry ρ) :
    (registry.perform label.enabling).2 = registry.relabeled label.onTags label.onGroups := by
  cases label <;> rfl

/-- Disabling a label that is enabled sets the registries apart. -/
theorem differsBy_disabling {label : Label} {registry : Registry ρ}
    (henabled : ¬ label.IsDisabled registry) :
    DiffersBy label (registry.perform label.disabling).2 registry := by
  cases label with
  | tag name =>
      simp only [DiffersBy, Label.disabling, perform, disableTag, relabeled, forgetViews,
        Label.onTags, Label.onGroups]
      rw [Bag.drop_add_self henabled]
  | group name =>
      simp only [DiffersBy, Label.disabling, perform, disableGroup, relabeled, forgetViews,
        Label.onTags, Label.onGroups]
      rw [Bag.drop_add_self henabled]

section

variable {label : Label} {veiled other : Registry ρ}

/-- An operation that does not switch the label keeps the registries side by side, and is replied
to in the same way unless it looks at a view. -/
theorem DiffersBy.perform (hdiffers : DiffersBy label veiled other)
    {operation : RegistryOperation ρ} (hfree : operation.switched? ≠ some label) :
    (operation.mutates = true → (veiled.perform operation).1 = (other.perform operation).1) ∧
      DiffersBy label (veiled.perform operation).2 (other.perform operation).2 := by
  obtain ⟨hreply, hafter⟩ := veiled.perform_relabeled (unconcerned_of_switched?_ne hfree)
  obtain ⟨hforgotten, hlater⟩ := other.perform_relabeled (unconcerned_id operation)
  have hsame : veiled.relabeled label.onTags label.onGroups = other.relabeled id id := hdiffers
  rw [hsame] at hreply hafter
  constructor
  · intro hmutates
    exact (hreply hmutates).symm.trans (hforgotten hmutates)
  · exact hafter.symm.trans hlater

/-- Registries that differ by a label go on so and give the same replies. -/
theorem DiffersBy.performAll (hdiffers : DiffersBy label veiled other)
    {operations : List (RegistryOperation ρ)}
    (hfree : ∀ operation ∈ operations, operation.switched? ≠ some label) :
    (veiled.performAll operations).1.filter (fun event => event.1.mutates) =
        (other.performAll operations).1.filter (fun event => event.1.mutates) ∧
      DiffersBy label (veiled.performAll operations).2 (other.performAll operations).2 := by
  induction operations generalizing veiled other with
  | nil => exact ⟨rfl, hdiffers⟩
  | cons operation rest ih =>
      obtain ⟨hfirst, hothers⟩ := List.forall_mem_cons.mp hfree
      obtain ⟨hreply, hstep⟩ := hdiffers.perform hfirst
      obtain ⟨hlater, hafter⟩ := ih hstep hothers
      refine ⟨?_, hafter⟩
      rw [Registry.performAll, Registry.performAll]
      cases hmutates : operation.mutates with
      | true => simp only [List.filter_cons, hmutates, hreply hmutates, hlater]
      | false => simp only [List.filter_cons, hmutates, hlater, Bool.false_eq_true, if_false]

end

/-- Whatever the registries are asked, they answer the same. -/
structure AnswersLike (registry other : Registry ρ) : Prop where
  view : ∀ kind, registry.view kind = other.view kind
  entry : ∀ handle, registry.entry? handle = other.entry? handle
  tagged : ∀ tag, registry.tagged tag = other.tagged tag
  groupMembers : ∀ group, registry.groupMembers group = other.groupMembers group
  declared : registry.declared = other.declared
  size : registry.size = other.size
  stats : registry.stats = other.stats
  disabledTags : registry.disabledTags = other.disabledTags
  disabledGroups : registry.disabledGroups = other.disabledGroups

/-- A registry that remembers only right views answers as if it remembered none. -/
theorem RemembersRightly.answersLike {registry : Registry ρ}
    (hviews : registry.RemembersRightly) : registry.forgetViews.AnswersLike registry where
  view := fun kind => (view_of_remembersRightly hviews kind).symm
  entry := fun _ => rfl
  tagged := fun _ => rfl
  groupMembers := fun _ => rfl
  declared := rfl
  size := rfl
  stats := rfl
  disabledTags := rfl
  disabledGroups := rfl

theorem Reachable.performAll {registry : Registry ρ} (hreachable : registry.Reachable)
    (operations : List (RegistryOperation ρ)) : (registry.performAll operations).2.Reachable := by
  obtain ⟨earlier, rfl⟩ := hreachable
  exact ⟨earlier ++ operations, performAll_append empty earlier operations⟩

/-- Registries that operations lead to remember no view that has changed. -/
theorem Reachable.remembersRightly {registry : Registry ρ} (hreachable : registry.Reachable) :
    registry.RemembersRightly := by
  obtain ⟨operations, rfl⟩ := hreachable
  exact (mirrors_empty.performAll operations).views

/-- Where a tag or a group is enabled, disabling it, doing anything but switching it, and enabling
it again replies to every change as doing the same without, and leaves a registry that answers the
same to every question. -/
theorem disabling_leaves_no_trace {label : Label} {registry : Registry ρ}
    {operations : List (RegistryOperation ρ)} (hreachable : registry.Reachable)
    (henabled : ¬ label.IsDisabled registry)
    (hfree : ∀ operation ∈ operations, operation.switched? ≠ some label) :
    let alone := registry.performAll operations
    let veiled := (registry.perform label.disabling).2.performAll operations
    veiled.1.filter (fun event => event.1.mutates) =
        alone.1.filter (fun event => event.1.mutates) ∧
      (veiled.2.perform label.enabling).2.AnswersLike alone.2 ∧
      (registry.performAll (label.disabling :: (operations ++ [label.enabling]))).2 =
        (veiled.2.perform label.enabling).2 := by
  intro alone veiled
  obtain ⟨hreplies, hdiffers⟩ := (differsBy_disabling henabled).performAll hfree
  refine ⟨hreplies, ?_, ?_⟩
  · have hafter : (veiled.2.perform label.enabling).2 = alone.2.forgetViews := by
      rw [perform_enabling]
      exact hdiffers
    rw [hafter]
    exact (hreachable.performAll operations).remembersRightly.answersLike
  · exact performAll_append (registry.perform label.disabling).2 operations [label.enabling]

namespace Sample

def kind : PointKind := ⟨"order", "Order", .writable⟩

def registry : Registry Unit :=
  (empty.performAll [.register (.deferred kind "mail" 0), .register (.deferred kind "audit" 1),
    .tag 1 ["beta"]]).2

def retagging : List (RegistryOperation Unit) :=
  [.tag 2 ["beta"], .view kind, .untag 1 "beta", .remove 3]

end Sample

theorem disabling_leaves_no_trace_of_retagging :
    let label : Label := .tag "beta"
    let registry := Sample.registry
    let operations := Sample.retagging
    let alone := registry.performAll operations
    let veiled := (registry.perform label.disabling).2.performAll operations
    ((alone.2.view Sample.kind).map Entry.id, (veiled.2.view Sample.kind).map Entry.id) =
        (["mail", "audit"], ["mail"]) ∧
      (veiled.2.perform label.enabling).2.AnswersLike alone.2 := by
  intro label registry operations alone veiled
  constructor
  · decide
  · have hreachable : registry.Reachable := ⟨_, rfl⟩
    have henabled : ¬ label.IsDisabled registry := by decide
    have hfree : ∀ operation ∈ operations, operation.switched? ≠ some label := by decide
    exact (disabling_leaves_no_trace hreachable henabled hfree).2.1

end Registry
end Plugboard
