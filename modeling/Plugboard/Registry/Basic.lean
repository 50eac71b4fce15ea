import Plugboard.Registry.Entry
import Plugboard.Data.Table
import Plugboard.LogEvent
/-!
# The registry

The registry keeps the entries of each kind of point in order of registration and
answers a dispatch with the enabled ones by priority.  That view is remembered per
kind; every change forgets the views it may affect, so a view is always what would be
computed afresh.
-/

namespace Plugboard

/-- All registrations. -/
structure Registry (ρ : Type) where
  points : Table PointKind (List (Entry ρ))
  declared : Table String PointKind
  locations : Table Nat PointKind
  disabledTags : Bag String
  disabledGroups : Bag String
  views : Table PointKind (List (Entry ρ))
  nextHandle : Nat

namespace Registry

variable {ρ : Type}

def empty : Registry ρ := ⟨[], [], [], [], [], [], 1⟩

instance : Inhabited (Registry ρ) := ⟨empty⟩

/-! ## Views -/

/-- The entries of a kind in order of registration, enabled or not. -/
def entriesOf (registry : Registry ρ) (kind : PointKind) : List (Entry ρ) :=
  (registry.points.get? kind).getD []

/-- An entry is enabled unless its group or one of its tags is disabled. -/
def isEnabled (registry : Registry ρ) (entry : Entry ρ) : Bool :=
  (match entry.group with
   | none => true
   | some group => !registry.disabledGroups.contains group) &&
  entry.tags.all (fun tag => !registry.disabledTags.contains tag)

/-- Puts an entry before the first one of no smaller priority. -/
def insertByPriority (entry : Entry ρ) : List (Entry ρ) → List (Entry ρ)
  | [] => [entry]
  | other :: rest =>
    if entry.priority ≤ other.priority then entry :: other :: rest
    else other :: insertByPriority entry rest

/-- Sorts by priority; entries of one priority keep their order. -/
def sortByPriority (entries : List (Entry ρ)) : List (Entry ρ) :=
  entries.foldr insertByPriority []

theorem insertByPriority_perm (entry : Entry ρ) (entries : List (Entry ρ)) :
    (insertByPriority entry entries).Perm (entry :: entries) := by
  induction entries with
  | nil => exact List.Perm.refl _
  | cons other rest ih =>
    simp only [insertByPriority]
    split
    · exact List.Perm.refl _
    · exact (ih.cons other).trans (List.Perm.swap entry other rest)

/-- Sorting loses no entry and makes none up. -/
theorem sortByPriority_perm (entries : List (Entry ρ)) :
    (sortByPriority entries).Perm entries := by
  induction entries with
  | nil => exact List.Perm.refl _
  | cons entry rest ih => exact (insertByPriority_perm entry _).trans (ih.cons entry)

@[simp]
theorem mem_sortByPriority {entry : Entry ρ} {entries : List (Entry ρ)} :
    entry ∈ sortByPriority entries ↔ entry ∈ entries :=
  (sortByPriority_perm entries).mem_iff

/-- The enabled entries of a kind in dispatch order, computed afresh. -/
def freshView (registry : Registry ρ) (kind : PointKind) : List (Entry ρ) :=
  sortByPriority ((registry.entriesOf kind).filter registry.isEnabled)

/-- The enabled entries of a kind in dispatch order, as remembered or afresh. -/
def view (registry : Registry ρ) (kind : PointKind) : List (Entry ρ) :=
  (registry.views.get? kind).getD (registry.freshView kind)

def remember (registry : Registry ρ) (kind : PointKind) : Registry ρ :=
  { registry with views := registry.views.set kind (registry.view kind) }

def isForgotten (registry : Registry ρ) (kind : PointKind) : Bool := !registry.views.has kind

def forgetView (registry : Registry ρ) (kind : PointKind) : Registry ρ :=
  { registry with views := registry.views.remove kind }

def forgetViews (registry : Registry ρ) : Registry ρ := { registry with views := [] }

/-! ## Lookup -/

def allEntries (registry : Registry ρ) : List (Entry ρ) :=
  registry.points.flatMap (fun point => point.2)

/-- The entry with a handle, enabled or not. -/
def entry? (registry : Registry ρ) (handle : Nat) : Option (Entry ρ) :=
  (registry.locations.get? handle).bind fun kind =>
    (registry.entriesOf kind).find? (fun entry => entry.handle == handle)

def insertByHandle (entry : Entry ρ) : List (Entry ρ) → List (Entry ρ)
  | [] => [entry]
  | other :: rest =>
    if entry.handle ≤ other.handle then entry :: other :: rest
    else other :: insertByHandle entry rest

def sortByHandle (entries : List (Entry ρ)) : List (Entry ρ) :=
  entries.foldr insertByHandle []

theorem insertByHandle_perm (entry : Entry ρ) (entries : List (Entry ρ)) :
    (insertByHandle entry entries).Perm (entry :: entries) := by
  induction entries with
  | nil => exact List.Perm.refl _
  | cons other rest ih =>
    simp only [insertByHandle]
    split
    · exact List.Perm.refl _
    · exact (ih.cons other).trans (List.Perm.swap entry other rest)

theorem sortByHandle_perm (entries : List (Entry ρ)) : (sortByHandle entries).Perm entries := by
  induction entries with
  | nil => exact List.Perm.refl _
  | cons entry rest ih => exact (insertByHandle_perm entry _).trans (ih.cons entry)

/-- The entries with a tag, enabled or not, in order of registration. -/
def tagged (registry : Registry ρ) (tag : String) : List (Entry ρ) :=
  sortByHandle (registry.allEntries.filter (Entry.hasTag tag))

/-- The entries of a group, enabled or not, in order of registration. -/
def groupMembers (registry : Registry ρ) (group : String) : List (Entry ρ) :=
  sortByHandle (registry.allEntries.filter (Entry.inGroup group))

def size (registry : Registry ρ) : Nat := registry.locations.length

/-! ## Registering -/

/-- Makes a kind known by its name; the kind declared last has the name. -/
def declare (registry : Registry ρ) (kind : PointKind) : Registry ρ :=
  { registry with declared := registry.declared.set kind.name kind }

/-- Adds an entry under the next handle. -/
def insert (registry : Registry ρ) (registration : Registration ρ) : Registry ρ × Nat :=
  let handle := registry.nextHandle
  let kind := registration.point
  let entries := registry.entriesOf kind ++ [registration.toEntry handle]
  let registry :=
    { registry.declare kind with
      locations := registry.locations.set handle kind
      points := registry.points.set kind entries
      nextHandle := handle + 1 }
  (registry.forgetView kind, handle)

/-- A handler's registration for a kind that it has to accept. -/
def registrationFor (kind : PointKind) (handler : Handler ρ) (priority : Int) :
    Except RegistryError (Registration ρ) :=
  match checkSignature kind handler.toHandlerCode with
  | .ok () => .ok (.live handler priority)
  | .error error => .error error

/-- A handler's registration for the kind declared under a name. -/
def registrationNamed (registry : Registry ρ) (name : String) (handler : Handler ρ)
    (priority : Int) : Except RegistryError (Registration ρ) :=
  match registry.declared.get? name with
  | none => .error (.undeclared name)
  | some kind => registrationFor kind handler priority

/-! ## Tags and groups -/

def modifyEntry (registry : Registry ρ) (handle : Nat) (change : Entry ρ → Entry ρ) :
    Except RegistryError (Registry ρ) :=
  match registry.locations.get? handle, registry.entry? handle with
  | some kind, some _ =>
    let entries := (registry.entriesOf kind).map fun entry =>
      if entry.handle = handle then change entry else entry
    .ok (({ registry with points := registry.points.set kind entries }).forgetView kind)
  | _, _ => .error (.unknownEntry handle)

def tag (registry : Registry ρ) (handle : Nat) (tags : List String) :
    Except RegistryError (Registry ρ) :=
  registry.modifyEntry handle fun entry => { entry with tags := entry.tags.insertAll tags }

def untag (registry : Registry ρ) (handle : Nat) (tag : String) :
    Except RegistryError (Registry ρ) :=
  registry.modifyEntry handle fun entry => { entry with tags := entry.tags.remove tag }

def disableTag (registry : Registry ρ) (tag : String) : Registry ρ :=
  ({ registry with disabledTags := registry.disabledTags.add tag }).forgetViews

def enableTag (registry : Registry ρ) (tag : String) : Registry ρ :=
  ({ registry with disabledTags := registry.disabledTags.drop tag }).forgetViews

def disableGroup (registry : Registry ρ) (group : String) : Registry ρ :=
  ({ registry with disabledGroups := registry.disabledGroups.add group }).forgetViews

def enableGroup (registry : Registry ρ) (group : String) : Registry ρ :=
  ({ registry with disabledGroups := registry.disabledGroups.drop group }).forgetViews

/-! ## Removing -/

/-- Takes a handle out of the locations. -/
def dropLocations (locations : Table Nat PointKind) (entries : List (Entry ρ)) :
    Table Nat PointKind :=
  entries.foldl (fun locations entry => locations.remove entry.handle) locations

def remove (registry : Registry ρ) (handle : Nat) : Except RegistryError (Registry ρ) :=
  match registry.locations.get? handle with
  | none => .error (.unknownEntry handle)
  | some kind =>
    let entries := (registry.entriesOf kind).filter (fun entry => entry.handle != handle)
    .ok (({ registry with
      locations := registry.locations.remove handle
      points := registry.points.set kind entries }).forgetView kind)

/-- Removes the entries that match and says how many they were. -/
def removeWhere (registry : Registry ρ) (applies : Entry ρ → Bool) : Registry ρ × Nat :=
  let removed := registry.allEntries.filter applies
  let touched := (registry.points.filter (fun point => point.2.any applies)).map Prod.fst
  let locations := dropLocations registry.locations removed
  let points := registry.points.map fun (kind, entries) =>
    (kind, entries.filter (fun entry => !applies entry))
  let views := touched.foldl (fun views kind => views.remove kind) registry.views
  ({ registry with locations, points, views }, registry.locations.length - locations.length)

def removeGroup (registry : Registry ρ) (group : String) : Registry ρ × Nat :=
  registry.removeWhere (Entry.inGroup group)

def clearScope (registry : Registry ρ) (scope : String) : Registry ρ × Nat :=
  registry.removeWhere (Entry.inScope scope)

def removeHandler (registry : Registry ρ) (kind : PointKind) (id : HandlerId) :
    Registry ρ × Nat :=
  registry.removeWhere fun entry => entry.point == kind && entry.id == id

def forget (registry : Registry ρ) (kind : PointKind) : Registry ρ :=
  ({ registry with
    points := registry.points.remove kind
    locations := dropLocations registry.locations (registry.entriesOf kind) }).forgetView kind

/-- Removes every entry and enables everything; declarations stay. -/
def clear (registry : Registry ρ) : Registry ρ :=
  ({ registry with
    points := [], locations := [], disabledTags := [], disabledGroups := [] }).forgetViews

end Registry
end Plugboard
