import Mathlib.Data.Finset.Basic
import Plugboard.Registry.Basic

/-!
# Registries and ledgers

A ledger is what a registry comes to when nothing is remembered and nothing is kept per
kind: the live entries in order of registration and what is disabled.  It follows a run of
a registry by looking at the operations and their replies only, and computes every view
from scratch.
-/

namespace Plugboard

variable {ρ : Type}

/-- One use of a registry, views included. -/
inductive RegistryOperation (ρ : Type) where
  | register (registration : Registration ρ)
  | registerFor (kind : PointKind) (handler : Handler ρ) (priority : Int)
  | registerNamed (name : String) (handler : Handler ρ) (priority : Int)
  | declare (kind : PointKind)
  | view (kind : PointKind)
  | tag (handle : Nat) (tags : List String)
  | untag (handle : Nat) (tag : String)
  | disableTag (tag : String)
  | enableTag (tag : String)
  | disableGroup (group : String)
  | enableGroup (group : String)
  | remove (handle : Nat)
  | removeHandler (kind : PointKind) (id : HandlerId)
  | removeGroup (group : String)
  | clearScope (scope : String)
  | forget (kind : PointKind)
  | clear

/-- What a registry replies to an operation. -/
inductive RegistryReply (ρ : Type) where
  | done
  | registered (handle : Nat)
  | removed (count : Nat)
  | view (entries : List (Entry ρ))
  | refused (error : RegistryError)

namespace Registry

def insertIf (registry : Registry ρ) :
    Except RegistryError (Registration ρ) → RegistryReply ρ × Registry ρ
  | .ok registration =>
      (.registered (registry.insert registration).2, (registry.insert registration).1)
  | .error error => (.refused error, registry)

/-- Takes the changed registry if the change was possible. -/
def changeIf (registry : Registry ρ) :
    Except RegistryError (Registry ρ) → RegistryReply ρ × Registry ρ
  | .ok changed => (.done, changed)
  | .error error => (.refused error, registry)

/-- Performs one operation.  A view that is looked at is remembered. -/
def perform (registry : Registry ρ) :
    RegistryOperation ρ → RegistryReply ρ × Registry ρ
  | .register registration => registry.insertIf (.ok registration)
  | .registerFor kind handler priority =>
      registry.insertIf (registrationFor kind handler priority)
  | .registerNamed name handler priority =>
      registry.insertIf (registry.registrationNamed name handler priority)
  | .declare kind => (.done, registry.declare kind)
  | .view kind => (.view (registry.view kind), registry.remember kind)
  | .tag handle tags => registry.changeIf (registry.tag handle tags)
  | .untag handle tag => registry.changeIf (registry.untag handle tag)
  | .disableTag tag => (.done, registry.disableTag tag)
  | .enableTag tag => (.done, registry.enableTag tag)
  | .disableGroup group => (.done, registry.disableGroup group)
  | .enableGroup group => (.done, registry.enableGroup group)
  | .remove handle => registry.changeIf (registry.remove handle)
  | .removeHandler kind id =>
      (.removed (registry.removeHandler kind id).2, (registry.removeHandler kind id).1)
  | .removeGroup group =>
      (.removed (registry.removeGroup group).2, (registry.removeGroup group).1)
  | .clearScope scope =>
      (.removed (registry.clearScope scope).2, (registry.clearScope scope).1)
  | .forget kind => (.done, registry.forget kind)
  | .clear => (.done, registry.clear)

def performAll (registry : Registry ρ) : List (RegistryOperation ρ) →
    List (RegistryOperation ρ × RegistryReply ρ) × Registry ρ
  | [] => ([], registry)
  | operation :: rest =>
      let later := (registry.perform operation).2.performAll rest
      ((operation, (registry.perform operation).1) :: later.1, later.2)

end Registry

/-- The live entries in order of registration, and what is disabled. -/
structure Ledger (ρ : Type) where
  live : List (Entry ρ)
  disabledTags : Finset String
  disabledGroups : Finset String

namespace Ledger

def empty : Ledger ρ := ⟨[], ∅, ∅⟩

def add (ledger : Ledger ρ) (entry : Entry ρ) : Ledger ρ :=
  { ledger with live := ledger.live ++ [entry] }

def strike (ledger : Ledger ρ) (applies : Entry ρ → Bool) : Ledger ρ :=
  { ledger with live := ledger.live.filter fun entry => !applies entry }

def retag (ledger : Ledger ρ) (handle : Nat) (change : TagSet → TagSet) : Ledger ρ :=
  { ledger with
    live := ledger.live.map fun entry =>
      if entry.handle = handle then { entry with tags := change entry.tags } else entry }

/-- Follows one operation and its reply. -/
def follow (ledger : Ledger ρ) : RegistryOperation ρ → RegistryReply ρ → Ledger ρ
  | .register registration, .registered handle => ledger.add (registration.toEntry handle)
  | .registerFor _ handler priority, .registered handle
  | .registerNamed _ handler priority, .registered handle =>
      ledger.add ((Registration.live handler priority).toEntry handle)
  | .tag handle tags, _ => ledger.retag handle fun set => set.insertAll tags
  | .untag handle tag, _ => ledger.retag handle fun set => set.remove tag
  | .disableTag tag, _ => { ledger with disabledTags := insert tag ledger.disabledTags }
  | .enableTag tag, _ => { ledger with disabledTags := ledger.disabledTags.erase tag }
  | .disableGroup group, _ =>
      { ledger with disabledGroups := insert group ledger.disabledGroups }
  | .enableGroup group, _ =>
      { ledger with disabledGroups := ledger.disabledGroups.erase group }
  | .remove handle, _ => ledger.strike fun entry => entry.handle == handle
  | .removeHandler kind id, _ =>
      ledger.strike fun entry => entry.point == kind && entry.id == id
  | .removeGroup group, _ => ledger.strike fun entry => entry.group == some group
  | .clearScope scope, _ => ledger.strike fun entry => entry.scope == some scope
  | .forget kind, _ => ledger.strike fun entry => entry.point == kind
  | .clear, _ => .empty
  | _, _ => ledger

def replay (ledger : Ledger ρ) (history : List (RegistryOperation ρ × RegistryReply ρ)) :
    Ledger ρ :=
  history.foldl (fun ledger event => ledger.follow event.1 event.2) ledger

/-- Neither the group nor a tag of the entry is disabled. -/
def Enables (ledger : Ledger ρ) (entry : Entry ρ) : Prop :=
  (∀ group ∈ entry.group, group ∉ ledger.disabledGroups) ∧
    ∀ tag ∈ entry.tags, tag ∉ ledger.disabledTags

instance (ledger : Ledger ρ) : DecidablePred ledger.Enables := fun _ =>
  inferInstanceAs (Decidable (_ ∧ _))

end Ledger

/-- One entry is dispatched before another: it has the smaller priority, or the same one
and was registered earlier. -/
def Entry.Precedes (left right : Entry ρ) : Prop :=
  left.priority < right.priority ∨
    left.priority = right.priority ∧ left.handle < right.handle

instance (left right : Entry ρ) : Decidable (left.Precedes right) :=
  inferInstanceAs (Decidable (_ ∨ _))

/-- The enabled entries of a kind in dispatch order, sorted from scratch. -/
def Ledger.view (ledger : Ledger ρ) (kind : PointKind) : List (Entry ρ) :=
  (ledger.live.filter fun entry => entry.point = kind ∧ ledger.Enables entry).mergeSort
    fun left right => !decide (right.Precedes left)

end Plugboard
