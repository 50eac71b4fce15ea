import Plugboard.Registry.Basic
/-!
# What the registry reports

Counts over all entries, and the log events of the operations.
-/

namespace Plugboard

/-- Counts over a registry. -/
structure RegistryStats where
  points : Nat
  entries : Nat
  queued : Nat
  deferred : Nat
  scopes : Nat
  disabledTags : Nat
  disabledGroups : Nat
  deriving DecidableEq, Repr

namespace RegistryStats

def fields (stats : RegistryStats) : List (String × Nat) :=
  [("points", stats.points), ("entries", stats.entries), ("queued", stats.queued),
   ("deferred", stats.deferred), ("scopes", stats.scopes),
   ("disabled_tags", stats.disabledTags), ("disabled_groups", stats.disabledGroups)]

/-- One line for people. -/
def text (stats : RegistryStats) : String :=
  "Handlers: " ++ toString stats.entries ++ " across " ++ toString stats.points ++
    " points (" ++ toString stats.queued ++ " queued, " ++ toString stats.deferred ++
    " deferred), " ++ toString stats.scopes ++ " scopes, " ++ toString stats.disabledTags ++
    " tags and " ++ toString stats.disabledGroups ++ " groups disabled"

def inspect (stats : RegistryStats) : String :=
  Text.inspectRecord "RegistryStats"
    (stats.fields.map fun (field, count) => (field, toString count))

end RegistryStats

namespace Registry

variable {ρ : Type}

def stats (registry : Registry ρ) : RegistryStats :=
  let entries := registry.allEntries
  { points := registry.points.countP (fun point => !point.2.isEmpty)
    entries := entries.length
    queued := entries.countP Entry.isQueued
    deferred := entries.countP (fun entry => entry.deferredId?.isSome)
    scopes := (entries.filterMap Entry.scope).eraseDups.length
    disabledTags := registry.disabledTags.length
    disabledGroups := registry.disabledGroups.length }

def inspect (registry : Registry ρ) : String :=
  Text.inspectRecord "PriorityRegistry" [("stats", registry.stats.inspect)]

/-- The target of the registry's log events. -/
def target : String := "junction_core::registry"

def event (level : Level) (message : String) (fields : List (String × Value)) : LogEvent :=
  ⟨level, target, .message message, fields⟩

def handleText (handle : Nat) : String := "#" ++ toString handle

def insertEvent (registration : Registration ρ) (handle : Nat) : LogEvent :=
  event .debug "Registered handler"
    [("point", .string registration.point.name), ("handler", .string registration.id),
     ("priority", .ofInt registration.priority), ("handle", .string (handleText handle))]

def viewEvent (kind : PointKind) (count : Nat) : LogEvent :=
  event .trace "Rebuilt sorted view" [("point", .string kind.name), ("count", .ofNat count)]

def tagEvent (message tag : String) : LogEvent := event .debug message [("tag", .string tag)]

def groupEvent (message group : String) : LogEvent :=
  event .debug message [("group", .string group)]

def scopeEvent (scope : String) (removed : Nat) : LogEvent :=
  event .debug "Cleared scope" [("scope", .string scope), ("removed", .ofNat removed)]

end Registry
end Plugboard
